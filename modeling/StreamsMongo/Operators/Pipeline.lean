import StreamsMongo.Codec.Conversion
import StreamsMongo.Operators.QueryRuns
import StreamsMongo.Operators.WriteCalls
import StreamsMongo.Operators.WritePorts

set_option autoImplicit false

namespace StreamsMongo

/-- What one insert writes: a value, under a key or as the document itself. -/
structure Insertion where
  key : Option String
  data : SplData

namespace Insertion

variable (rt : SplRuntime) (insertion : Insertion)

def field (name : FieldName) : Option SplData :=
  match insertion.key with
  | some key => if key = name.chars then some insertion.data else none
  | none => (insertion.data.fields? rt).bind fun fields =>
      (fields.find? fun e => e.1 = name.chars).map Sigma.snd

theorem field_keyed (key : String) (data : SplData) (name : FieldName) :
    (Insertion.mk (some key) data).field rt name =
      if key = name.chars then some data else none := rfl

theorem field_unkeyed (data : SplData) (name : FieldName) :
    (Insertion.mk none data).field rt name = (data.fields? rt).bind fun fields =>
      (fields.find? fun e => e.1 = name.chars).map Sigma.snd := rfl

def build (lib : DriverLibrary) : Except Raised BSONObj :=
  BSONCommon.buildBSONObjectWithKey rt lib insertion.key
    (.value insertion.data.type insertion.data.value)

-- What the generator demands of the argument types: a document or a key, and distinct names.
structure Accepted : Prop where
  wellFormed : insertion.data.type.WellFormed
  keyed : insertion.key = none → BSONCommon.keyLess insertion.data.type = false

end Insertion

def Attributes.collect (rt : SplRuntime) :
    (attrs : Attributes) → (FieldName → Option SplData) → attrs.Value
  | .nil, _ => ()
  | .cons name t rest, field =>
      (((field name).bind (t.convert rt)).getD t.cleared, rest.collect rt field)

section Documents

open BSONCommon QueryCommon

variable (rt : SplRuntime) (lib : DriverLibrary)

theorem document_fields (t : SplType) (document : keyLess t = false) (value : t.Value) :
    ∃ fields, SplData.fields? rt ⟨t, value⟩ = some fields := by
  cases t with
  | prim | list | set => cases document
  | map | tuple => exact ⟨_, rfl⟩

theorem getField_built (insertion : Insertion) (accepted : insertion.Accepted) (doc : BSONObj)
    (built : insertion.build rt lib = .ok doc) (name : FieldName) (r : SplType) :
    (doc.getField name).bind (refDecode rt r) =
      (insertion.field rt name).bind (r.convert rt) := by
  obtain ⟨key, t, value⟩ := insertion
  obtain ⟨wellFormed, keyed⟩ := accepted
  simp only [Insertion.build, buildBSONObjectWithKey, Data.build, Loops.bind_eq_ok] at built
  obtain ⟨⟨function, inner⟩, element, built⟩ := built
  have written : SplData.Written rt ⟨t, value⟩ inner.appended :=
    ⟨wellFormed, function, inner, element, rfl⟩
  cases key with
  | some chars =>
    simp only [BSONObjBuilder.append, Loops.bind_eq_ok, Loops.pure_eq_ok] at built
    obtain ⟨key, checked, rfl⟩ := built
    have same := checkFieldName_eq_ok chars key checked
    subst same
    rw [List.nil_append, BSONObj.getField_cons,
      buildBSONObject_element rt t value function inner element]
    rw [Insertion.field_keyed]
    by_cases named : key = name
    · rw [if_pos named, if_pos (congrArg FieldName.chars named)]
      exact refDecode_written rt r ⟨t, value⟩ inner.appended written
    · rw [if_neg named, if_neg fun same => named (FieldName.eq_of_chars same)]
      rfl
  | none =>
    have document := keyed rfl
    obtain ⟨fields, known⟩ := document_fields rt t document value
    obtain ⟨bo, same, _, rounds⟩ : ∃ bo : BSONObj, inner.appended = .object bo ∧
        (fields.map Sigma.fst).Nodup ∧ List.Forall₂ (SplData.FieldWritten rt) fields bo := by
      cases SplData.Written.shape rt _ _ written with
      | leaf _ noFields => cases known.symm.trans noFields
      | array _ _ _ noFields => cases known.symm.trans noFields
      | object fields' bo known' _ _ same distinct rounds =>
        cases known.symm.trans known'
        exact ⟨bo, same, distinct, rounds⟩
    have content := buildBSONObject_document rt t document value function inner element
    rw [same] at content
    cases content
    cases built
    have found := getField_written rt _ (r.convert rt) (refDecode_written rt r) name fields _ rounds
    rw [found, Insertion.field_unkeyed, known, Option.bind_some]
    cases fields.find? fun e => e.1 = name.chars <;> rfl

theorem getField_stored (oid : BitVec 96) (insertion : Insertion) (accepted : insertion.Accepted)
    (doc : BSONObj) (built : insertion.build rt lib = .ok doc) (name : FieldName) (r : SplType) :
    ((serverStore oid doc).getField name).bind (refDecode rt r) =
      (insertion.field rt name).bind (r.convert rt) := by
  have plain := getField_built rt lib insertion accepted doc built name r
  by_cases other : name = idName
  · subst other
    unfold serverStore
    split_ifs with stored
    · exact plain
    · have absent : doc.getField idName = none := by
        simpa [BSONObj.hasElement] using stored
      rw [absent] at plain
      rw [BSONObj.getField_cons, if_pos rfl, ← plain]
      exact refDecode_jstOID rt r oid
  · rw [getField_serverStore oid doc name other, plain]

end Documents

namespace Write

variable {Ext Tup : Type} {n : Nat} (spec : Specification Ext Tup .insert n)
  (rt : SplRuntime) (lib : DriverLibrary) (getCppTupleName : Nat → String)

def insertion? (arrival : Arrival Ext Tup) (i : Fin n) : Option Insertion :=
  match (spec.assignment i).operation? with
  | some (.insertDocument args) =>
      match args.data with
      | .value t expr => some ⟨args.key.map fun key => key.eval arrival, t, expr.eval arrival⟩
      | .asJson _ => none
  | none => none

def ValuesOnly : Prop :=
  ∀ i args, (spec.assignment i).operation? = some (.insertDocument args) →
    ∃ t expr, args.data = .value t expr ∧ t.WellFormed

theorem sends_insertion (valuesOnly : ValuesOnly spec)
    (accepted : spec.errors getCppTupleName = []) (state : State)
    (input : Arrival Ext Tup × (Fin n → Driver)) (i : Fin n) (sent : Fin n × DriverCall)
    (sends : sends spec rt lib getCppTupleName state input i = some sent) :
    ∃ dbCollection doc insertion, sent.2 = .insert dbCollection doc ∧
      insertion? spec input.1 i = some insertion ∧ insertion.Accepted ∧
      insertion.build rt lib = .ok doc := by
  obtain ⟨issued, found, rfl⟩ := Option.map_eq_some_iff.mp sends
  unfold issuedFor Assignment.issued at found
  obtain ⟨call, isCall, found⟩ := Option.bind_eq_some_iff.mp found
  split_ifs at found
  cases built : call.driverCall rt lib (findQueryBO rt lib spec state) input.1 with
  | error e =>
    rw [built] at found
    cases found
  | ok made =>
    rw [built] at found
    cases connected : (input.2 i).connection with
    | error e =>
      rw [connected] at found
      cases found
    | ok _ =>
      rw [connected] at found
      cases found
      match call with
      | .insertDocument args =>
        obtain ⟨t, expr, data, wellFormed⟩ := valuesOnly i args isCall
        have silent := call_errors spec getCppTupleName accepted i (.insertDocument args) isCall
        have keyed := (List.append_eq_nil_iff.mp silent).1
        simp only [Operation.driverCall, WriteArguments.bsonObj, data, DataArgument.eval,
          Loops.bind_eq_ok, Loops.pure_eq_ok] at built
        obtain ⟨doc, document, rfl⟩ := built
        have keyLess : args.key = none → BSONCommon.keyLess t = false := by
          intro noKey
          rw [checkKey, noKey, data] at keyed
          simpa using keyed
        refine ⟨_, doc, ⟨args.key.map (Expression.eval · input.1), ⟨t, expr.eval input.1⟩⟩, rfl, ?_,
          ⟨wellFormed, fun noKey => keyLess (Option.map_eq_none_iff.mp noKey)⟩, document⟩
        simp only [insertion?, isCall, data]

theorem run_insertion (valuesOnly : ValuesOnly spec) (accepted : spec.errors getCppTupleName = [])
    (state : State) (inputs : List (Arrival Ext Tup × (Fin n → Driver))) (outcome : Outcome spec)
    (answered : outcome ∈ (Machine.run (process rt lib getCppTupleName spec) state inputs).2)
    (i : Fin n) (dbCollection : String) (doc : BSONObj)
    (issued : (i, DriverCall.insert dbCollection doc) ∈ outcome.calls) :
    ∃ input ∈ inputs, ∃ insertion, insertion? spec input.1 i = some insertion ∧
      insertion.Accepted ∧ insertion.build rt lib = .ok doc := by
  have related := Machine.run_related (process rt lib getCppTupleName spec)
    (fun _ => True) (fun input outcome => ∀ sent ∈ outcome.calls, ∃ insertion dbCollection doc,
      sent.2 = .insert dbCollection doc ∧ insertion? spec input.1 sent.1 = some insertion ∧
        insertion.Accepted ∧ insertion.build rt lib = .ok doc) State.counter
    (fun input outcome => outcome.calls.countP (succeeds input)) (fun _ _ _ => trivial) ?_
    (fun state input _ => (process_in_order spec rt lib getCppTupleName state input).2) state inputs
    trivial
  · obtain ⟨input, member, each⟩ := Loops.forall₂_mem_right _ _ _ related.1 outcome answered
    obtain ⟨insertion, _, _, same, made⟩ := each _ issued
    cases same
    exact ⟨input, member, insertion, made⟩
  · intro state input _ sent member
    obtain ⟨done, _, calls, _⟩ := (process_in_order spec rt lib getCppTupleName state input).1.sent
    rw [calls] at member
    obtain ⟨i, _, sends⟩ := List.mem_filterMap.mp member
    obtain ⟨dbCollection, doc, insertion, same, made⟩ := sends_insertion spec rt lib getCppTupleName
      valuesOnly accepted state input i sent sends
    obtain ⟨_, _, rfl⟩ := Option.map_eq_some_iff.mp sends
    exact ⟨insertion, dbCollection, doc, same, made⟩

end Write

namespace Query

variable {In : Type} (rt : SplRuntime) (lib : DriverLibrary)

def Schema.fields : (attrs : Attributes) → Schema In attrs
  | .nil => .nil
  | .cons _ _ rest => .cons (.outputFunction (.queryDocumentField none)) (Schema.fields rest)

theorem fields_inputDerived : (attrs : Attributes) → (tuple : In) →
    (Schema.fields attrs).inputDerived tuple = .ok attrs.cleared
  | .nil, _ => rfl
  | .cons _ t rest, tuple => by
      rw [Schema.fields, Schema.inputDerived, fields_inputDerived rest tuple]
      rfl

theorem fields_overlay (field : FieldName → Option SplData) (queryResultBO : BSONObj)
    (agree : ∀ (name : FieldName) (r : SplType), (queryResultBO.getField name).bind
      (QueryCommon.refDecode rt r) = (field name).bind (r.convert rt)) :
    (attrs : Attributes) → (tuple : In) →
    (Schema.fields attrs).overlay rt lib tuple queryResultBO attrs.cleared = attrs.collect rt field
  | .nil, _ => rfl
  | .cons name t rest, tuple =>
      Prod.ext (congrArg (Option.getD · t.cleared) (agree name t))
        (fields_overlay field queryResultBO agree rest tuple)

end Query

section Pipeline

variable {Ext Tup Ext' Tup' : Type} {n : Nat} {attrs : Attributes}
  (inserter : Write.Specification Ext Tup .insert n)
  (querier : Query.Specification Ext' Tup' attrs)
  (rt : SplRuntime) (lib : DriverLibrary) (getCppTupleName : Nat → String)
  (hashCode : attrs.Value → BitVec 64)

def StoredBy (state : Write.State)
    (inputs : List (Arrival Ext Tup × (Fin n → Write.Driver))) (doc : BSONObj) : Prop :=
  ∃ outcome ∈ (Machine.run (Write.process rt lib getCppTupleName inserter) state inputs).2,
    ∃ i dbCollection sent oid, (i, Write.DriverCall.insert dbCollection sent) ∈ outcome.calls ∧
      doc = serverStore oid sent

def InsertedAs (inputs : List (Arrival Ext Tup × (Fin n → Write.Driver))) (doc : BSONObj)
    (insertion : Insertion) : Prop :=
  ∃ input ∈ inputs, ∃ i, Write.insertion? inserter input.1 i = some insertion ∧
    ∃ sent oid, insertion.build rt lib = .ok sent ∧ doc = serverStore oid sent

theorem inserted_then_queried (valuesOnly : Write.ValuesOnly inserter)
    (accepted : inserter.errors getCppTupleName = []) (state : Write.State)
    (inputs : List (Arrival Ext Tup × (Fin n → Write.Driver)))
    (fields : querier.schema = Query.Schema.fields attrs) (external : Ext')
    (initial : Query.State attrs)
    (constructed : Query.construct rt lib querier external = .ok initial)
    (earlier : List (Arrival Ext' Tup' × Query.Driver)) (arrival : Arrival Ext' Tup')
    (driver : Query.Driver) (documents : List BSONObj)
    (queried : Query.prepare rt lib querier
      (Machine.run (Query.process rt lib hashCode querier) initial earlier).1 arrival driver =
        .ok (some documents))
    (noError : driver.getLastError = "")
    (stored : ∀ doc ∈ documents, StoredBy inserter rt lib getCppTupleName state inputs doc) :
    ∃ insertions, List.Forall₂ (InsertedAs inserter rt lib inputs) documents insertions ∧
      (Query.process rt lib hashCode querier
        (Machine.run (Query.process rt lib hashCode querier) initial earlier).1
        (arrival, driver)).2 =
        ⟨((insertions.map fun insertion => attrs.collect rt (insertion.field rt)).filter
            fun otuple => hashCode otuple ≠ hashCode attrs.cleared).map .tuple ++
          [Query.closing attrs.cleared documents], .returned⟩ := by
  have each : ∀ doc ∈ documents, ∃ insertion, InsertedAs inserter rt lib inputs doc insertion ∧
      querier.schema.overlay rt lib arrival doc attrs.cleared =
        attrs.collect rt (insertion.field rt) := by
    intro doc member
    obtain ⟨outcome, answered, i, dbCollection, sent, oid, issued, rfl⟩ := stored doc member
    obtain ⟨input, arrived, insertion, made, typed, built⟩ := Write.run_insertion inserter rt lib
      getCppTupleName valuesOnly accepted state inputs outcome answered i dbCollection sent issued
    refine ⟨insertion, ⟨input, arrived, i, made, sent, oid, built, rfl⟩, ?_⟩
    rw [fields]
    exact Query.fields_overlay rt lib (insertion.field rt) _
      (getField_stored rt lib oid insertion typed sent built) attrs arrival
  obtain ⟨insertions, rounds⟩ := Loops.forall₂_of_exists _ documents each
  refine ⟨insertions, rounds.imp fun _ _ => And.left, ?_⟩
  have clean := Query.reachable_clean rt lib hashCode querier external initial constructed earlier
  have derived : querier.schema.inputDerived arrival = .ok attrs.cleared := by
    rw [fields]
    exact Query.fields_inputDerived attrs arrival
  rw [Query.process_documents rt lib hashCode querier _ arrival driver attrs.cleared documents clean
    derived queried noError]
  have decoded :
      documents.map (fun doc => querier.schema.overlay rt lib arrival doc attrs.cleared) =
        insertions.map fun insertion => attrs.collect rt (insertion.field rt) := by
    clear stored each queried
    induction rounds with
    | nil => rfl
    | cons here _ ih => rw [List.map_cons, List.map_cons, here.2, ih]
  rw [← decoded, List.filter_map, List.map_map]
  rfl

end Pipeline

section Orders

def orderInserter : Write.Specification Unit orderAttributes.Value .insert 1 where
  numberOfInputPorts := 1
  attributes _ := .prim .rstring
  assignment _ := .operation (.insertDocument ⟨Write.literal "streams", Write.literal "orders",
    none, .value (.tuple orderAttributes) ⟨[.stream 0 ""], fun arrival => arrival.tuple⟩⟩)
  findQuery := none
  noFindQuery _ := rfl
  portsExist _ call isCall port member := by
    cases isCall
    cases List.mem_singleton.mp member
    exact Nat.zero_lt_one
  queryPortsExist := nofun

def spareOrder : orderAttributes.Value := ("washer", [[1#32, 2#32]], ())

def orderInputs : List (Arrival Unit orderAttributes.Value × (Fin 1 → Write.Driver)) :=
  [order, spareOrder].map fun tuple => (⟨(), tuple, 0⟩, fun _ => ⟨.ok (), fun _ => .ok ""⟩)

def orderDocument : BSONObj :=
  [(⟨"item", item_noNul⟩, .string "bolt"),
    (⟨"lines", lines_noNul⟩, .array [(indexName 0, .array [(indexName 0, .numberInt 3#32)]),
      (indexName 1, .array [])])]

def spareDocument : BSONObj :=
  [(⟨"item", item_noNul⟩, .string "washer"),
    (⟨"lines", lines_noNul⟩, .array [(indexName 0,
      .array [(indexName 0, .numberInt 1#32), (indexName 1, .numberInt 2#32)])])]

def storedOrders : List BSONObj := [serverStore 5#96 orderDocument, serverStore 6#96 spareDocument]

def stockQuerier : Query.Specification Unit Unit stockAttributes where
  schema := Query.Schema.fields stockAttributes
  db _ := "streams"
  collection _ := "orders"
  nToReturn _ := 0#32
  findFields := none
  findQuery := none

-- Tells apart the two orders and the cleared tuple.
def itemHash (otuple : stockAttributes.Value) : BitVec 64 :=
  BitVec.ofNat 64 otuple.2.2.1.length

theorem storedOrders_storedBy : ∀ doc ∈ storedOrders, StoredBy orderInserter SplRuntime.plain
    DriverLibrary.plain Write.tupleName ⟨[], 0⟩ orderInputs doc := by
  intro doc member
  rcases List.mem_pair.mp member with rfl | rfl
  · exact ⟨_, List.mem_cons_self, 0, "streams.orders", orderDocument, 5#96,
      List.mem_singleton.mpr rfl, rfl⟩
  · exact ⟨_, List.mem_cons_of_mem _ List.mem_cons_self, 0, "streams.orders", spareDocument, 6#96,
      List.mem_singleton.mpr rfl, rfl⟩

theorem inserted_then_queried_orders :
    ∃ insertions, List.Forall₂ (InsertedAs orderInserter SplRuntime.plain DriverLibrary.plain
        orderInputs) storedOrders insertions ∧
      (Query.process SplRuntime.plain DriverLibrary.plain itemHash stockQuerier
        ⟨none, [], [], 0⟩ (⟨(), (), 0⟩, Query.found storedOrders)).2 =
        ⟨((insertions.map fun insertion =>
              stockAttributes.collect SplRuntime.plain (insertion.field SplRuntime.plain)).filter
            fun otuple => itemHash otuple ≠ itemHash stockAttributes.cleared).map .tuple ++
          [Query.closing stockAttributes.cleared storedOrders], .returned⟩ :=
  inserted_then_queried orderInserter stockQuerier SplRuntime.plain DriverLibrary.plain
    Write.tupleName itemHash
    (fun i args isCall => by
      cases isCall
      exact ⟨_, _, rfl, by decide, trivial, trivial, trivial⟩)
    rfl ⟨[], 0⟩ orderInputs rfl () ⟨none, [], [], 0⟩ rfl [] ⟨(), (), 0⟩
    (Query.found storedOrders) storedOrders rfl rfl storedOrders_storedBy

example : (Query.process SplRuntime.plain DriverLibrary.plain itemHash stockQuerier
    ⟨none, [], [], 0⟩ (⟨(), (), 0⟩, Query.found storedOrders)).2.submitted =
      [.tuple (({[3#64]} : Finset (List (BitVec 64))), "", "bolt", ()),
        .tuple (({[1#64, 2#64]} : Finset (List (BitVec 64))), "", "washer", ()),
        Query.closing stockAttributes.cleared storedOrders] := rfl

end Orders

end StreamsMongo
