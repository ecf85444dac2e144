import StreamsMongo.Operators.QueryRuns
import StreamsMongo.Operators.WriteRuns

set_option autoImplicit false

namespace StreamsMongo

variable {Ext Tup : Type} (build : (t : SplType) → t.Value → Except Raised BSONObj)

namespace QueryCommon

def freshBO (param : Option (FindParameter Ext Tup)) (arrival : Arrival Ext Tup) :
    Except Raised BSONObj :=
  match param with
  | some expr => build expr.type (expr.eval arrival)
  | none => .ok []

-- An expression without stream attributes gives now the document it gave in the constructor.
def Unchanged (param : Option (FindParameter Ext Tup)) (atStart : Ext)
    (arrival : Arrival Ext Tup) : Prop :=
  ∀ expr ∈ param, hasStreamAttributes expr.fragments = false →
    build expr.type (expr.eval arrival) = build expr.type (expr.atStart atStart)

/-- Where a document comes from that is passed to the driver for an arrival. -/
structure Passed (param : Option (FindParameter Ext Tup)) (atStart : Ext)
    (arrival : Arrival Ext Tup) (obj : BSONObj) : Prop where
  built : ∀ expr ∈ param, hasStreamAttributes expr.fragments = true →
    freshBO build param arrival = .ok obj
  cached : (∀ expr ∈ param, hasStreamAttributes expr.fragments = false) →
    initialBO build param atStart = .ok obj
  fresh_iff : freshBO build param arrival = .ok obj ↔ Unchanged build param atStart arrival

theorem currentBO_passed (param : Option (FindParameter Ext Tup)) (atStart : Ext)
    (arrival : Arrival Ext Tup) (member obj : BSONObj)
    (cached : initialBO build param atStart = .ok member)
    (passed : currentBO build param member arrival = .ok obj) :
    Passed build param atStart arrival obj := by
  cases param with
  | none =>
    cases cached
    cases passed
    refine ⟨fun expr given => ?_, fun _ => rfl, iff_of_true rfl fun expr given => ?_⟩ <;>
      cases given
  | some expr =>
    simp only [initialBO] at cached
    simp only [currentBO] at passed
    constructor <;> simp only [freshBO, initialBO, Unchanged, Option.mem_some_iff, forall_eq']
    · intro streams
      rwa [streams, if_pos rfl] at passed
    · intro constant
      rw [constant, if_neg Bool.false_ne_true] at cached passed ⊢
      cases passed
      exact cached
    · cases streams : hasStreamAttributes expr.fragments with
      | true =>
        rw [streams, if_pos rfl] at passed
        refine iff_of_true passed ?_
        intro unread
        cases unread
      | false =>
        rw [streams, if_neg Bool.false_ne_true] at cached passed
        cases passed
        rw [cached]
        exact ⟨fun fresh _ => fresh, fun same => same rfl⟩

end QueryCommon

namespace Query

variable {attrs : Attributes} (rt : SplRuntime) (lib : DriverLibrary)

def queryCall (spec : Specification Ext Tup attrs) (state : State attrs)
    (arrival : Arrival Ext Tup) : Except Raised QueryCall := do
  let findFieldsBO ← QueryCommon.currentBO (QueryCommon.buildFindFieldsBO rt) spec.findFields
    state.findFieldsBO arrival
  let findQueryBO ← QueryCommon.currentBO (QueryCommon.buildFindQueryBO rt lib) spec.findQuery
    state.findQueryBO arrival
  return {
    dbCollection := spec.db arrival ++ "." ++ spec.collection arrival
    findQueryBO
    nToReturn := spec.nToReturn arrival
    findFieldsBO }

theorem prepare_queryCall (spec : Specification Ext Tup attrs) (state : State attrs)
    (arrival : Arrival Ext Tup) (driver : Driver) :
    prepare rt lib spec state arrival driver = (do
      let call ← queryCall rt lib spec state arrival
      driver.connection
      driver.query call) := by
  simp only [prepare, queryCall, bind_assoc, pure_bind]

def issued (spec : Specification Ext Tup attrs) (state : State attrs)
    (input : Arrival Ext Tup × Driver) : Option QueryCall :=
  match (assignAsIs spec.schema input.1 (getOutputTuple state)).2, input.2.connection,
    queryCall rt lib spec state input.1 with
  | none, .ok _, .ok call => some call
  | _, _, _ => none

variable (hashCode : attrs.Value → BitVec 64) (spec : Specification Ext Tup attrs)

theorem process_issued (state : State attrs) (arrival : Arrival Ext Tup) (driver : Driver)
    (query : QueryCall → Except Raised (Option (List BSONObj)))
    (same : ∀ call ∈ issued rt lib spec state (arrival, driver), query call = driver.query call) :
    process rt lib hashCode spec state (arrival, { driver with query }) =
      process rt lib hashCode spec state (arrival, driver) := by
  unfold process
  unfold issued at same
  generalize assignAsIs spec.schema arrival (getOutputTuple state) = assigned at same
  obtain ⟨otuple, raised⟩ := assigned
  cases raised with
  | some e => rfl
  | none =>
    have prepared : prepare rt lib spec { state with otuplePtr := some otuple } arrival
        { driver with query } =
        prepare rt lib spec { state with otuplePtr := some otuple } arrival driver := by
      have document : queryCall rt lib spec { state with otuplePtr := some otuple } arrival =
          queryCall rt lib spec state arrival := rfl
      rw [prepare_queryCall, prepare_queryCall, document]
      cases made : queryCall rt lib spec state arrival with
      | error e => rfl
      | ok call =>
        cases connected : driver.connection with
        | error e => rfl
        | ok _ => exact same call (by simp [connected, made])
    simp only [runQuery, prepared]

theorem issued_eq_some (state : State attrs) (input : Arrival Ext Tup × Driver) (call : QueryCall)
    (passed : issued rt lib spec state input = some call) :
    QueryCommon.currentBO (QueryCommon.buildFindQueryBO rt lib) spec.findQuery state.findQueryBO
        input.1 = .ok call.findQueryBO ∧
      QueryCommon.currentBO (QueryCommon.buildFindFieldsBO rt) spec.findFields state.findFieldsBO
        input.1 = .ok call.findFieldsBO := by
  unfold issued at passed
  split at passed
  · cases passed
    rename_i made
    simp only [queryCall, Loops.bind_eq_ok, Loops.pure_eq_ok] at made
    obtain ⟨fields, fieldsMade, query, queryMade, same⟩ := made
    cases same
    exact ⟨queryMade, fieldsMade⟩
  · cases passed

theorem construct_documents (external : Ext) (initial : State attrs)
    (constructed : construct rt lib spec external = .ok initial) :
    QueryCommon.initialBO (QueryCommon.buildFindQueryBO rt lib) spec.findQuery external =
        .ok initial.findQueryBO ∧
      QueryCommon.initialBO (QueryCommon.buildFindFieldsBO rt) spec.findFields external =
        .ok initial.findFieldsBO := by
  simp only [construct, Loops.bind_eq_ok, Loops.pure_eq_ok] at constructed
  obtain ⟨fields, fieldsMade, query, queryMade, same⟩ := constructed
  cases same
  exact ⟨queryMade, fieldsMade⟩

theorem run_documents (initial : State attrs) (clean : Clean spec initial)
    (earlier : List (Arrival Ext Tup × Driver)) :
    let state := (Machine.run (process rt lib hashCode spec) initial earlier).1
    state.findQueryBO = initial.findQueryBO ∧ state.findFieldsBO = initial.findFieldsBO := by
  have kept := Machine.reachable_invariant (process rt lib hashCode spec)
    (fun state => Clean spec state ∧ state.findQueryBO = initial.findQueryBO ∧
      state.findFieldsBO = initial.findFieldsBO)
    (fun state input holds => by
      have step := process_clean rt lib hashCode spec state input holds.1
      exact ⟨step.1, step.2.2.trans holds.2.1, step.2.1.trans holds.2.2⟩)
    initial earlier ⟨clean, rfl, rfl⟩
  exact kept.2

theorem issued_passed (external : Ext) (initial : State attrs)
    (constructed : construct rt lib spec external = .ok initial)
    (earlier : List (Arrival Ext Tup × Driver)) (input : Arrival Ext Tup × Driver)
    (call : QueryCall)
    (passed : issued rt lib spec (Machine.run (process rt lib hashCode spec) initial earlier).1
      input = some call) :
    QueryCommon.Passed (QueryCommon.buildFindQueryBO rt lib) spec.findQuery external input.1
        call.findQueryBO ∧
      QueryCommon.Passed (QueryCommon.buildFindFieldsBO rt) spec.findFields external input.1
        call.findFieldsBO := by
  obtain ⟨query, fields⟩ := issued_eq_some rt lib spec _ input call passed
  obtain ⟨queryStart, fieldsStart⟩ := construct_documents rt lib spec external initial constructed
  obtain ⟨queryKept, fieldsKept⟩ := run_documents rt lib hashCode spec initial
    (construct_clean rt lib spec external initial constructed) earlier
  rw [queryKept] at query
  rw [fieldsKept] at fields
  exact ⟨QueryCommon.currentBO_passed _ _ _ _ _ _ queryStart query,
    QueryCommon.currentBO_passed _ _ _ _ _ _ fieldsStart fields⟩

end Query

namespace Write

variable {op : Operator} {n : Nat} (spec : Specification Ext Tup op n) (rt : SplRuntime)
  (lib : DriverLibrary) (getCppTupleName : Nat → String)

def DriverCall.findQueryBO : DriverCall → Option BSONObj
  | .insert _ _ => none
  | .update _ findQueryBO _ _ _ => some findQueryBO
  | .remove _ findQueryBO _ => some findQueryBO

theorem driverCall_findQueryBO (query : Arrival Ext Tup → Except Raised BSONObj)
    (arrival : Arrival Ext Tup) (call : Operation (Arrival Ext Tup) op) (issued : DriverCall)
    (made : call.driverCall rt lib query arrival = .ok issued) (document : BSONObj)
    (passed : issued.findQueryBO = some document) : query arrival = .ok document := by
  cases call with
  | insertDocument args =>
    simp only [Operation.driverCall, Loops.bind_eq_ok, Loops.pure_eq_ok] at made
    obtain ⟨_, _, same⟩ := made
    cases same
    cases passed
  | updateDocument function args =>
    simp only [Operation.driverCall, Loops.bind_eq_ok, Loops.pure_eq_ok] at made
    obtain ⟨_, _, found, returned, same⟩ := made
    cases same
    cases passed
    exact returned
  | removeDocument function db collection =>
    simp only [Operation.driverCall, Loops.bind_eq_ok, Loops.pure_eq_ok] at made
    obtain ⟨found, returned, same⟩ := made
    cases same
    cases passed
    exact returned

variable (op) in
def CallsBuilt (query : Arrival Ext Tup → Except Raised BSONObj) (arrival : Arrival Ext Tup)
    (calls : List (Fin n × DriverCall)) : Prop :=
  ∀ entry ∈ calls, ∃ call : Operation (Arrival Ext Tup) op,
    call.driverCall rt lib query arrival = .ok entry.2

def Effect.issued {t : SplType} : Effect t → Option DriverCall
  | .succeeded call | .failed call _ => some call
  | .stopped _ issued _ => issued
  | _ => none

theorem apply_calls (progress : Progress spec) (i : Fin n) (effect : Effect (spec.attributes i)) :
    (progress.apply i effect).calls =
      progress.calls ++ effect.issued.toList.map fun call => (i, call) := by
  cases effect with
  | skipped | assigned value => simp [Progress.apply, Effect.issued]
  | succeeded call | failed call errorMsg => simp [Progress.apply, Effect.issued]
  | stopped entered issued stop => rfl

theorem execute_issued (query : Arrival Ext Tup → Except Raised BSONObj)
    (arrival : Arrival Ext Tup) (driver : Driver) (hasTuple : Bool) {t : SplType}
    (assignment : Assignment (Arrival Ext Tup) op t) (issued : DriverCall)
    (made : (assignment.execute rt lib getCppTupleName spec query arrival driver
      hasTuple).issued = some issued) :
    ∃ call : Operation (Arrival Ext Tup) op,
      call.driverCall rt lib query arrival = .ok issued := by
  cases assignment with
  | unassigned => cases made
  | asIs init =>
    simp only [Assignment.execute] at made
    cases hasTuple with
    | false => cases made
    | true => cases result : init arrival <;> simp [result, Effect.issued] at made
  | operation call =>
    refine ⟨call, ?_⟩
    have path := call.execute_path spec rt lib getCppTupleName query arrival driver
    rw [Assignment.execute] at made
    generalize call.execute rt lib getCppTupleName spec query arrival driver = effect at made path
    cases path with
    | rejected _ | unbuilt _ _ _ | unconnected _ _ _ => cases made
    | unanswered document _ _ built _ | succeeded document _ built _ _
    | failed document _ _ built =>
      cases made
      exact built

theorem foldl_callsBuilt (query : Arrival Ext Tup → Except Raised BSONObj)
    (arrival : Arrival Ext Tup) (drivers : Fin n → Driver) (rest : List (Fin n))
    (progress : Progress spec) (before : CallsBuilt op rt lib query arrival progress.calls) :
    CallsBuilt op rt lib query arrival
      (rest.foldl (assign rt lib getCppTupleName spec query arrival drivers) progress).calls := by
  refine foldl_assign_invariant spec rt lib getCppTupleName query arrival drivers
    (fun progress => CallsBuilt op rt lib query arrival progress.calls) ?_ rest progress before
  intro progress i before entry member
  rw [apply_calls, List.mem_append] at member
  rcases member with earlier | now
  · exact before entry earlier
  · obtain ⟨issued, made, rfl⟩ := List.mem_map.mp now
    exact execute_issued spec rt lib getCppTupleName query arrival (drivers i) _ _ issued
      (Option.mem_toList.mp made)

theorem call_passed (external : Ext) (initial : State)
    (constructed : construct rt lib spec external = .ok initial)
    (earlier : List (Arrival Ext Tup × (Fin n → Driver)))
    (input : Arrival Ext Tup × (Fin n → Driver)) (entry : Fin n × DriverCall)
    (member : entry ∈ (process rt lib getCppTupleName spec
      (Machine.run (process rt lib getCppTupleName spec) initial earlier).1 input).2.calls)
    (document : BSONObj) (passed : entry.2.findQueryBO = some document) :
    QueryCommon.Passed (QueryCommon.buildFindQueryBO rt lib) spec.findQuery external input.1
      document := by
  have start : QueryCommon.initialBO (QueryCommon.buildFindQueryBO rt lib) spec.findQuery external =
      .ok initial.findQueryBO := by
    simp only [construct, Loops.bind_eq_ok, Loops.pure_eq_ok] at constructed
    obtain ⟨query, made, same⟩ := constructed
    cases same
    exact made
  have kept : (Machine.run (process rt lib getCppTupleName spec) initial earlier).1.findQueryBO =
      initial.findQueryBO :=
    Machine.reachable_invariant (process rt lib getCppTupleName spec)
      (fun state => state.findQueryBO = initial.findQueryBO) (fun _ _ same => same) initial earlier
      rfl
  obtain ⟨call, made⟩ := foldl_callsBuilt spec rt lib getCppTupleName _ input.1 input.2
    (List.finRange n) (started spec _) (fun _ none => absurd none List.not_mem_nil) entry member
  have query := driverCall_findQueryBO rt lib _ input.1 call entry.2 made document passed
  rw [findQueryBO, kept] at query
  exact QueryCommon.currentBO_passed _ _ _ _ _ _ start query

end Write

theorem passed_documents_fresh_iff (rt : SplRuntime) (lib : DriverLibrary) :
    (∀ {Ext Tup : Type} {attrs : Attributes} (hashCode : attrs.Value → BitVec 64)
      (spec : Query.Specification Ext Tup attrs) (external : Ext) (initial : Query.State attrs),
      Query.construct rt lib spec external = .ok initial →
      ∀ (earlier : List (Arrival Ext Tup × Query.Driver)) (input : Arrival Ext Tup × Query.Driver),
      let state := (Machine.run (Query.process rt lib hashCode spec) initial earlier).1
      (∀ query, (∀ call ∈ Query.issued rt lib spec state input, query call = input.2.query call) →
        Query.process rt lib hashCode spec state (input.1, { input.2 with query }) =
          Query.process rt lib hashCode spec state input) ∧
      ∀ call, Query.issued rt lib spec state input = some call →
        QueryCommon.Passed (QueryCommon.buildFindQueryBO rt lib) spec.findQuery external input.1
            call.findQueryBO ∧
          QueryCommon.Passed (QueryCommon.buildFindFieldsBO rt) spec.findFields external input.1
            call.findFieldsBO) ∧
    ∀ {Ext Tup : Type} {op : Write.Operator} {n : Nat} (getCppTupleName : Nat → String)
      (spec : Write.Specification Ext Tup op n) (external : Ext) (initial : Write.State),
      Write.construct rt lib spec external = .ok initial →
      ∀ (earlier : List (Arrival Ext Tup × (Fin n → Write.Driver)))
        (input : Arrival Ext Tup × (Fin n → Write.Driver)) (entry : Fin n × Write.DriverCall),
      entry ∈ (Write.process rt lib getCppTupleName spec
        (Machine.run (Write.process rt lib getCppTupleName spec) initial earlier).1
          input).2.calls →
      ∀ document, entry.2.findQueryBO = some document →
      QueryCommon.Passed (QueryCommon.buildFindQueryBO rt lib) spec.findQuery external input.1
        document := by
  refine ⟨?_, fun getCppTupleName spec => Write.call_passed spec rt lib getCppTupleName⟩
  intro Ext Tup attrs hashCode spec external initial constructed earlier input
  refine ⟨fun query => Query.process_issued rt lib hashCode spec _ input.1 input.2 query, ?_⟩
  exact Query.issued_passed rt lib hashCode spec external initial constructed earlier input

section Clock

-- `findQuery: {n = clock()}`, an expression without stream attributes.
def clockQuery : FindParameter (BitVec 32) Unit where
  type := .tuple (.cons ⟨"n", by decide⟩ (.prim (.int .int32)) .nil)
  fragments := [.text "clock()"]
  atStart time := (time, ())
  eval arrival := (arrival.external, ())
  attributeFree _ _ := rfl

def clockSpec : Query.Specification (BitVec 32) Unit .nil where
  schema := .nil
  db _ := "streams"
  collection _ := "sample"
  nToReturn _ := 0#32
  findFields := none
  findQuery := some clockQuery

def clockDocument (time : BitVec 32) : BSONObj := [(⟨"n", by decide⟩, .numberInt time)]

def clockDelete : Write.Specification (BitVec 32) Unit .delete 1 where
  numberOfInputPorts := 1
  attributes _ := .prim .rstring
  assignment _ := .operation
    (.removeDocument .removeDocument (Write.literal "streams") (Write.literal "sample"))
  findQuery := some clockQuery
  noFindQuery isInsert := by cases isInsert
  portsExist i call isCall port member := by
    cases isCall
    cases member
  queryPortsExist expr given port member := by
    cases given
    cases member

theorem passed_documents_fresh_iff_clock :
    QueryCommon.Passed (QueryCommon.buildFindQueryBO .plain .plain) clockSpec.findQuery 0#32
        (⟨1#32, (), 0⟩ : Arrival (BitVec 32) Unit) (clockDocument 0#32) ∧
      QueryCommon.Passed (QueryCommon.buildFindQueryBO .plain .plain) clockDelete.findQuery 0#32
        (⟨1#32, (), 0⟩ : Arrival (BitVec 32) Unit) (clockDocument 0#32) :=
  ⟨(((passed_documents_fresh_iff .plain .plain).1 (fun _ => 0#64) clockSpec 0#32
      ⟨none, [], clockDocument 0#32, 0⟩ rfl []
      (⟨1#32, (), 0⟩, ⟨.ok (), fun _ => .ok none, ""⟩)).2 _ rfl).1,
    (passed_documents_fresh_iff .plain .plain).2 Write.tupleName clockDelete 0#32
      ⟨clockDocument 0#32, 0⟩ rfl [] (⟨1#32, (), 0⟩, fun _ => ⟨.ok (), fun _ => .ok ""⟩)
      (0, .remove "streams.sample" (clockDocument 0#32) true) (List.mem_singleton.mpr rfl) _ rfl⟩

theorem constructor_document_reused :
    ∃ initial call, Query.construct .plain .plain clockSpec 0#32 = .ok initial ∧
      Query.issued .plain .plain clockSpec initial
        (⟨1#32, (), 0⟩, ⟨.ok (), fun _ => .ok none, ""⟩) = some call ∧
      QueryCommon.freshBO (QueryCommon.buildFindQueryBO .plain .plain) clockSpec.findQuery
        ⟨1#32, (), 0⟩ ≠ .ok call.findQueryBO := by
  refine ⟨⟨none, [], clockDocument 0#32, 0⟩, _, rfl, rfl, fun fresh => ?_⟩
  have same : clockDocument 1#32 = clockDocument 0#32 := Except.ok.inj fresh
  simp [clockDocument] at same

end Clock

end StreamsMongo
