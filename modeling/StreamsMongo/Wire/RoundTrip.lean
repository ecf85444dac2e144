import StreamsMongo.Operators.Pipeline
import StreamsMongo.Wire.Cursor
import StreamsMongo.Wire.Elements
import StreamsMongo.Wire.Encoding

set_option autoImplicit false

namespace StreamsMongo.Wire

open Bytes

-- The encoder writes nothing that ends at a null byte but the names.
section Terminated

theorem allTerminated_append (fields : BSONObj) (be : StreamsMongo.BSONElement)
    (all : AllTerminated fields) (last : Terminated be.2) : AllTerminated (fields ++ [be]) := by
  induction fields with
  | nil => exact ⟨last, trivial⟩
  | cons head fields ih => exact ⟨all.1, ih all.2⟩

variable (rt : SplRuntime)

theorem handlePrimitive_terminated (p : PrimType) (value : p.Value)
    (inner : StreamsMongo.CppValue)
    (built : BSONCommon.handlePrimitive rt p value = .ok inner) : Terminated inner.appended := by
  cases p with
  | complex32 | complex64 => cases built
  | int i =>
    cases built
    cases i <;> trivial
  | _ =>
    cases built
    trivial

section Loops

variable {A : Type} {build : A → Except Raised (AppendFunction × StreamsMongo.CppValue)}
  (each : ∀ x function inner, build x = .ok (function, inner) →
    Terminated (function.element inner) ∧ Terminated inner.appended)

include each

theorem buildBSONObjectFromListOrSet_terminated (values : List A)
    (b : StreamsMongo.BSONArrayBuilder)
    (built : BSONCommon.buildBSONObjectFromListOrSet build values = .ok b) :
    AllTerminated b.b := by
  have start : AllTerminated ({} : StreamsMongo.BSONArrayBuilder).b := trivial
  refine Loops.foldlM_keeps (P := fun b => AllTerminated b.b) ?_ values _ b built start
  intro b x after round all
  obtain ⟨⟨function, inner⟩, element, appended⟩ := (Loops.bind_eq_ok _ _ after).mp round
  rw [arrayAppended_last appended]
  exact allTerminated_append b.b _ all (each x function inner element).2

theorem buildBSONObjectFromMap_terminated (values : List (Σ _ : String, A)) (obj : BSONObj)
    (built : BSONCommon.buildBSONObjectFromMap build values = .ok obj) : AllTerminated obj := by
  refine Loops.foldlM_keeps (P := AllTerminated) ?_ values _ obj built trivial
  intro b x after round all
  obtain ⟨⟨function, inner⟩, element, appended⟩ := (Loops.bind_eq_ok _ _ after).mp round
  obtain ⟨_, rfl⟩ := appended_last appended
  exact allTerminated_append b _ all (each x.2 function inner element).1

end Loops

mutual

theorem buildBSONObject_terminated : (t : SplType) → (value : t.Value) →
    (function : AppendFunction) → (inner : StreamsMongo.CppValue) →
    BSONCommon.buildBSONObject rt t value = .ok (function, inner) →
    Terminated (function.element inner) ∧ Terminated inner.appended
  | t, value, function, inner, built => by
    rw [BSONCommon.buildBSONObject_element rt t value function inner built, and_self]
    cases t with
    | prim p =>
      simp only [BSONCommon.buildBSONObject, Loops.bind_eq_ok, Loops.pure_eq_ok] at built
      obtain ⟨_, handled, same⟩ := built
      cases same
      exact handlePrimitive_terminated rt p value inner handled
    | list t | set t =>
      simp only [BSONCommon.buildBSONObject, Loops.bind_eq_ok, Loops.pure_eq_ok] at built
      obtain ⟨b, loop, same⟩ := built
      cases same
      exact buildBSONObjectFromListOrSet_terminated (buildBSONObject_terminated t) _ b loop
    | map t =>
      simp only [BSONCommon.buildBSONObject, Loops.bind_eq_ok, Loops.pure_eq_ok] at built
      obtain ⟨b, loop, same⟩ := built
      cases same
      exact buildBSONObjectFromMap_terminated (buildBSONObject_terminated t) _ b loop
    | tuple attrs =>
      simp only [BSONCommon.buildBSONObject, Loops.bind_eq_ok, Loops.pure_eq_ok] at built
      obtain ⟨b, loop, same⟩ := built
      cases same
      exact buildBSONObjectFromTuple_terminated attrs value [] b trivial loop

theorem buildBSONObjectFromTuple_terminated : (attrs : Attributes) → (values : attrs.Value) →
    (obj made : BSONObj) → AllTerminated obj →
    BSONCommon.buildBSONObjectFromTuple rt attrs values obj = .ok made → AllTerminated made
  | .nil, _, _, _, all, built => by
    cases built
    exact all
  | .cons name t rest, (value, values), obj, made, all, built => by
    rw [BSONCommon.buildBSONObjectFromTuple, Loops.bind_eq_ok] at built
    obtain ⟨⟨function, inner⟩, element, built⟩ := built
    obtain ⟨after, appended, later⟩ := (Loops.bind_eq_ok _ _ made).mp built
    obtain ⟨_, rfl⟩ := appended_last appended
    have last := (buildBSONObject_terminated t value function inner element).1
    exact buildBSONObjectFromTuple_terminated rest values _ made
      (allTerminated_append obj _ all last) later

end

end Terminated

section Stored

variable (oid : BitVec 96)

theorem serverStore_terminated (doc : BSONObj) (all : AllTerminated doc) :
    AllTerminated (serverStore oid doc) := by
  unfold serverStore
  split_ifs
  · exact all
  · exact ⟨trivial, all⟩

end Stored

section Insertions

variable (appendDate : AppendDate) (rt : SplRuntime) (drv : DriverLibrary) (oid : BitVec 96)

def insertedBytes (insertion : Insertion) : Except Stopped (List UInt8) :=
  buildBSONObjectWithKey appendDate rt insertion.key insertion.data.type insertion.data.value

theorem built_terminated (insertion : Insertion) (accepted : insertion.Accepted) (doc : BSONObj)
    (made : insertion.build rt drv = .ok doc) : AllTerminated doc := by
  obtain ⟨key, t, value⟩ := insertion
  simp only [Insertion.build, BSONCommon.buildBSONObjectWithKey, BSONCommon.Data.build,
    Loops.bind_eq_ok] at made
  obtain ⟨⟨function, inner⟩, encoded, made⟩ := made
  have terminated := buildBSONObject_terminated rt t value function inner encoded
  cases key with
  | some chars =>
    obtain ⟨_, rfl⟩ := appended_last made
    exact ⟨terminated.1, trivial⟩
  | none =>
    cases made
    have content := BSONCommon.buildBSONObject_document rt t (accepted.keyed rfl) value function
      inner encoded
    rw [content] at terminated
    exact terminated.2

theorem stored_begins (doc : BSONObj) (terminated : AllTerminated doc)
    (bounded : (objdata (serverStore oid doc)).length ≤ BSONObjMaxInternalSize)
    (pointer : Pointer) (begins : objdata (serverStore oid doc) <+: pointer) :
    Begins (serverStore oid doc) pointer :=
  ⟨serverStore_terminated oid doc terminated, bounded, begins⟩

theorem readAttribute_part (insertion : Insertion) (accepted : insertion.Accepted) (doc : BSONObj)
    (made : insertion.build rt drv = .ok doc) (attrName : FieldName) (r : SplType) :
    QueryCommon.queryDocumentField rt drv attrName none r (serverStore oid doc) r.cleared =
      (⟨r.cleared, false⟩ : QueryCommon.Target r.Value).ofOption
        ((insertion.field rt attrName).bind (r.convert rt)) := by
  have found := getField_stored rt drv oid insertion accepted doc made attrName r
  rw [QueryCommon.queryDocumentField, QueryCommon.readAttribute_cleared, ← found]
  rfl

theorem readAttribute_whole (insertion : Insertion) (accepted : insertion.Accepted)
    (whole : insertion.key = none) (doc : BSONObj) (made : insertion.build rt drv = .ok doc)
    (attrName : FieldName) (r : SplType) :
    QueryCommon.queryDocumentMultipleFields rt drv attrName none r (serverStore oid doc)
        r.cleared =
      (⟨r.cleared, false⟩ : QueryCommon.Target r.Value).ofOption
        (r.convert rt insertion.data) := by
  obtain ⟨key, t, value⟩ := insertion
  subst whole
  rw [Insertion.build, BSONCommon.buildBSONObjectWithKey, BSONCommon.Data.build,
    Loops.bind_eq_ok] at made
  obtain ⟨⟨function, inner⟩, encoded, same⟩ := made
  cases same
  have content := BSONCommon.buildBSONObject_document rt t (accepted.keyed rfl) value function
    inner encoded
  have converts := refDecode_written rt r ⟨t, value⟩ inner.appended
    ⟨accepted.wellFormed, function, inner, encoded, rfl⟩
  rw [readAttribute_document, refDecode_stored, ← content, converts]

variable {appendDate} (documentedDate : appendDate.Documented)

include documentedDate

theorem inserted_document (insertion : Insertion) (accepted : insertion.Accepted)
    (bytes : List UInt8) (built : insertedBytes appendDate rt insertion = .ok bytes) :
    ∃ doc, insertion.build rt drv = .ok doc ∧ bytes = objdata doc ∧ AllTerminated doc := by
  have keeps := buildBSONObjectWithKey_keeps documentedDate rt drv insertion.key
    insertion.data.type insertion.data.value
  obtain ⟨doc, made, _, same⟩ := (keeps.eq_ok_iff bytes).mp built
  exact ⟨doc, made, same, built_terminated rt drv insertion accepted doc made⟩

end Insertions

section RoundTrip

variable {appendDate : AppendDate} (documentedDate : appendDate.Documented)
  {lib : DocumentLibrary} {drv : DriverLibrary} (documented : lib.Documented drv)
  (rt : SplRuntime) (oid : BitVec 96)

include documentedDate documented

/-- Every part of the inserted value is found under its name, and so is the whole value. -/
theorem bytes_insert_query (insertion : Insertion) (accepted : insertion.Accepted)
    (bytes : List UInt8) (built : insertedBytes appendDate rt insertion = .ok bytes) :
    ∃ doc, insertion.build rt drv = .ok doc ∧ bytes = objdata doc ∧
      ∀ pointer : Pointer, objdata (serverStore oid doc) <+: pointer →
        (objdata (serverStore oid doc)).length ≤ BSONObjMaxInternalSize →
        ∀ (attrName : FieldName) (r : SplType),
          queryDocumentField lib rt appendDate attrName none r pointer r.cleared =
            .ok ((⟨r.cleared, false⟩ : QueryCommon.Target r.Value).ofOption
              ((insertion.field rt attrName).bind (r.convert rt))) ∧
          (insertion.key = none → Fits [(attrName, .object (serverStore oid doc))] →
            queryDocumentMultipleFields lib rt appendDate attrName none r pointer r.cleared =
              .ok ((⟨r.cleared, false⟩ : QueryCommon.Target r.Value).ofOption
                (r.convert rt insertion.data))) := by
  obtain ⟨doc, made, same, terminated⟩ :=
    inserted_document rt drv documentedDate insertion accepted bytes built
  refine ⟨doc, made, same, fun pointer begins bounded attrName r => ?_⟩
  have held := stored_begins oid doc terminated bounded pointer begins
  constructor
  · have part := readAttribute_part rt drv oid insertion accepted doc made attrName r
    rw [queryDocumentField, readAttribute_begins documented rt appendDate attrName false none r _
      pointer held (by rintro ⟨⟩)]
    exact congrArg Except.ok part
  · intro unkeyed room
    have whole := readAttribute_whole rt drv oid insertion accepted unkeyed doc made attrName r
    have filed : RoomFor drv attrName true none (serverStore oid doc) := by
      rintro _ bo0 ⟨⟩
      exact room
    rw [queryDocumentMultipleFields, readAttribute_begins documented rt appendDate attrName true
      none r _ pointer held filed]
    exact congrArg Except.ok whole

end RoundTrip

def orderInsertion : Insertion := ⟨none, .tuple orderAttributes, order⟩

theorem orderInsertion_accepted : orderInsertion.Accepted :=
  ⟨⟨by decide, trivial, trivial, trivial⟩, fun _ => rfl⟩

theorem bytes_insert_query_order :
    queryDocumentField DocumentLibrary.plain SplRuntime.plain AppendDate.plain
        ⟨"item", item_noNul⟩ none (.prim .rstring)
        (objdata (serverStore 9#96 orderDocument) ++ [7]) "" =
      .ok ((⟨"", false⟩ : QueryCommon.Target String).ofOption
        ((orderInsertion.field SplRuntime.plain ⟨"item", item_noNul⟩).bind
          ((SplType.prim .rstring).convert SplRuntime.plain))) ∧
    queryDocumentMultipleFields DocumentLibrary.plain SplRuntime.plain AppendDate.plain sampleKey
        none (.tuple stockAttributes) (objdata (serverStore 9#96 orderDocument) ++ [7])
        stockAttributes.cleared =
      .ok ((⟨stockAttributes.cleared, false⟩ : QueryCommon.Target stockAttributes.Value).ofOption
        ((SplType.tuple stockAttributes).convert SplRuntime.plain
          ⟨.tuple orderAttributes, order⟩)) := by
  obtain ⟨doc, made, _, reads⟩ := bytes_insert_query AppendDate.plain_documented
    DocumentLibrary.plain_documented SplRuntime.plain 9#96 orderInsertion orderInsertion_accepted
    (objdata orderDocument) rfl
  obtain rfl : orderDocument = doc := Except.ok.inj made
  have behind := List.prefix_append (objdata (serverStore 9#96 orderDocument)) [7]
  have bounded : (objdata (serverStore 9#96 orderDocument)).length ≤ BSONObjMaxInternalSize := by
    decide
  constructor
  · exact (reads _ behind bounded ⟨"item", item_noNul⟩ (.prim .rstring)).1
  · exact (reads _ behind bounded sampleKey (.tuple stockAttributes)).2 rfl
      (by change _ ≤ _; decide)

/-- The cursor's memory holds the document that the server made of the insertion's bytes. -/
def Answers (drv : DriverLibrary) (appendDate : AppendDate) (rt : SplRuntime)
    (insertion : Insertion) (pointer : Pointer) : Prop :=
  insertion.Accepted ∧ ∃ doc oid, insertion.build rt drv = .ok doc ∧
    insertedBytes appendDate rt insertion = .ok (objdata doc) ∧
    objdata (serverStore oid doc) <+: pointer ∧
    (objdata (serverStore oid doc)).length ≤ BSONObjMaxInternalSize

section Collections

variable {Ext Tup : Type} {attrs : Attributes} {appendDate : AppendDate}
  (documentedDate : appendDate.Documented) {lib : DocumentLibrary} {drv : DriverLibrary}
  (documented : lib.Documented drv) (rt : SplRuntime)

theorem schemaRoom_fields : (attrs : Attributes) → (arrival : Arrival Ext Tup) →
    (doc : BSONObj) → SchemaRoom drv (Query.Schema.fields attrs) arrival doc
  | .nil, _, _ => trivial
  | .cons _ _ rest, arrival, doc => ⟨trivial, schemaRoom_fields rest arrival doc⟩

include documentedDate

theorem Answers.collected {insertion : Insertion} {pointer : Pointer}
    (answers : Answers drv appendDate rt insertion pointer) :
    ∃ doc, Begins doc pointer ∧ ∀ (attrs : Attributes) (arrival : Arrival Ext Tup),
      (Query.Schema.fields attrs).overlay rt drv arrival doc attrs.cleared =
        attrs.collect rt (insertion.field rt) := by
  obtain ⟨accepted, doc, oid, made, sent, begins, bounded⟩ := answers
  obtain ⟨doc', made', _, terminated⟩ :=
    inserted_document rt drv documentedDate insertion accepted _ sent
  cases made.symm.trans made'
  refine ⟨serverStore oid doc, stored_begins oid doc terminated bounded pointer begins, ?_⟩
  intro attrs arrival
  exact Query.fields_overlay rt drv (insertion.field rt) _
    (getField_stored rt drv oid insertion accepted doc made) attrs arrival

include documented

theorem bytes_inserted_then_queried (querier : Query.Specification Ext Tup attrs)
    (fields : querier.schema = Query.Schema.fields attrs) (hashCode : attrs.Value → BitVec 64)
    (arrival : Arrival Ext Tup) (insertions : List Insertion) (pointers : List Pointer)
    (answers : List.Forall₂ (Answers drv appendDate rt) insertions pointers) :
    submitDocuments lib rt appendDate hashCode querier.schema arrival attrs.cleared pointers =
      (((insertions.map fun insertion => attrs.collect rt (insertion.field rt)).filter
          fun otuple => hashCode otuple ≠ hashCode attrs.cleared).map .tuple, none) := by
  have derived : querier.schema.inputDerived arrival = .ok attrs.cleared := by
    rw [fields]
    exact Query.fields_inputDerived attrs arrival
  obtain ⟨documents, rounds, decoded⟩ : ∃ documents : List BSONObj,
      List.Forall₂ (fun doc pointer => Begins doc pointer ∧
        SchemaRoom drv querier.schema arrival doc) documents pointers ∧
      documents.map (fun doc => querier.schema.overlay rt drv arrival doc attrs.cleared) =
        insertions.map fun insertion => attrs.collect rt (insertion.field rt) := by
    rw [fields]
    induction answers with
    | nil => exact ⟨[], .nil, rfl⟩
    | cons here _ ih =>
      obtain ⟨doc, begins, collected⟩ := here.collected documentedDate rt
      obtain ⟨documents, rounds, decoded⟩ := ih
      refine ⟨doc :: documents, .cons ⟨begins, schemaRoom_fields attrs arrival doc⟩ rounds, ?_⟩
      rw [List.map_cons, List.map_cons, collected attrs arrival, decoded]
  rw [submitDocuments_begins documented rt appendDate hashCode querier.schema arrival attrs.cleared
    documents pointers rounds, Query.submitDocuments_eq rt drv hashCode querier arrival
    attrs.cleared derived documents, ← decoded, List.filter_map, List.map_map]
  rfl

end Collections

def spareInsertion : Insertion := ⟨none, .tuple orderAttributes, spareOrder⟩

theorem spareInsertion_accepted : spareInsertion.Accepted :=
  ⟨orderInsertion_accepted.wellFormed, fun _ => rfl⟩

theorem storedOrders_answer :
    List.Forall₂ (Answers DriverLibrary.plain AppendDate.plain SplRuntime.plain)
      [orderInsertion, spareInsertion] orderPointers :=
  .cons ⟨orderInsertion_accepted, orderDocument, 5#96, rfl, rfl, List.prefix_append _ _, by decide⟩
    (.cons ⟨spareInsertion_accepted, spareDocument, 6#96, rfl, rfl, List.prefix_append _ _,
      by decide⟩ .nil)

theorem bytes_inserted_then_queried_orders :
    submitDocuments DocumentLibrary.plain SplRuntime.plain AppendDate.plain itemHash
        stockQuerier.schema (⟨(), (), 0⟩ : Arrival Unit Unit) stockAttributes.cleared
        orderPointers =
      ([.tuple (({[3#64]} : Finset (List (BitVec 64))), "", "bolt", ()),
        .tuple (({[1#64, 2#64]} : Finset (List (BitVec 64))), "", "washer", ())], none) :=
  bytes_inserted_then_queried AppendDate.plain_documented DocumentLibrary.plain_documented
    SplRuntime.plain stockQuerier rfl itemHash ⟨(), (), 0⟩ [orderInsertion, spareInsertion]
    orderPointers storedOrders_answer

end StreamsMongo.Wire
