import StreamsMongo.Operators.Pipeline
import StreamsMongo.Wire.Elements

set_option autoImplicit false

namespace StreamsMongo.Wire

open Bytes
open Query (OutputFunction Schema Submitted)

-- The loop over the cursor, on the bytes that the server sends.
section Loop

variable {Ext Tup In : Type} (lib : DocumentLibrary) (rt : SplRuntime) (appendDate : AppendDate)

def outputFunctionRead (attrName : FieldName) : {t : SplType} → OutputFunction In t → In →
    Pointer → t.Value → Except Stopped (QueryCommon.Target t.Value)
  | t, .queryDocumentField findPath, tuple, queryResultBO, attr =>
      queryDocumentField lib rt appendDate attrName (findPath.map (· tuple)) t queryResultBO attr
  | t, .queryDocumentMultipleFields findPath, tuple, queryResultBO, attr =>
      queryDocumentMultipleFields lib rt appendDate attrName (findPath.map (· tuple)) t
        queryResultBO attr
  | _, .queryDocumentFieldAsJson, _, queryResultBO, _ =>
      return .applied (lib.jsonString queryResultBO)
  | _, .queryDocumentFieldAsJsonUString, _, queryResultBO, _ =>
      return .applied (rt.ustringOfString (lib.jsonString queryResultBO))

def decodeDocument : {attrs : Attributes} → Schema In attrs → In → Pointer → attrs.Value →
    Except Stopped attrs.Value
  | _, .nil, _, _, otuple => .ok otuple
  | _, .cons (.asIs _) schema, tuple, queryResultBO, (attr, attrs) => do
      let attrs ← decodeDocument schema tuple queryResultBO attrs
      return (attr, attrs)
  | .cons name _ _, .cons (.outputFunction function) schema, tuple, queryResultBO,
      (attr, attrs) => do
      let target ← outputFunctionRead lib rt appendDate name function tuple queryResultBO attr
      let attrs ← decodeDocument schema tuple queryResultBO attrs
      return (target.attr, attrs)

variable {attrs : Attributes} (hashCode : attrs.Value → BitVec 64)

def submitDocuments (schema : Schema (Arrival Ext Tup) attrs) (arrival : Arrival Ext Tup)
    (otuple : attrs.Value) : List Pointer → List (Submitted attrs) × Option Stopped
  | [] => ([], none)
  | queryResultBO :: documents =>
      match decodeDocument lib rt appendDate schema arrival queryResultBO otuple with
      | .error stopped => ([], some stopped)
      | .ok decoded =>
          let (submitted, stopped) := submitDocuments schema arrival otuple documents
          (if hashCode decoded ≠ hashCode otuple then .tuple decoded :: submitted else submitted,
            stopped)

end Loop

section Refinement

variable {Ext Tup In : Type} {lib : DocumentLibrary} {drv : DriverLibrary}
  (documented : lib.Documented drv) (rt : SplRuntime) (appendDate : AppendDate)

def functionRoom (drv : DriverLibrary) (attrName : FieldName) {t : SplType} :
    OutputFunction In t → In → BSONObj → Prop
  | .queryDocumentMultipleFields findPath, tuple, queryResultBO =>
      RoomFor drv attrName true (findPath.map (· tuple)) queryResultBO
  | .queryDocumentField _, _, _ | .queryDocumentFieldAsJson, _, _
  | .queryDocumentFieldAsJsonUString, _, _ => True

/-- What the attributes file under their names fits in a buffer. -/
def SchemaRoom (drv : DriverLibrary) : {attrs : Attributes} → Schema In attrs → In → BSONObj → Prop
  | _, .nil, _, _ => True
  | _, .cons (.asIs _) schema, tuple, queryResultBO => SchemaRoom drv schema tuple queryResultBO
  | .cons name _ _, .cons (.outputFunction function) schema, tuple, queryResultBO =>
      functionRoom drv name function tuple queryResultBO ∧
        SchemaRoom drv schema tuple queryResultBO

include documented

theorem outputFunctionRead_begins (attrName : FieldName) {t : SplType}
    (function : OutputFunction In t) (tuple : In) (fields : BSONObj) (pointer : Pointer)
    (begins : Begins fields pointer) (room : functionRoom drv attrName function tuple fields)
    (attr : t.Value) :
    outputFunctionRead lib rt appendDate attrName function tuple pointer attr =
      .ok (function.read rt drv attrName tuple fields attr) := by
  cases function with
  | queryDocumentField findPath =>
    exact readAttribute_begins documented rt appendDate attrName false _ t fields pointer begins
      (by rintro ⟨⟩) attr
  | queryDocumentMultipleFields findPath =>
    exact readAttribute_begins documented rt appendDate attrName true _ t fields pointer begins
      room attr
  | queryDocumentFieldAsJson | queryDocumentFieldAsJsonUString =>
    obtain ⟨terminated, bounded, rest, rfl⟩ := begins
    have text := documented.jsonString fields rest terminated bounded
    simp only [outputFunctionRead, text, OutputFunction.read]
    rfl

theorem decodeDocument_begins {attrs : Attributes} (schema : Schema In attrs) (tuple : In)
    (fields : BSONObj) (pointer : Pointer) (begins : Begins fields pointer)
    (room : SchemaRoom drv schema tuple fields) (otuple : attrs.Value) :
    decodeDocument lib rt appendDate schema tuple pointer otuple =
      .ok (Query.decodeDocument rt drv schema tuple fields otuple) := by
  induction schema with
  | nil => rfl
  | @cons name t rest assignment schema ih =>
    obtain ⟨attr, attrs⟩ := otuple
    cases assignment with
    | asIs assign =>
      have later := ih room attrs
      simp only [decodeDocument, later, Query.decodeDocument]
      rfl
    | outputFunction function =>
      have first := outputFunctionRead_begins documented rt appendDate name function tuple fields
        pointer begins room.1 attr
      have later := ih room.2 attrs
      simp only [decodeDocument, first, later, Query.decodeDocument]
      rfl

theorem submitDocuments_begins {attrs : Attributes} (hashCode : attrs.Value → BitVec 64)
    (schema : Schema (Arrival Ext Tup) attrs) (arrival : Arrival Ext Tup) (otuple : attrs.Value)
    (documents : List BSONObj) (pointers : List Pointer)
    (sent : List.Forall₂ (fun fields pointer => Begins fields pointer ∧
      SchemaRoom drv schema arrival fields) documents pointers) :
    submitDocuments lib rt appendDate hashCode schema arrival otuple pointers =
      (Query.submitDocuments rt drv hashCode schema arrival otuple documents, none) := by
  induction sent with
  | nil => rfl
  | @cons fields pointer documents pointers here _ ih =>
    have decoded := decodeDocument_begins documented rt appendDate schema arrival fields pointer
      here.1 here.2 otuple
    rw [submitDocuments, decoded, ih]
    simp only [Query.submitDocuments, List.filterMap_cons]
    split_ifs <;> rfl

theorem queries_read_bytes {attrs : Attributes} (hashCode : attrs.Value → BitVec 64)
    (querier : Query.Specification Ext Tup attrs) (external : Ext) (initial : Query.State attrs)
    (constructed : Query.construct rt drv querier external = .ok initial)
    (earlier : List (Arrival Ext Tup × Query.Driver)) (arrival : Arrival Ext Tup)
    (driver : Query.Driver) (base : attrs.Value)
    (derived : querier.schema.inputDerived arrival = .ok base) (documents : List BSONObj)
    (queried : Query.prepare rt drv querier
      (Machine.run (Query.process rt drv hashCode querier) initial earlier).1 arrival driver =
        .ok (some documents))
    (noError : driver.getLastError = "") (pointers : List Pointer)
    (sent : List.Forall₂ (fun fields pointer => Begins fields pointer ∧
      SchemaRoom drv querier.schema arrival fields) documents pointers) :
    ∃ submitted, submitDocuments lib rt appendDate hashCode querier.schema arrival base pointers =
        (submitted, none) ∧
      (Query.process rt drv hashCode querier
        (Machine.run (Query.process rt drv hashCode querier) initial earlier).1
        (arrival, driver)).2 = ⟨submitted ++ [Query.closing base documents], .returned⟩ := by
  have clean := Query.reachable_clean rt drv hashCode querier external initial constructed earlier
  refine ⟨_, submitDocuments_begins documented rt appendDate hashCode querier.schema arrival base
    documents pointers sent, ?_⟩
  rw [Query.process_documents rt drv hashCode querier _ arrival driver base documents clean derived
    queried noError,
    Query.submitDocuments_eq rt drv hashCode querier arrival base derived documents]

end Refinement

def patternQuerier : Query.Specification Unit Unit stockAttributes where
  schema :=
    .cons (.outputFunction (.queryDocumentMultipleFields (some fun _ => "lines")))
      (.cons (.outputFunction .queryDocumentFieldAsJson)
        (.cons (.outputFunction (.queryDocumentField none)) .nil))
  db _ := "streams"
  collection _ := "orders"
  nToReturn _ := 0#32
  findFields := none
  findQuery := none

def orderPointers : List Pointer := storedOrders.map fun doc => objdata doc ++ [7]

theorem lines_room (arrival : Arrival Unit Unit) (oid : BitVec 96) (doc : BSONObj)
    (value : BSONValue) (held : doc.getField ⟨"lines", lines_noNul⟩ = some value)
    (fits : Fits [(⟨"lines", lines_noNul⟩, value)]) :
    SchemaRoom DriverLibrary.plain patternQuerier.schema arrival (serverStore oid doc) := by
  have found : DriverLibrary.plain.getFieldDotted (serverStore oid doc) "lines" = some value := by
    rw [← held, ← getField_serverStore oid doc ⟨"lines", lines_noNul⟩ (by decide)]
    simp only [DriverLibrary.plain]
    rw [dif_neg lines_noNul]
  refine ⟨fun _ bo0 opened => ?_, trivial, trivial, trivial⟩
  simp only [QueryCommon.initBSONObject, Option.map_some, found, if_true] at opened
  cases opened
  exact fits

theorem storedOrders_begin (arrival : Arrival Unit Unit) :
    List.Forall₂ (fun fields pointer => Begins fields pointer ∧
      SchemaRoom DriverLibrary.plain patternQuerier.schema arrival fields)
      storedOrders orderPointers :=
  .cons ⟨⟨⟨trivial, trivial, ⟨⟨trivial, trivial⟩, trivial, trivial⟩, trivial⟩, by decide,
      List.prefix_append _ _⟩, lines_room arrival 5#96 orderDocument _ rfl (by unfold Fits; decide)⟩
    (.cons ⟨⟨⟨trivial, trivial, ⟨⟨trivial, trivial, trivial⟩, trivial⟩, trivial⟩, by decide,
      List.prefix_append _ _⟩, lines_room arrival 6#96 spareDocument _ rfl
        (by unfold Fits; decide)⟩ .nil)

theorem queries_read_bytes_orders :
    ∃ submitted, submitDocuments DocumentLibrary.plain SplRuntime.plain AppendDate.plain
        itemHash patternQuerier.schema (⟨(), (), 0⟩ : Arrival Unit Unit)
        stockAttributes.cleared orderPointers = (submitted, none) ∧
      (Query.process SplRuntime.plain DriverLibrary.plain itemHash patternQuerier
        ⟨none, [], [], 0⟩ (⟨(), (), 0⟩, Query.found storedOrders)).2 =
        ⟨submitted ++ [Query.closing stockAttributes.cleared storedOrders], .returned⟩ :=
  queries_read_bytes DocumentLibrary.plain_documented SplRuntime.plain AppendDate.plain
    itemHash patternQuerier () ⟨none, [], [], 0⟩ rfl [] ⟨(), (), 0⟩
    (Query.found storedOrders) stockAttributes.cleared rfl storedOrders rfl rfl orderPointers
    (storedOrders_begin _)

end StreamsMongo.Wire
