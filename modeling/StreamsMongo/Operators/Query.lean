import StreamsMongo.Codec.QueryCommon
import StreamsMongo.Operators.Expression

set_option autoImplicit false

namespace StreamsMongo.Query

variable {Ext Tup : Type}

inductive OutputFunction (In : Type) : SplType → Type where
  | queryDocumentField {t : SplType} (findPath : Option (In → String)) : OutputFunction In t
  | queryDocumentMultipleFields {t : SplType} (findPath : Option (In → String)) :
      OutputFunction In t
  | queryDocumentFieldAsJson : OutputFunction In (.prim .rstring)
  | queryDocumentFieldAsJsonUString : OutputFunction In (.prim .ustring)

-- An assignment without an output function is emitted like one with `AsIs`.
inductive Assignment (In : Type) (t : SplType) where
  | asIs (assign : In → Except Raised t.Value)
  | outputFunction (function : OutputFunction In t)

inductive Schema (In : Type) : Attributes → Type where
  | nil : Schema In .nil
  | cons {name : FieldName} {t : SplType} {rest : Attributes}
      (assignment : Assignment In t) (schema : Schema In rest) : Schema In (.cons name t rest)

/-- The assignments before the query, in attribute order, up to the first that raises. -/
def assignAsIs {In : Type} : {attrs : Attributes} → Schema In attrs → In → attrs.Value →
    attrs.Value × Option Raised
  | _, .nil, _, otuple => (otuple, none)
  | _, .cons (.asIs assign) schema, tuple, (attr, attrs) =>
      match assign tuple with
      | .error e => ((attr, attrs), some e)
      | .ok value =>
          let (attrs, raised) := assignAsIs schema tuple attrs
          ((value, attrs), raised)
  | _, .cons (.outputFunction _) schema, tuple, (attr, attrs) =>
      let (attrs, raised) := assignAsIs schema tuple attrs
      ((attr, attrs), raised)

section Operator

variable (rt : SplRuntime) (lib : DriverLibrary)

def OutputFunction.read {In : Type} (attrName : FieldName) :
    {t : SplType} → OutputFunction In t → In → BSONObj → t.Value → QueryCommon.Target t.Value
  | t, .queryDocumentField findPath, tuple, queryResultBO, attr =>
      QueryCommon.queryDocumentField rt lib attrName (findPath.map (· tuple)) t queryResultBO attr
  | t, .queryDocumentMultipleFields findPath, tuple, queryResultBO, attr =>
      QueryCommon.queryDocumentMultipleFields rt lib attrName (findPath.map (· tuple)) t
        queryResultBO attr
  | _, .queryDocumentFieldAsJson, _, queryResultBO, _ => .applied (lib.jsonString queryResultBO)
  | _, .queryDocumentFieldAsJsonUString, _, queryResultBO, _ =>
      .applied (rt.ustringOfString (lib.jsonString queryResultBO))

def decodeDocument {In : Type} : {attrs : Attributes} → Schema In attrs → In → BSONObj →
    attrs.Value → attrs.Value
  | _, .nil, _, _, otuple => otuple
  | _, .cons (.asIs _) schema, tuple, queryResultBO, (attr, attrs) =>
      (attr, decodeDocument schema tuple queryResultBO attrs)
  | .cons name _ _, .cons (.outputFunction function) schema, tuple, queryResultBO, (attr, attrs) =>
      ((function.read rt lib name tuple queryResultBO attr).attr,
        decodeDocument schema tuple queryResultBO attrs)

structure Specification (Ext Tup : Type) (attrs : Attributes) where
  schema : Schema (Arrival Ext Tup) attrs
  db : Arrival Ext Tup → String
  collection : Arrival Ext Tup → String
  nToReturn : Arrival Ext Tup → BitVec 32
  findFields : Option (FindParameter Ext Tup)
  findQuery : Option (FindParameter Ext Tup)

structure QueryCall where
  dbCollection : String
  findQueryBO : BSONObj
  nToReturn : BitVec 32
  findFieldsBO : BSONObj

structure Driver where
  connection : Except Raised Unit
  -- The documents of the cursor, `none` for the null cursor.
  query : QueryCall → Except Raised (Option (List BSONObj))
  getLastError : String

inductive Submitted (attrs : Attributes) where
  | tuple (otuple : attrs.Value)
  | windowMarker

inductive Finish where
  | returned
  | raised (e : Raised)
  | nullDereference
  deriving DecidableEq

structure Outcome (attrs : Attributes) where
  submitted : List (Submitted attrs)
  finish : Finish

structure State (attrs : Attributes) where
  otuplePtr : Option attrs.Value
  findFieldsBO : BSONObj
  findQueryBO : BSONObj
  nQueries : Nat

def construct {attrs : Attributes} (spec : Specification Ext Tup attrs) (external : Ext) :
    Except Raised (State attrs) := do
  let findFieldsBO ←
    QueryCommon.initialBO (QueryCommon.buildFindFieldsBO rt) spec.findFields external
  let findQueryBO ←
    QueryCommon.initialBO (QueryCommon.buildFindQueryBO rt lib) spec.findQuery external
  return { otuplePtr := none, findFieldsBO, findQueryBO, nQueries := 0 }

def getOutputTuple {attrs : Attributes} (state : State attrs) : attrs.Value :=
  state.otuplePtr.getD attrs.cleared

variable {attrs : Attributes} (hashCode : attrs.Value → BitVec 64)

/-- The loop over the cursor: a copy of the output tuple is submitted when its hash changes. -/
def submitDocuments (schema : Schema (Arrival Ext Tup) attrs) (arrival : Arrival Ext Tup)
    (otuple : attrs.Value) (documents : List BSONObj) : List (Submitted attrs) :=
  documents.filterMap fun queryResultBO =>
    let decoded := decodeDocument rt lib schema arrival queryResultBO otuple
    if hashCode decoded ≠ hashCode otuple then some (.tuple decoded) else none

def prepare (spec : Specification Ext Tup attrs) (state : State attrs)
    (arrival : Arrival Ext Tup) (driver : Driver) : Except Raised (Option (List BSONObj)) := do
  let findFieldsBO ← QueryCommon.currentBO (QueryCommon.buildFindFieldsBO rt) spec.findFields
    state.findFieldsBO arrival
  let findQueryBO ← QueryCommon.currentBO (QueryCommon.buildFindQueryBO rt lib) spec.findQuery
    state.findQueryBO arrival
  driver.connection
  driver.query {
    dbCollection := spec.db arrival ++ "." ++ spec.collection arrival
    findQueryBO
    nToReturn := spec.nToReturn arrival
    findFieldsBO }

def runQuery (spec : Specification Ext Tup attrs) (state : State attrs) (otuple : attrs.Value)
    (arrival : Arrival Ext Tup) (driver : Driver) : State attrs × Outcome attrs :=
  match prepare rt lib spec state arrival driver with
  | .error e => (state, ⟨[], .raised e⟩)
  | .ok cursor =>
      if driver.getLastError ≠ "" then (state, ⟨[], .returned⟩)
      else
        let state := { state with nQueries := state.nQueries + 1 }
        match cursor with
        | none => (state, ⟨[], .nullDereference⟩)
        | some documents =>
            let submitted :=
              submitDocuments rt lib hashCode spec.schema arrival otuple documents
            let last := if documents.isEmpty then .tuple otuple else .windowMarker
            (state, ⟨submitted ++ [last], .returned⟩)

def process (spec : Specification Ext Tup attrs) (state : State attrs)
    (input : Arrival Ext Tup × Driver) : State attrs × Outcome attrs :=
  match assignAsIs spec.schema input.1 (getOutputTuple state) with
  | (otuple, some e) => ({ state with otuplePtr := some otuple }, ⟨[], .raised e⟩)
  | (otuple, none) =>
      runQuery rt lib hashCode spec { state with otuplePtr := some otuple } otuple input.1 input.2

end Operator

end StreamsMongo.Query
