import StreamsMongo.Codec.PartialDecoder
import StreamsMongo.Library.FiniteData
import StreamsMongo.Library.Loops
import StreamsMongo.Library.Machine
import StreamsMongo.Operators.Query

set_option autoImplicit false

namespace StreamsMongo.Query

variable {Ext Tup In : Type} {attrs : Attributes}

def Schema.inputDerived : {attrs : Attributes} → Schema In attrs → In → Except Raised attrs.Value
  | _, .nil, _ => .ok ()
  | _, .cons (.asIs assign) schema, tuple => do
      let attr ← assign tuple
      let attrs ← schema.inputDerived tuple
      return (attr, attrs)
  | .cons _ t _, .cons (.outputFunction _) schema, tuple => do
      let attrs ← schema.inputDerived tuple
      return (t.cleared, attrs)

def Schema.DecodedCleared : {attrs : Attributes} → Schema In attrs → attrs.Value → Prop
  | _, .nil, _ => True
  | _, .cons (.asIs _) schema, (_, attrs) => schema.DecodedCleared attrs
  | .cons _ t _, .cons (.outputFunction _) schema, (attr, attrs) =>
      attr = t.cleared ∧ schema.DecodedCleared attrs

theorem decodedCleared_cleared : {attrs : Attributes} → (schema : Schema In attrs) →
    schema.DecodedCleared attrs.cleared
  | _, .nil => trivial
  | _, .cons (.asIs _) schema => decodedCleared_cleared schema
  | _, .cons (.outputFunction _) schema => ⟨rfl, decodedCleared_cleared schema⟩

-- An assignment that raises leaves the later attributes as they were, so nothing decoded leaks in.
theorem assignAsIs_cleared : {attrs : Attributes} → (schema : Schema In attrs) → (tuple : In) →
    (otuple : attrs.Value) → schema.DecodedCleared otuple →
    schema.DecodedCleared (assignAsIs schema tuple otuple).1
  | _, .nil, _, _, _ => trivial
  | _, .cons (.asIs assign) schema, tuple, (attr, attrs), cleared => by
      rw [assignAsIs]
      cases assign tuple with
      | error e => exact cleared
      | ok value => exact assignAsIs_cleared schema tuple attrs cleared
  | _, .cons (.outputFunction _) schema, tuple, (attr, attrs), cleared =>
      ⟨cleared.1, assignAsIs_cleared schema tuple attrs cleared.2⟩

theorem assignAsIs_ok : {attrs : Attributes} → (schema : Schema In attrs) → (tuple : In) →
    (otuple base : attrs.Value) → schema.DecodedCleared otuple →
    schema.inputDerived tuple = .ok base → assignAsIs schema tuple otuple = (base, none)
  | _, .nil, _, _, _, _, _ => rfl
  | _, .cons (.asIs assign) schema, tuple, (attr, attrs), base, cleared, derived => by
      rw [Schema.inputDerived] at derived
      obtain ⟨value, assigned, derived⟩ := (Loops.bind_eq_ok _ _ _).mp derived
      obtain ⟨later, rest, same⟩ := (Loops.bind_eq_ok _ _ _).mp derived
      cases same
      rw [assignAsIs, assigned]
      simp only [assignAsIs_ok schema tuple attrs later cleared rest]
  | _, .cons (.outputFunction _) schema, tuple, (attr, attrs), base, cleared, derived => by
      rw [Schema.inputDerived] at derived
      obtain ⟨later, rest, same⟩ := (Loops.bind_eq_ok _ _ _).mp derived
      cases same
      rw [assignAsIs, assignAsIs_ok schema tuple attrs later cleared.2 rest, cleared.1]

theorem assignAsIs_error : {attrs : Attributes} → (schema : Schema In attrs) → (tuple : In) →
    (otuple : attrs.Value) → (e : Raised) → schema.inputDerived tuple = .error e →
    (assignAsIs schema tuple otuple).2 = some e
  | _, .nil, _, _, _, derived => by cases derived
  | _, .cons (.asIs assign) schema, tuple, (attr, attrs), e, derived => by
      rw [Schema.inputDerived] at derived
      rw [assignAsIs]
      cases assigned : assign tuple with
      | error e' =>
        rw [assigned] at derived
        cases derived
        rfl
      | ok value =>
        rw [assigned] at derived
        cases rest : schema.inputDerived tuple with
        | error e' =>
          have later := assignAsIs_error schema tuple attrs e' rest
          rw [rest] at derived
          cases derived
          exact later
        | ok values =>
          rw [rest] at derived
          cases derived
  | _, .cons (.outputFunction _) schema, tuple, (attr, attrs), e, derived => by
      rw [Schema.inputDerived] at derived
      cases rest : schema.inputDerived tuple with
      | error e' =>
        have later := assignAsIs_error schema tuple attrs e' rest
        rw [rest] at derived
        cases derived
        exact later
      | ok values =>
        rw [rest] at derived
        cases derived

section Documents

variable (rt : SplRuntime) (lib : DriverLibrary)

def OutputFunction.value (attrName : FieldName) :
    {t : SplType} → OutputFunction In t → In → BSONObj → Option t.Value
  | t, .queryDocumentField findPath, tuple, queryResultBO =>
      QueryCommon.readValue rt lib attrName false (findPath.map (· tuple)) t queryResultBO
  | t, .queryDocumentMultipleFields findPath, tuple, queryResultBO =>
      QueryCommon.readValue rt lib attrName true (findPath.map (· tuple)) t queryResultBO
  | _, .queryDocumentFieldAsJson, _, queryResultBO => some (lib.jsonString queryResultBO)
  | _, .queryDocumentFieldAsJsonUString, _, queryResultBO =>
      some (rt.ustringOfString (lib.jsonString queryResultBO))

theorem OutputFunction.read_cleared (attrName : FieldName) {t : SplType}
    (function : OutputFunction In t) (tuple : In) (queryResultBO : BSONObj) :
    function.read rt lib attrName tuple queryResultBO t.cleared =
      (⟨t.cleared, false⟩ : QueryCommon.Target t.Value).ofOption
        (function.value rt lib attrName tuple queryResultBO) := by
  cases function with
  | queryDocumentField findPath => exact QueryCommon.readAttribute_cleared ..
  | queryDocumentMultipleFields findPath => exact QueryCommon.readAttribute_cleared ..
  | queryDocumentFieldAsJson => rfl
  | queryDocumentFieldAsJsonUString => rfl

def Schema.overlay : {attrs : Attributes} → Schema In attrs → In → BSONObj → attrs.Value →
    attrs.Value
  | _, .nil, _, _, base => base
  | _, .cons (.asIs _) schema, tuple, queryResultBO, (attr, attrs) =>
      (attr, schema.overlay tuple queryResultBO attrs)
  | .cons name _ _, .cons (.outputFunction function) schema, tuple, queryResultBO, (attr, attrs) =>
      ((function.value rt lib name tuple queryResultBO).getD attr,
        schema.overlay tuple queryResultBO attrs)

def Schema.applies : {attrs : Attributes} → Schema In attrs → In → BSONObj → Bool
  | _, .nil, _, _ => false
  | _, .cons (.asIs _) schema, tuple, queryResultBO => schema.applies tuple queryResultBO
  | .cons name _ _, .cons (.outputFunction function) schema, tuple, queryResultBO =>
      (function.value rt lib name tuple queryResultBO).isSome ||
        schema.applies tuple queryResultBO

theorem decodeDocument_cleared : {attrs : Attributes} → (schema : Schema In attrs) →
    (tuple : In) → (queryResultBO : BSONObj) → (base : attrs.Value) →
    schema.DecodedCleared base →
    decodeDocument rt lib schema tuple queryResultBO base =
      schema.overlay rt lib tuple queryResultBO base
  | _, .nil, _, _, _, _ => rfl
  | _, .cons (.asIs _) schema, tuple, queryResultBO, (attr, attrs), cleared => by
      rw [decodeDocument, Schema.overlay,
        decodeDocument_cleared schema tuple queryResultBO attrs cleared]
  | .cons name t _, .cons (.outputFunction function) schema, tuple, queryResultBO, (attr, attrs),
      cleared => by
      rw [decodeDocument, Schema.overlay,
        decodeDocument_cleared schema tuple queryResultBO attrs cleared.2, cleared.1,
        OutputFunction.read_cleared, QueryCommon.Target.ofOption_attr]

theorem overlay_not_applies : {attrs : Attributes} → (schema : Schema In attrs) → (tuple : In) →
    (queryResultBO : BSONObj) → (base : attrs.Value) →
    schema.applies rt lib tuple queryResultBO = false →
    schema.overlay rt lib tuple queryResultBO base = base
  | _, .nil, _, _, _, _ => rfl
  | _, .cons (.asIs _) schema, tuple, queryResultBO, (attr, attrs), nothing =>
      congrArg (Prod.mk attr) (overlay_not_applies schema tuple queryResultBO attrs nothing)
  | .cons name t _, .cons (.outputFunction function) schema, tuple, queryResultBO, (attr, attrs),
      nothing => by
      rw [Schema.applies, Bool.or_eq_false_iff] at nothing
      have unread := Option.isNone_iff_eq_none.mp (Option.isSome_eq_false_iff.mp nothing.1)
      rw [Schema.overlay, overlay_not_applies schema tuple queryResultBO attrs nothing.2, unread]
      rfl

end Documents

section Process

variable (rt : SplRuntime) (lib : DriverLibrary) (hashCode : attrs.Value → BitVec 64)
  (spec : Specification Ext Tup attrs)

/-- The hidden state between calls: nothing decoded is left in the thread's output tuple. -/
def Clean (state : State attrs) : Prop := spec.schema.DecodedCleared (getOutputTuple state)

theorem process_ok (state : State attrs) (arrival : Arrival Ext Tup) (driver : Driver)
    (base : attrs.Value) (clean : Clean spec state)
    (derived : spec.schema.inputDerived arrival = .ok base) :
    process rt lib hashCode spec state (arrival, driver) =
      runQuery rt lib hashCode spec { state with otuplePtr := some base } base arrival driver := by
  rw [process, assignAsIs_ok spec.schema arrival _ base clean derived]

theorem process_error (state : State attrs) (arrival : Arrival Ext Tup) (driver : Driver)
    (e : Raised) (derived : spec.schema.inputDerived arrival = .error e) :
    process rt lib hashCode spec state (arrival, driver) =
      ({ state with
          otuplePtr := some (assignAsIs spec.schema arrival (getOutputTuple state)).1 },
        ⟨[], .raised e⟩) := by
  have raised := assignAsIs_error spec.schema arrival (getOutputTuple state) e derived
  rw [process]
  generalize assignAsIs spec.schema arrival (getOutputTuple state) = assigned at raised
  obtain ⟨otuple, outcome⟩ := assigned
  cases raised
  rfl

-- The query and what follows it change the counter and nothing else.
theorem runQuery_state (state : State attrs) (otuple : attrs.Value) (arrival : Arrival Ext Tup)
    (driver : Driver) :
    ∃ n, (runQuery rt lib hashCode spec state otuple arrival driver).1 =
      { state with nQueries := n } := by
  unfold runQuery
  cases prepare rt lib spec state arrival driver with
  | error e => exact ⟨state.nQueries, rfl⟩
  | ok cursor =>
    by_cases logged : driver.getLastError ≠ ""
    · exact ⟨state.nQueries, by simp [logged]⟩
    · refine ⟨state.nQueries + 1, ?_⟩
      simp only [logged, if_false]
      cases cursor <;> rfl

theorem process_clean (state : State attrs) (input : Arrival Ext Tup × Driver)
    (clean : Clean spec state) :
    Clean spec (process rt lib hashCode spec state input).1 ∧
      (process rt lib hashCode spec state input).1.findFieldsBO = state.findFieldsBO ∧
      (process rt lib hashCode spec state input).1.findQueryBO = state.findQueryBO := by
  obtain ⟨arrival, driver⟩ := input
  have assigned := assignAsIs_cleared spec.schema arrival (getOutputTuple state) clean
  cases derived : spec.schema.inputDerived arrival with
  | error e =>
    rw [process_error rt lib hashCode spec state arrival driver e derived]
    exact ⟨assigned, rfl, rfl⟩
  | ok base =>
    rw [process_ok rt lib hashCode spec state arrival driver base clean derived]
    obtain ⟨n, same⟩ := runQuery_state rt lib hashCode spec
      { state with otuplePtr := some base } base arrival driver
    rw [assignAsIs_ok spec.schema arrival _ base clean derived] at assigned
    rw [same]
    exact ⟨assigned, rfl, rfl⟩

theorem inputDerived_cleared (schema : Schema In attrs) (tuple : In) (base : attrs.Value)
    (derived : schema.inputDerived tuple = .ok base) : schema.DecodedCleared base := by
  have assigned := assignAsIs_cleared schema tuple attrs.cleared (decodedCleared_cleared schema)
  rw [assignAsIs_ok schema tuple attrs.cleared base (decodedCleared_cleared schema) derived]
    at assigned
  exact assigned

def changesHash (arrival : Arrival Ext Tup) (base : attrs.Value) (queryResultBO : BSONObj) : Bool :=
  hashCode (spec.schema.overlay rt lib arrival queryResultBO base) ≠ hashCode base

theorem changesHash_applies (arrival : Arrival Ext Tup) (base : attrs.Value)
    (queryResultBO : BSONObj)
    (changes : changesHash rt lib hashCode spec arrival base queryResultBO = true) :
    spec.schema.applies rt lib arrival queryResultBO = true := by
  by_contra unapplied
  rw [Bool.not_eq_true] at unapplied
  unfold changesHash at changes
  rw [overlay_not_applies rt lib spec.schema arrival queryResultBO base unapplied] at changes
  simp at changes

theorem submitDocuments_eq (arrival : Arrival Ext Tup) (base : attrs.Value)
    (derived : spec.schema.inputDerived arrival = .ok base) (documents : List BSONObj) :
    submitDocuments rt lib hashCode spec.schema arrival base documents =
      (documents.filter (changesHash rt lib hashCode spec arrival base)).map fun queryResultBO =>
        .tuple (spec.schema.overlay rt lib arrival queryResultBO base) := by
  rw [← List.filterMap_eq_map', List.filterMap_filter]
  apply List.filterMap_congr
  intro queryResultBO _
  simp only [decodeDocument_cleared rt lib spec.schema arrival queryResultBO base
    (inputDerived_cleared spec.schema arrival base derived), changesHash, decide_eq_true_eq]

def closing (base : attrs.Value) (documents : List BSONObj) : Submitted attrs :=
  if documents.isEmpty then .tuple base else .windowMarker

theorem process_documents (state : State attrs) (arrival : Arrival Ext Tup) (driver : Driver)
    (base : attrs.Value) (documents : List BSONObj) (clean : Clean spec state)
    (derived : spec.schema.inputDerived arrival = .ok base)
    (queried : prepare rt lib spec state arrival driver = .ok (some documents))
    (noError : driver.getLastError = "") :
    (process rt lib hashCode spec state (arrival, driver)).2 =
      ⟨((documents.filter (changesHash rt lib hashCode spec arrival base)).map fun queryResultBO =>
        .tuple (spec.schema.overlay rt lib arrival queryResultBO base)) ++
          [closing base documents], .returned⟩ := by
  have prepared : prepare rt lib spec { state with otuplePtr := some base } arrival driver =
      .ok (some documents) := queried
  rw [process_ok rt lib hashCode spec state arrival driver base clean derived, runQuery, prepared,
    ← submitDocuments_eq rt lib hashCode spec arrival base derived documents]
  simp only [noError, ne_eq, not_true_eq_false, if_false]
  rfl

theorem runQuery_congr (state state' : State attrs) (base : attrs.Value)
    (arrival : Arrival Ext Tup) (driver driver' : Driver)
    (prepared : prepare rt lib spec state arrival driver =
      prepare rt lib spec state' arrival driver')
    (lastError : driver.getLastError = driver'.getLastError) :
    (runQuery rt lib hashCode spec state base arrival driver).2 =
      (runQuery rt lib hashCode spec state' base arrival driver').2 := by
  rw [runQuery, runQuery, prepared, lastError]
  cases prepare rt lib spec state' arrival driver' with
  | error e => rfl
  | ok cursor =>
    dsimp only
    split_ifs with logged
    · rfl
    · cases cursor <;> rfl

theorem process_congr (state state' : State attrs) (arrival : Arrival Ext Tup)
    (driver driver' : Driver) (clean : Clean spec state) (clean' : Clean spec state')
    (prepared : prepare rt lib spec state arrival driver =
      prepare rt lib spec state' arrival driver')
    (lastError : driver.getLastError = driver'.getLastError) :
    (process rt lib hashCode spec state (arrival, driver)).2 =
      (process rt lib hashCode spec state' (arrival, driver')).2 := by
  cases derived : spec.schema.inputDerived arrival with
  | error e =>
    rw [process_error rt lib hashCode spec state arrival driver e derived,
      process_error rt lib hashCode spec state' arrival driver' e derived]
  | ok base =>
    rw [process_ok rt lib hashCode spec state arrival driver base clean derived,
      process_ok rt lib hashCode spec state' arrival driver' base clean' derived]
    exact runQuery_congr rt lib hashCode spec _ _ base arrival driver driver' prepared lastError

theorem construct_fresh (external : Ext) (state : State attrs)
    (constructed : construct rt lib spec external = .ok state) :
    state.otuplePtr = none ∧ state.nQueries = 0 := by
  unfold construct at constructed
  obtain ⟨_, _, constructed⟩ := (Loops.bind_eq_ok _ _ _).mp constructed
  obtain ⟨_, _, constructed⟩ := (Loops.bind_eq_ok _ _ _).mp constructed
  cases constructed
  exact ⟨rfl, rfl⟩

theorem construct_clean (external : Ext) (state : State attrs)
    (constructed : construct rt lib spec external = .ok state) : Clean spec state := by
  rw [Clean, getOutputTuple, (construct_fresh rt lib spec external state constructed).1]
  exact decodedCleared_cleared spec.schema

theorem reachable_clean (external : Ext) (initial : State attrs)
    (constructed : construct rt lib spec external = .ok initial)
    (earlier : List (Arrival Ext Tup × Driver)) :
    Clean spec (Machine.run (process rt lib hashCode spec) initial earlier).1 :=
  Machine.reachable_invariant (process rt lib hashCode spec) (Clean spec)
    (fun state input clean => (process_clean rt lib hashCode spec state input clean).1) initial
    earlier (construct_clean rt lib spec external initial constructed)

end Process

section Results

variable (rt : SplRuntime) (lib : DriverLibrary) (hashCode : attrs.Value → BitVec 64)
  (spec : Specification Ext Tup attrs)

/-- Every document that applies an attribute has to change the hash code. -/
theorem submits_every_document_iff (external : Ext) (initial : State attrs)
    (constructed : construct rt lib spec external = .ok initial)
    (earlier : List (Arrival Ext Tup × Driver)) (arrival : Arrival Ext Tup) (driver : Driver)
    (base : attrs.Value) (derived : spec.schema.inputDerived arrival = .ok base)
    (documents : List BSONObj)
    (queried : prepare rt lib spec (Machine.run (process rt lib hashCode spec) initial earlier).1
      arrival driver = .ok (some documents)) (noError : driver.getLastError = "") :
    (process rt lib hashCode spec (Machine.run (process rt lib hashCode spec) initial earlier).1
        (arrival, driver)).2 =
      ⟨((documents.filter (spec.schema.applies rt lib arrival)).map fun queryResultBO =>
        .tuple (spec.schema.overlay rt lib arrival queryResultBO base)) ++
          [closing base documents], .returned⟩ ↔
    ∀ queryResultBO ∈ documents, spec.schema.applies rt lib arrival queryResultBO = true →
      hashCode (spec.schema.overlay rt lib arrival queryResultBO base) ≠ hashCode base := by
  have clean := reachable_clean rt lib hashCode spec external initial constructed earlier
  rw [process_documents rt lib hashCode spec _ arrival driver base documents clean derived queried
    noError, Outcome.mk.injEq, and_iff_left rfl, List.append_left_inj,
    FiniteData.map_filter_eq_iff _ _ _ (changesHash_applies rt lib hashCode spec arrival base)]
  simp only [changesHash, decide_eq_true_eq]

end Results

section Greeting

def greeting1 : FieldName := ⟨"greeting1", by decide⟩

def greetingAttributes : Attributes := .cons greeting1 (.prim .rstring) .nil

def greetingSpec : Specification Unit Unit greetingAttributes where
  schema := .cons (.outputFunction (.queryDocumentField none)) .nil
  db _ := "streams"
  collection _ := "sample"
  nToReturn _ := 0#32
  findFields := none
  findQuery := none

def greetingState : State greetingAttributes := ⟨none, [], [], 0⟩

def greetingArrival : Arrival Unit Unit := ⟨(), (), 0⟩

def noGreeting : greetingAttributes.Value := ("", ())

def helloDocuments : List BSONObj := [[(greeting1, .string "Hello world")], []]

def found (documents : List BSONObj) : Driver := ⟨.ok (), fun _ => .ok (some documents), ""⟩

def lengthHash (otuple : greetingAttributes.Value) : BitVec 64 := otuple.1.length

theorem submits_every_document_iff_greeting :
    (process SplRuntime.plain DriverLibrary.plain lengthHash greetingSpec greetingState
        (greetingArrival, found helloDocuments)).2 =
      ⟨((helloDocuments.filter (greetingSpec.schema.applies SplRuntime.plain DriverLibrary.plain
          greetingArrival)).map fun queryResultBO =>
        .tuple (greetingSpec.schema.overlay SplRuntime.plain DriverLibrary.plain greetingArrival
          queryResultBO noGreeting)) ++ [closing noGreeting helloDocuments], .returned⟩ ↔
    ∀ queryResultBO ∈ helloDocuments,
      greetingSpec.schema.applies SplRuntime.plain DriverLibrary.plain greetingArrival
        queryResultBO = true →
      lengthHash (greetingSpec.schema.overlay SplRuntime.plain DriverLibrary.plain
        greetingArrival queryResultBO noGreeting) ≠ lengthHash noGreeting :=
  submits_every_document_iff SplRuntime.plain DriverLibrary.plain lengthHash greetingSpec ()
    greetingState rfl [] greetingArrival (found helloDocuments) noGreeting rfl helloDocuments rfl
    rfl

theorem empty_greeting_not_submitted :
    construct SplRuntime.plain DriverLibrary.plain greetingSpec () = .ok greetingState ∧
      greetingSpec.schema.applies SplRuntime.plain DriverLibrary.plain greetingArrival
        [(greeting1, .string "")] = true ∧
      (process SplRuntime.plain DriverLibrary.plain lengthHash greetingSpec greetingState
        (greetingArrival, found [[(greeting1, .string "")]])).2 = ⟨[.windowMarker], .returned⟩ :=
  ⟨rfl, rfl, rfl⟩

end Greeting

section Leakage

variable (rt : SplRuntime) (lib : DriverLibrary) (hashCode : attrs.Value → BitVec 64)
  (spec : Specification Ext Tup attrs)

/-- A freshly constructed operator submits the same. -/
theorem no_leakage (external : Ext) (initial : State attrs)
    (constructed : construct rt lib spec external = .ok initial)
    (earlier : List (Arrival Ext Tup × Driver)) (arrival : Arrival Ext Tup) (driver : Driver) :
    (∀ (later : Ext) (fresh : State attrs) (driver' : Driver),
      construct rt lib spec later = .ok fresh →
      prepare rt lib spec fresh arrival driver' =
        prepare rt lib spec (Machine.run (process rt lib hashCode spec) initial earlier).1
          arrival driver →
      driver'.getLastError = driver.getLastError →
      (process rt lib hashCode spec (Machine.run (process rt lib hashCode spec) initial earlier).1
        (arrival, driver)).2 = (process rt lib hashCode spec fresh (arrival, driver')).2) ∧
    (∀ (base : attrs.Value) (documents : List BSONObj),
      spec.schema.inputDerived arrival = .ok base →
      prepare rt lib spec (Machine.run (process rt lib hashCode spec) initial earlier).1 arrival
        driver = .ok (some documents) →
      driver.getLastError = "" → documents ≠ [] →
      ∃ shown, List.Sublist shown (documents.filter (spec.schema.applies rt lib arrival)) ∧
        (process rt lib hashCode spec
          (Machine.run (process rt lib hashCode spec) initial earlier).1
          (arrival, driver)).2.submitted =
          (shown.map fun queryResultBO =>
            .tuple (spec.schema.overlay rt lib arrival queryResultBO base)) ++ [.windowMarker]) := by
  have clean := reachable_clean rt lib hashCode spec external initial constructed earlier
  constructor
  · intro later fresh driver' built prepared lastError
    exact process_congr rt lib hashCode spec _ fresh arrival driver driver' clean
      (construct_clean rt lib spec later fresh built) prepared.symm lastError.symm
  · intro base documents derived queried noError nonempty
    refine ⟨documents.filter (changesHash rt lib hashCode spec arrival base),
      List.monotone_filter_right documents (changesHash_applies rt lib hashCode spec arrival base),
      ?_⟩
    rw [process_documents rt lib hashCode spec _ arrival driver base documents clean derived queried
      noError, closing, if_neg (by simpa using nonempty)]

end Leakage

theorem no_leakage_greeting :
    (process SplRuntime.plain DriverLibrary.plain lengthHash greetingSpec
        (Machine.run (process SplRuntime.plain DriverLibrary.plain lengthHash greetingSpec)
          greetingState [(greetingArrival, found helloDocuments)]).1
        (greetingArrival, found helloDocuments)).2 =
      (process SplRuntime.plain DriverLibrary.plain lengthHash greetingSpec greetingState
        (greetingArrival, found helloDocuments)).2 ∧
    ∃ shown, List.Sublist shown (helloDocuments.filter (greetingSpec.schema.applies
        SplRuntime.plain DriverLibrary.plain greetingArrival)) ∧
      (process SplRuntime.plain DriverLibrary.plain lengthHash greetingSpec
        (Machine.run (process SplRuntime.plain DriverLibrary.plain lengthHash greetingSpec)
          greetingState [(greetingArrival, found helloDocuments)]).1
        (greetingArrival, found helloDocuments)).2.submitted =
        (shown.map fun queryResultBO => .tuple (greetingSpec.schema.overlay SplRuntime.plain
          DriverLibrary.plain greetingArrival queryResultBO noGreeting)) ++ [.windowMarker] := by
  have leak := no_leakage SplRuntime.plain DriverLibrary.plain lengthHash greetingSpec ()
    greetingState rfl [(greetingArrival, found helloDocuments)] greetingArrival
    (found helloDocuments)
  exact ⟨leak.1 () greetingState (found helloDocuments) rfl rfl rfl,
    leak.2 noGreeting helloDocuments rfl rfl rfl (List.cons_ne_nil _ _)⟩

end StreamsMongo.Query
