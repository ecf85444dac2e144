import StreamsMongo.Operators.QueryRuns

set_option autoImplicit false

namespace StreamsMongo.Query

variable {Ext Tup : Type} {attrs : Attributes}

-- What a cursor yields for an error at the server: `{ $err: <string> }`.
def isError (queryResultBO : BSONObj) : Bool :=
  queryResultBO.head?.any fun be => be.1.chars == "$err"

def succeeds : Option (List BSONObj) → Bool
  | none => false
  | some documents => !documents.any isError

section Accounting

variable (rt : SplRuntime) (lib : DriverLibrary) (hashCode : attrs.Value → BitVec 64)
  (spec : Specification Ext Tup attrs)

def Answered (state : State attrs) (input : Arrival Ext Tup × Driver)
    (cursor : Option (List BSONObj)) : Prop :=
  (∃ base, spec.schema.inputDerived input.1 = .ok base) ∧
    prepare rt lib spec state input.1 input.2 = .ok cursor

def Honest (state : State attrs) (input : Arrival Ext Tup × Driver) : Prop :=
  ∀ cursor, Answered rt lib spec state input cursor →
    (input.2.getLastError = "" ↔ succeeds cursor = true)

def succeeded (state : State attrs) (input : Arrival Ext Tup × Driver) : Bool :=
  match spec.schema.inputDerived input.1, prepare rt lib spec state input.1 input.2 with
  | .ok _, .ok cursor => succeeds cursor
  | _, _ => false

structure Accounted (state : State attrs) (input : Arrival Ext Tup × Driver) : Prop where
  noNull : (process rt lib hashCode spec state input).2.finish ≠ .nullDereference
  failedSilent : ∀ cursor, Answered rt lib spec state input cursor → succeeds cursor = false →
    (process rt lib hashCode spec state input).2.submitted = []
  counted : (process rt lib hashCode spec state input).1.nQueries =
    state.nQueries + if succeeded rt lib spec state input then 1 else 0

theorem unanswered_accounted (state : State attrs) (input : Arrival Ext Tup × Driver) (e : Raised)
    (unanswered : ∀ cursor, ¬ Answered rt lib spec state input cursor)
    (silent : succeeded rt lib spec state input = false)
    (raised : (process rt lib hashCode spec state input).2 = ⟨[], .raised e⟩)
    (same : (process rt lib hashCode spec state input).1.nQueries = state.nQueries) :
    Accounted rt lib hashCode spec state input ↔ Honest rt lib spec state input := by
  constructor
  · exact fun _ cursor answered => absurd answered (unanswered cursor)
  · intro _
    refine ⟨?_, fun cursor answered => absurd answered (unanswered cursor), ?_⟩
    · rw [raised]
      nofun
    · rw [same, silent]
      rfl

theorem honest_answered (state : State attrs) (arrival : Arrival Ext Tup) (driver : Driver)
    (base : attrs.Value) (cursor : Option (List BSONObj))
    (derived : spec.schema.inputDerived arrival = .ok base)
    (prepared : prepare rt lib spec state arrival driver = .ok cursor) :
    Honest rt lib spec state (arrival, driver) ↔
      (driver.getLastError = "" ↔ succeeds cursor = true) := by
  constructor
  · exact fun honest => honest cursor ⟨⟨base, derived⟩, prepared⟩
  · rintro honest other ⟨_, answered⟩
    cases prepared.symm.trans answered
    exact honest

theorem answered_accounted (state : State attrs) (arrival : Arrival Ext Tup) (driver : Driver)
    (base : attrs.Value) (cursor : Option (List BSONObj)) (finish : Finish)
    (submitted : List (Submitted attrs)) (n : Nat)
    (derived : spec.schema.inputDerived arrival = .ok base)
    (prepared : prepare rt lib spec state arrival driver = .ok cursor)
    (outcome : (process rt lib hashCode spec state (arrival, driver)).2 = ⟨submitted, finish⟩)
    (counter : (process rt lib hashCode spec state (arrival, driver)).1.nQueries = n) :
    Accounted rt lib hashCode spec state (arrival, driver) ↔
      finish ≠ .nullDereference ∧ (succeeds cursor = false → submitted = []) ∧
        n = state.nQueries + if succeeds cursor then 1 else 0 := by
  have counts : succeeded rt lib spec state (arrival, driver) = succeeds cursor := by
    simp only [succeeded, derived, prepared]
  constructor
  · rintro ⟨noNull, failedSilent, counted⟩
    have silent := failedSilent cursor ⟨⟨base, derived⟩, prepared⟩
    rw [outcome] at noNull silent
    rw [counter, counts] at counted
    exact ⟨noNull, silent, counted⟩
  · rintro ⟨noNull, silent, counted⟩
    refine ⟨by rw [outcome]; exact noNull, ?_, by rw [counter, counts]; exact counted⟩
    rintro other ⟨_, answered⟩ failed
    cases prepared.symm.trans answered
    rw [outcome]
    exact silent failed

-- `process` believes `getLastError()`, so what it makes of a cursor depends on that text alone.
theorem answered_iff_honest (state : State attrs) (arrival : Arrival Ext Tup) (driver : Driver)
    (base : attrs.Value) (cursor : Option (List BSONObj)) (clean : Clean spec state)
    (derived : spec.schema.inputDerived arrival = .ok base)
    (prepared : prepare rt lib spec state arrival driver = .ok cursor) :
    Accounted rt lib hashCode spec state (arrival, driver) ↔
      Honest rt lib spec state (arrival, driver) := by
  have started := process_ok rt lib hashCode spec state arrival driver base clean derived
  have prepared' : prepare rt lib spec { state with otuplePtr := some base } arrival driver =
      .ok cursor := prepared
  rw [runQuery, prepared'] at started
  rw [honest_answered rt lib spec state arrival driver base cursor derived prepared]
  by_cases silent : driver.getLastError = ""
  · simp only [silent, ne_eq, not_true_eq_false, if_false] at started
    cases cursor with
    | none =>
      rw [answered_accounted rt lib hashCode spec state arrival driver base none _ _ _ derived
        prepared (congrArg Prod.snd started) rfl]
      simp [succeeds, silent]
    | some documents =>
      rw [answered_accounted rt lib hashCode spec state arrival driver base (some documents) _ _
        _ derived prepared (congrArg Prod.snd started) rfl, started]
      cases succeeds (some documents) <;> simp [silent]
  · simp only [silent, ne_eq, not_false_eq_true, if_true] at started
    rw [answered_accounted rt lib hashCode spec state arrival driver base cursor _ _ _ derived
      prepared (congrArg Prod.snd started) rfl, started]
    cases succeeds cursor <;> simp [silent]

theorem accounted_iff_honest (state : State attrs) (input : Arrival Ext Tup × Driver)
    (clean : Clean spec state) :
    Accounted rt lib hashCode spec state input ↔ Honest rt lib spec state input := by
  obtain ⟨arrival, driver⟩ := input
  cases derived : spec.schema.inputDerived arrival with
  | error e =>
    have stopped := process_error rt lib hashCode spec state arrival driver e derived
    apply unanswered_accounted rt lib hashCode spec state _ e
    · rintro cursor ⟨⟨base, same⟩, _⟩
      cases derived.symm.trans same
    · simp only [succeeded, derived]
    · rw [stopped]
    · rw [stopped]
  | ok base =>
    cases prepared : prepare rt lib spec state arrival driver with
    | error e =>
      have started := process_ok rt lib hashCode spec state arrival driver base clean derived
      have prepared' : prepare rt lib spec { state with otuplePtr := some base } arrival driver =
          .error e := prepared
      rw [runQuery, prepared'] at started
      apply unanswered_accounted rt lib hashCode spec state _ e
      · rintro cursor ⟨_, answered⟩
        cases prepared.symm.trans answered
      · simp only [succeeded, derived, prepared]
      · rw [started]
      · rw [started]
    | ok cursor =>
      exact answered_iff_honest rt lib hashCode spec state arrival driver base cursor clean derived
        prepared

/-- `getLastError()` has to be empty for the successful queries and for no others. -/
theorem failed_queries_are_no_results_iff (external : Ext) (initial : State attrs)
    (constructed : construct rt lib spec external = .ok initial)
    (inputs : List (Arrival Ext Tup × Driver)) :
    (Machine.Along (process rt lib hashCode spec) (Accounted rt lib hashCode spec) initial inputs ↔
      Machine.Along (process rt lib hashCode spec) (Honest rt lib spec) initial inputs) ∧
    (Machine.Along (process rt lib hashCode spec) (Honest rt lib spec) initial inputs →
      (Machine.run (process rt lib hashCode spec) initial inputs).1.nQueries =
        Machine.count (process rt lib hashCode spec) (succeeded rt lib spec) initial inputs) := by
  have clean := construct_clean rt lib spec external initial constructed
  have keeps := fun state input (clean : Clean spec state) =>
    (process_clean rt lib hashCode spec state input clean).1
  have same := Machine.along_congr (process rt lib hashCode spec) (Clean spec) keeps _ _
    (accounted_iff_honest rt lib hashCode spec) initial inputs clean
  refine ⟨same, fun honest => ?_⟩
  have counted := Machine.along_mono (process rt lib hashCode spec) _ _
    (fun _ _ accounted => Accounted.counted accounted) initial inputs (same.mpr honest)
  rw [Machine.run_count _ (succeeded rt lib spec) State.nQueries initial inputs counted,
    (construct_fresh rt lib spec external initial constructed).2, Nat.zero_add]

end Accounting

def errorDocument : BSONObj := [(⟨"$err", by decide⟩, .string "not authorized for query")]

theorem failed_queries_are_no_results_iff_greeting :
    (Machine.Along (process SplRuntime.plain DriverLibrary.plain lengthHash greetingSpec)
        (Accounted SplRuntime.plain DriverLibrary.plain lengthHash greetingSpec) greetingState
        [(greetingArrival, found helloDocuments)] ↔
      Machine.Along (process SplRuntime.plain DriverLibrary.plain lengthHash greetingSpec)
        (Honest SplRuntime.plain DriverLibrary.plain greetingSpec) greetingState
        [(greetingArrival, found helloDocuments)]) ∧
    (Machine.Along (process SplRuntime.plain DriverLibrary.plain lengthHash greetingSpec)
        (Honest SplRuntime.plain DriverLibrary.plain greetingSpec) greetingState
        [(greetingArrival, found helloDocuments)] →
      (Machine.run (process SplRuntime.plain DriverLibrary.plain lengthHash greetingSpec)
        greetingState [(greetingArrival, found helloDocuments)]).1.nQueries =
      Machine.count (process SplRuntime.plain DriverLibrary.plain lengthHash greetingSpec)
        (succeeded SplRuntime.plain DriverLibrary.plain greetingSpec) greetingState
        [(greetingArrival, found helloDocuments)]) :=
  failed_queries_are_no_results_iff SplRuntime.plain DriverLibrary.plain lengthHash greetingSpec ()
    greetingState rfl [(greetingArrival, found helloDocuments)]

theorem failed_queries_taken_for_results :
    (process SplRuntime.plain DriverLibrary.plain lengthHash greetingSpec greetingState
        (greetingArrival, ⟨.ok (), fun _ => .ok none, ""⟩)).2.finish = .nullDereference ∧
      succeeds (some [errorDocument]) = false ∧
      (process SplRuntime.plain DriverLibrary.plain lengthHash greetingSpec greetingState
        (greetingArrival, found [errorDocument])).2.submitted = [.windowMarker] ∧
      (process SplRuntime.plain DriverLibrary.plain lengthHash greetingSpec greetingState
        (greetingArrival, found [errorDocument])).1.nQueries = 1 :=
  ⟨rfl, rfl, rfl, rfl⟩

end StreamsMongo.Query
