import StreamsMongo.Library.Threads
import StreamsMongo.Operators.QueryRuns

set_option autoImplicit false

namespace StreamsMongo.Query

variable {Ext Tup : Type} {attrs : Attributes}

inductive Point (Ext Tup : Type) where
  | idle
  | called (arrival : Arrival Ext Tup) (driver : Driver)
  | assigned (arrival : Arrival Ext Tup) (driver : Driver)
  -- Before the metric is incremented, and before the cursor is dereferenced.
  | queried (arrival : Arrival Ext Tup) (cursor : Option (List BSONObj))
  | counted (arrival : Arrival Ext Tup) (cursor : Option (List BSONObj))
  | fetching (arrival : Arrival Ext Tup) (docFound : Bool) (documents : List BSONObj)

structure Thread (Ext Tup : Type) (attrs : Attributes) where
  otuplePtr : Option attrs.Value
  point : Point Ext Tup

inductive Emission (attrs : Attributes) where
  | submitted (s : Submitted attrs)
  | finished (finish : Finish)

def Outcome.emissions (outcome : Outcome attrs) : List (Emission attrs) :=
  outcome.submitted.map .submitted ++ [.finished outcome.finish]

def Thread.otuple (thread : Thread Ext Tup attrs) : attrs.Value :=
  thread.otuplePtr.getD attrs.cleared

def Thread.idle (thread : Thread Ext Tup attrs) : Bool :=
  match thread.point with
  | .idle => true
  | _ => false

section Program

variable (rt : SplRuntime) (lib : DriverLibrary) (hashCode : attrs.Value → BitVec 64)
  (spec : Specification Ext Tup attrs) (members : State attrs)

-- The members of the operator are shared and only read; the assignments touch the thread's tuple.
def Thread.next (thread : Thread Ext Tup attrs) :
    Threads.Step (Thread Ext Tup attrs) (Emission attrs) :=
  match thread.point with
  | .idle => ⟨thread, [], 0, false⟩
  | .called arrival driver =>
      match assignAsIs spec.schema arrival thread.otuple with
      | (otuple, some e) => ⟨⟨some otuple, .idle⟩, [.finished (.raised e)], 0, false⟩
      | (otuple, none) => ⟨⟨some otuple, .assigned arrival driver⟩, [], 0, false⟩
  | .assigned arrival driver =>
      match prepare rt lib spec members arrival driver with
      | .error e => ⟨{ thread with point := .idle }, [.finished (.raised e)], 0, false⟩
      | .ok cursor =>
          if driver.getLastError ≠ "" then
            ⟨{ thread with point := .idle }, [.finished .returned], 0, false⟩
          else ⟨{ thread with point := .queried arrival cursor }, [], 0, false⟩
  | .queried arrival cursor => ⟨{ thread with point := .counted arrival cursor }, [], 1, false⟩
  | .counted _ none => ⟨{ thread with point := .idle }, [.finished .nullDereference], 0, true⟩
  | .counted arrival (some documents) =>
      ⟨{ thread with point := .fetching arrival (!documents.isEmpty) documents }, [], 0, false⟩
  | .fetching arrival docFound (queryResultBO :: documents) =>
      let decoded := decodeDocument rt lib spec.schema arrival queryResultBO thread.otuple
      ⟨{ thread with point := .fetching arrival docFound documents },
        if hashCode decoded ≠ hashCode thread.otuple then [.submitted (.tuple decoded)] else [],
        0, false⟩
  | .fetching _ docFound [] =>
      let last := if docFound then .windowMarker else .tuple thread.otuple
      ⟨{ thread with point := .idle }, [.submitted last, .finished .returned], 0, false⟩

def program : Threads.Program (Thread Ext Tup attrs) (Arrival Ext Tup × Driver) (Emission attrs)
    where
  idle := Thread.idle
  call thread input := { thread with point := .called input.1 input.2 }
  next := Thread.next rt lib hashCode spec members

def alone (input : Arrival Ext Tup × Driver) : List (Emission attrs) :=
  (process rt lib hashCode spec members input).2.emissions

def counts (input : Arrival Ext Tup × Driver) : Nat :=
  (process rt lib hashCode spec members input).1.nQueries - members.nQueries

def fetched (thread : Thread Ext Tup attrs) (arrival : Arrival Ext Tup) (docFound : Bool)
    (documents : List BSONObj) : List (Emission attrs) :=
  (submitDocuments rt lib hashCode spec.schema arrival thread.otuple documents).map .submitted ++
    [.submitted (if docFound then .windowMarker else .tuple thread.otuple), .finished .returned]

def Thread.pending (thread : Thread Ext Tup attrs) : List (Emission attrs) :=
  match thread.point with
  | .idle => []
  | .called arrival driver => alone rt lib hashCode spec members (arrival, driver)
  | .assigned arrival driver =>
      (runQuery rt lib hashCode spec members thread.otuple arrival driver).2.emissions
  | .queried _ none | .counted _ none => [.finished .nullDereference]
  | .queried arrival (some documents) | .counted arrival (some documents) =>
      fetched rt lib hashCode spec thread arrival (!documents.isEmpty) documents
  | .fetching arrival docFound documents =>
      fetched rt lib hashCode spec thread arrival docFound documents

def Thread.due (thread : Thread Ext Tup attrs) : Nat :=
  match thread.point with
  | .called arrival driver => counts rt lib hashCode spec members (arrival, driver)
  | .assigned arrival driver =>
      (runQuery rt lib hashCode spec members thread.otuple arrival driver).1.nQueries -
        members.nQueries
  | .queried _ _ => 1
  | _ => 0

theorem runQuery_slot (slot : Option attrs.Value) (otuple : attrs.Value)
    (arrival : Arrival Ext Tup) (driver : Driver) :
    runQuery rt lib hashCode spec { members with otuplePtr := slot } otuple arrival driver =
      ({ (runQuery rt lib hashCode spec members otuple arrival driver).1 with otuplePtr := slot },
        (runQuery rt lib hashCode spec members otuple arrival driver).2) := by
  have prepared : prepare rt lib spec { members with otuplePtr := slot } arrival driver =
      prepare rt lib spec members arrival driver := rfl
  unfold runQuery
  rw [prepared]
  cases prepare rt lib spec members arrival driver with
  | error e => rfl
  | ok cursor =>
    dsimp only
    split_ifs
    · rfl
    · cases cursor <;> rfl

theorem process_assigned (clean : Clean spec members) (otuple assigned : attrs.Value)
    (cleared : spec.schema.DecodedCleared otuple) (arrival : Arrival Ext Tup) (driver : Driver)
    (assigns : assignAsIs spec.schema arrival otuple = (assigned, none)) :
    process rt lib hashCode spec members (arrival, driver) =
      runQuery rt lib hashCode spec { members with otuplePtr := some assigned } assigned arrival
        driver ∧ spec.schema.DecodedCleared assigned := by
  have kept := assignAsIs_cleared spec.schema arrival otuple cleared
  rw [assigns] at kept
  cases derived : spec.schema.inputDerived arrival with
  | error e =>
    have raised := assignAsIs_error spec.schema arrival otuple e derived
    rw [assigns] at raised
    cases raised
  | ok base =>
    have same := assignAsIs_ok spec.schema arrival otuple base cleared derived
    rw [assigns] at same
    cases same
    exact ⟨process_ok rt lib hashCode spec members arrival driver assigned clean derived, kept⟩

theorem process_unassigned (otuple assigned : attrs.Value) (e : Raised)
    (cleared : spec.schema.DecodedCleared otuple) (arrival : Arrival Ext Tup) (driver : Driver)
    (assigns : assignAsIs spec.schema arrival otuple = (assigned, some e)) :
    (process rt lib hashCode spec members (arrival, driver)).2 = ⟨[], .raised e⟩ ∧
      (process rt lib hashCode spec members (arrival, driver)).1.nQueries = members.nQueries ∧
      spec.schema.DecodedCleared assigned := by
  have kept := assignAsIs_cleared spec.schema arrival otuple cleared
  rw [assigns] at kept
  cases derived : spec.schema.inputDerived arrival with
  | error e' =>
    have raised := assignAsIs_error spec.schema arrival otuple e' derived
    rw [assigns] at raised
    cases raised
    rw [process_error rt lib hashCode spec members arrival driver e derived]
    exact ⟨rfl, rfl, kept⟩
  | ok base =>
    have same := assignAsIs_ok spec.schema arrival otuple base cleared derived
    rw [assigns] at same
    cases same

structure Follows (thread : Thread Ext Tup attrs)
    (step : Threads.Step (Thread Ext Tup attrs) (Emission attrs)) : Prop where
  cleared : spec.schema.DecodedCleared step.left.otuple
  emits : step.emits ++ step.left.pending rt lib hashCode spec members =
    thread.pending rt lib hashCode spec members
  adds : step.adds + step.left.due rt lib hashCode spec members =
    thread.due rt lib hashCode spec members

theorem called_follows (clean : Clean spec members) (otuplePtr : Option attrs.Value)
    (arrival : Arrival Ext Tup) (driver : Driver)
    (cleared : spec.schema.DecodedCleared (otuplePtr.getD attrs.cleared)) :
    Follows rt lib hashCode spec members ⟨otuplePtr, .called arrival driver⟩
      (Thread.next rt lib hashCode spec members ⟨otuplePtr, .called arrival driver⟩) := by
  unfold Thread.next
  simp only [Thread.otuple]
  rcases assigns : assignAsIs spec.schema arrival (otuplePtr.getD attrs.cleared) with
    ⟨assigned, raised⟩
  cases raised with
  | some e =>
    obtain ⟨outcome, counted, kept⟩ := process_unassigned rt lib hashCode spec members _ assigned e
      cleared arrival driver assigns
    refine ⟨kept, ?_, ?_⟩
    · simp only [Thread.pending, alone, outcome]
      rfl
    · simp only [Thread.due, counts, counted]
      omega
  | none =>
    obtain ⟨outcome, kept⟩ := process_assigned rt lib hashCode spec members clean _ assigned cleared
      arrival driver assigns
    refine ⟨kept, ?_, ?_⟩
    · simp only [Thread.pending, alone, outcome, runQuery_slot]
      rfl
    · simp only [Thread.due, counts, outcome, runQuery_slot]
      exact Nat.zero_add _

theorem assigned_follows (otuplePtr : Option attrs.Value) (arrival : Arrival Ext Tup)
    (driver : Driver) (cleared : spec.schema.DecodedCleared (otuplePtr.getD attrs.cleared)) :
    Follows rt lib hashCode spec members ⟨otuplePtr, .assigned arrival driver⟩
      (Thread.next rt lib hashCode spec members ⟨otuplePtr, .assigned arrival driver⟩) := by
  unfold Thread.next
  simp only
  cases prepared : prepare rt lib spec members arrival driver with
  | error e =>
    refine ⟨cleared, ?_, ?_⟩
    · simp [Thread.pending, runQuery, prepared, Outcome.emissions]
    · simp [Thread.due, runQuery, prepared]
  | ok cursor =>
    dsimp only
    by_cases logged : driver.getLastError ≠ ""
    · rw [if_pos logged]
      refine ⟨cleared, ?_, ?_⟩
      · simp [Thread.pending, runQuery, prepared, logged, Outcome.emissions]
      · simp [Thread.due, runQuery, prepared, logged]
    · rw [if_neg logged]
      refine ⟨cleared, ?_, ?_⟩
      · cases cursor with
        | none => simp [Thread.pending, runQuery, prepared, logged, Outcome.emissions]
        | some documents =>
          simp only [Thread.pending, runQuery, prepared, logged, if_false, List.nil_append,
            Outcome.emissions, fetched, List.map_append, List.append_assoc]
          cases documents <;> rfl
      · cases cursor <;> simp [Thread.due, runQuery, prepared, logged]

theorem fetching_follows (otuplePtr : Option attrs.Value) (arrival : Arrival Ext Tup)
    (docFound : Bool) (documents : List BSONObj)
    (cleared : spec.schema.DecodedCleared (otuplePtr.getD attrs.cleared)) :
    Follows rt lib hashCode spec members ⟨otuplePtr, .fetching arrival docFound documents⟩
      (Thread.next rt lib hashCode spec members
        ⟨otuplePtr, .fetching arrival docFound documents⟩) := by
  refine ⟨?_, ?_, ?_⟩
  · cases documents <;> exact cleared
  · cases documents with
    | nil => rfl
    | cons queryResultBO documents =>
      simp only [Thread.next, Thread.pending, Thread.otuple, fetched, submitDocuments,
        List.filterMap_cons]
      by_cases changed : hashCode (decodeDocument rt lib spec.schema arrival queryResultBO
          (otuplePtr.getD attrs.cleared)) = hashCode (otuplePtr.getD attrs.cleared)
      · simp [changed]
        rfl
      · simp [changed]
        rfl
  · cases documents <;> rfl

theorem next_follows (clean : Clean spec members) (thread : Thread Ext Tup attrs)
    (cleared : spec.schema.DecodedCleared thread.otuple) :
    Follows rt lib hashCode spec members thread
      (Thread.next rt lib hashCode spec members thread) := by
  obtain ⟨otuplePtr, point⟩ := thread
  cases point with
  | idle => exact ⟨cleared, rfl, rfl⟩
  | called arrival driver =>
    exact called_follows rt lib hashCode spec members clean otuplePtr arrival driver cleared
  | assigned arrival driver =>
    exact assigned_follows rt lib hashCode spec members otuplePtr arrival driver cleared
  | queried arrival cursor => cases cursor <;> exact ⟨cleared, rfl, rfl⟩
  | counted arrival cursor => cases cursor <;> exact ⟨cleared, rfl, rfl⟩
  | fetching arrival docFound documents =>
    exact fetching_follows rt lib hashCode spec members otuplePtr arrival docFound documents cleared

def meaning (clean : Clean spec members) :
    Threads.Meaning (program rt lib hashCode spec members) where
  inv thread := spec.schema.DecodedCleared thread.otuple
  answer := alone rt lib hashCode spec members
  amount := counts rt lib hashCode spec members
  pending := Thread.pending rt lib hashCode spec members
  due := Thread.due rt lib hashCode spec members
  finished thread _ idle := by
    obtain ⟨otuplePtr, point⟩ := thread
    cases point with
    | idle => exact ⟨rfl, rfl⟩
    | _ => cases idle
  called thread input cleared _ := ⟨cleared, rfl, rfl⟩
  stepped thread cleared _ := by
    obtain ⟨kept, emits, adds⟩ := next_follows rt lib hashCode spec members clean thread cleared
    exact ⟨kept, emits, adds⟩

end Program

section Schedules

variable {K : Type} [DecidableEq K] [Fintype K] (rt : SplRuntime) (lib : DriverLibrary)
  (hashCode : attrs.Value → BitVec 64) (spec : Specification Ext Tup attrs)

def ready : Threads.World K (Thread Ext Tup attrs) (Arrival Ext Tup × Driver) (Emission attrs) :=
  Threads.start ⟨none, .idle⟩

/-- The counter is shared; nothing else passes between the threads. -/
theorem threads_isolated (external : Ext) (initial : State attrs)
    (constructed : construct rt lib spec external = .ok initial)
    (schedule : List (Threads.Event K (Arrival Ext Tup × Driver))) :
    let w := Threads.run (program rt lib hashCode spec initial) ready schedule
    (∀ k, Threads.of k w.emitted <+:
      (Threads.of k w.accepted).flatMap (alone rt lib hashCode spec initial)) ∧
    (∀ k, (w.threads k).idle = true → Threads.of k w.emitted =
      (Threads.of k w.accepted).flatMap (alone rt lib hashCode spec initial)) ∧
    w.counter ≤ (w.accepted.map fun call => counts rt lib hashCode spec initial call.2).sum ∧
    ((∀ k, (w.threads k).idle = true) →
      w.counter = (w.accepted.map fun call => counts rt lib hashCode spec initial call.2).sum) := by
  intro w
  have clean := construct_clean rt lib spec external initial constructed
  have correct : (meaning rt lib hashCode spec initial clean).Correct w :=
    Threads.Meaning.run_correct _ schedule ready
      (Threads.Meaning.start_correct _ _ (decodedCleared_cleared spec.schema) rfl)
  exact ⟨correct.emitted, correct.finished, correct.counted⟩

end Schedules

-- The second thread is called while the first one is between its query and its first document.
def twoCalls : List (Threads.Event Bool (Arrival Unit Unit × Driver)) :=
  [.call false (greetingArrival, found helloDocuments), .next false, .next false, .next false,
    .call true (greetingArrival, found []), .next true, .next false, .next true, .next false,
    .next true]

theorem threads_isolated_greeting :
    let w := Threads.run (program SplRuntime.plain DriverLibrary.plain lengthHash greetingSpec
      greetingState) ready twoCalls
    (∀ k, Threads.of k w.emitted <+: (Threads.of k w.accepted).flatMap
      (alone SplRuntime.plain DriverLibrary.plain lengthHash greetingSpec greetingState)) ∧
    (∀ k, (w.threads k).idle = true → Threads.of k w.emitted = (Threads.of k w.accepted).flatMap
      (alone SplRuntime.plain DriverLibrary.plain lengthHash greetingSpec greetingState)) ∧
    w.counter ≤ (w.accepted.map fun call => counts SplRuntime.plain DriverLibrary.plain lengthHash
      greetingSpec greetingState call.2).sum ∧
    ((∀ k, (w.threads k).idle = true) →
      w.counter = (w.accepted.map fun call => counts SplRuntime.plain DriverLibrary.plain lengthHash
        greetingSpec greetingState call.2).sum) :=
  threads_isolated SplRuntime.plain DriverLibrary.plain lengthHash greetingSpec () greetingState rfl
    twoCalls

end StreamsMongo.Query
