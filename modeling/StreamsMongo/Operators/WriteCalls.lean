import StreamsMongo.Operators.CachedQuery

set_option autoImplicit false

namespace StreamsMongo.Write

variable {Ext Tup : Type} {op : Operator} {n : Nat} (spec : Specification Ext Tup op n)

section Issued

variable (rt : SplRuntime) (lib : DriverLibrary) (getCppTupleName : Nat → String)
  (query : Arrival Ext Tup → Except Raised BSONObj) (arrival : Arrival Ext Tup) (driver : Driver)

def Assignment.issued {t : SplType} (assignment : Assignment (Arrival Ext Tup) op t) :
    Option DriverCall :=
  assignment.operation?.bind fun call =>
    if admits (call.guard getCppTupleName spec.numberOfInputPorts) arrival.port then
      match call.driverCall rt lib query arrival, driver.connection with
      | .ok issued, .ok _ => some issued
      | _, _ => none
    else none

def noError : Except Raised String → Bool
  | .ok errorMsg => errorMsg = ""
  | .error _ => false

-- Whether an output tuple exists decides on `AsIs` assignments only, which issue nothing.
theorem execute_sends {t : SplType} (assignment : Assignment (Arrival Ext Tup) op t)
    (hasTuple : Bool) :
    (assignment.execute rt lib getCppTupleName spec query arrival driver hasTuple).issued =
        assignment.issued spec rt lib getCppTupleName query arrival driver ∧
      (assignment.execute rt lib getCppTupleName spec query arrival driver hasTuple).isSuccess =
        (assignment.issued spec rt lib getCppTupleName query arrival driver).any fun call =>
          noError (driver.getLastError call) := by
  cases assignment with
  | unassigned => exact ⟨rfl, rfl⟩
  | asIs init =>
    rw [Assignment.execute]
    cases hasTuple with
    | false => exact ⟨rfl, rfl⟩
    | true => cases init arrival <;> exact ⟨rfl, rfl⟩
  | operation call =>
    simp only [Assignment.execute, Operation.execute, Assignment.issued, Assignment.operation?,
      Option.bind_some]
    by_cases admitted : admits (call.guard getCppTupleName spec.numberOfInputPorts) arrival.port
    · rw [if_pos admitted, if_pos admitted]
      cases call.driverCall rt lib query arrival with
      | error e => exact ⟨rfl, rfl⟩
      | ok issued =>
        cases driver.connection with
        | error e => exact ⟨rfl, rfl⟩
        | ok _ =>
          simp only [Option.any_some]
          cases driver.getLastError issued with
          | error e => exact ⟨rfl, rfl⟩
          | ok errorMsg =>
            by_cases silent : errorMsg = ""
            · simp [silent, Effect.issued, Effect.isSuccess, noError]
            · simp [silent, Effect.issued, Effect.isSuccess, noError]
    · rw [if_neg admitted, if_neg admitted]
      exact ⟨rfl, rfl⟩

end Issued

section Loop

variable (rt : SplRuntime) (lib : DriverLibrary) (getCppTupleName : Nat → String) (state : State)
  (input : Arrival Ext Tup × (Fin n → Driver))

def issuedFor (i : Fin n) : Option DriverCall :=
  (spec.assignment i).issued spec rt lib getCppTupleName (findQueryBO rt lib spec state) input.1
    (input.2 i)

def sends (i : Fin n) : Option (Fin n × DriverCall) :=
  (issuedFor spec rt lib getCppTupleName state input i).map fun call => (i, call)

def succeeds (sent : Fin n × DriverCall) : Bool := noError ((input.2 sent.1).getLastError sent.2)

def Stops (i : Fin n) (stop : Stop) : Prop :=
  ∃ hasTuple entered issued, (spec.assignment i).execute rt lib getCppTupleName spec
    (findQueryBO rt lib spec state) input.1 (input.2 i) hasTuple = .stopped entered issued stop

def StopsLast (done : List (Fin n)) (stop : Stop) : Prop :=
  ∃ before i, done = before ++ [i] ∧ Stops spec rt lib getCppTupleName state input i stop

structure Sent (progress : Progress spec) (done : List (Fin n)) : Prop where
  calls : progress.calls = done.filterMap (sends spec rt lib getCppTupleName state input)
  counter : progress.counter = state.counter + progress.calls.countP (succeeds input)
  stopped : ∀ stop, progress.stop = some stop →
    StopsLast spec rt lib getCppTupleName state input done stop

theorem apply_counter (progress : Progress spec) (i : Fin n)
    (effect : Effect (spec.attributes i)) :
    (progress.apply i effect).counter =
      progress.counter + if effect.isSuccess then 1 else 0 := by
  cases effect <;> simp [Progress.apply, Effect.isSuccess]

theorem apply_stop (progress : Progress spec) (i : Fin n) (effect : Effect (spec.attributes i))
    (running : progress.stop = none) (stop : Stop)
    (stopped : (progress.apply i effect).stop = some stop) :
    ∃ entered issued, effect = .stopped entered issued stop := by
  cases effect with
  | skipped | assigned value | succeeded call | failed call errorMsg =>
    cases running.symm.trans stopped
  | stopped entered issued here =>
    cases stopped
    exact ⟨entered, issued, rfl⟩

theorem assign_sent (progress : Progress spec) (done : List (Fin n)) (i : Fin n)
    (running : progress.stop = none)
    (sent : Sent spec rt lib getCppTupleName state input progress done) :
    Sent spec rt lib getCppTupleName state input
      (assign rt lib getCppTupleName spec (findQueryBO rt lib spec state) input.1 input.2 progress
        i)
      (done ++ [i]) := by
  obtain ⟨issued, success⟩ := execute_sends spec rt lib getCppTupleName
    (findQueryBO rt lib spec state) input.1 (input.2 i) (spec.assignment i)
    progress.otuplePtr.isSome
  rw [assign, running, Option.isSome_none, if_neg Bool.false_ne_true]
  constructor
  · rw [apply_calls, issued, sent.calls, List.filterMap_append]
    simp only [sends, issuedFor, List.filterMap_cons, List.filterMap_nil]
    cases (spec.assignment i).issued spec rt lib getCppTupleName (findQueryBO rt lib spec state)
      input.1 (input.2 i) <;> rfl
  · rw [apply_counter, apply_calls, issued, success, sent.counter, List.countP_append,
      Nat.add_assoc]
    cases (spec.assignment i).issued spec rt lib getCppTupleName (findQueryBO rt lib spec state)
      input.1 (input.2 i) with
    | none => rfl
    | some call =>
      cases answered : noError ((input.2 i).getLastError call) <;> simp [succeeds, answered]
  · intro stop stopped
    obtain ⟨entered, issued, effect⟩ := apply_stop spec progress i _ running stop stopped
    exact ⟨done, i, rfl, progress.otuplePtr.isSome, entered, issued, effect⟩

theorem foldl_sent (rest done : List (Fin n)) (progress : Progress spec)
    (sent : Sent spec rt lib getCppTupleName state input progress done) :
    ∃ more, more <+: rest ∧
      Sent spec rt lib getCppTupleName state input
        (rest.foldl (assign rt lib getCppTupleName spec (findQueryBO rt lib spec state) input.1
          input.2) progress) (done ++ more) ∧
      ((rest.foldl (assign rt lib getCppTupleName spec (findQueryBO rt lib spec state) input.1
        input.2) progress).stop = none → more = rest) := by
  induction rest generalizing done progress with
  | nil => exact ⟨[], List.prefix_rfl, by simpa using sent, fun _ => rfl⟩
  | cons i rest ih =>
    cases stopped : progress.stop with
    | some stop =>
      have isStopped : progress.stop.isSome = true := by rw [stopped]; rfl
      rw [foldl_assign_stop spec rt lib getCppTupleName state input progress (i :: rest) isStopped]
      refine ⟨[], List.nil_prefix, by simpa using sent, ?_⟩
      intro running
      cases stopped.symm.trans running
    | none =>
      have next := assign_sent spec rt lib getCppTupleName state input progress done i stopped sent
      obtain ⟨more, before, later, complete⟩ := ih (done ++ [i]) _ next
      refine ⟨i :: more, List.prefix_cons_inj i |>.mpr before, ?_, ?_⟩
      · rw [List.append_assoc] at later
        exact later
      · exact fun running => congrArg (List.cons i) (complete running)

end Loop

section Runs

variable (rt : SplRuntime) (lib : DriverLibrary) (getCppTupleName : Nat → String)

structure InOrder (initial : State) (input : Arrival Ext Tup × (Fin n → Driver))
    (outcome : Outcome spec) : Prop where
  ordered : (outcome.calls.map Prod.fst).Pairwise (· < ·)
  sent : ∃ done, done <+: List.finRange n ∧
    outcome.calls = done.filterMap (sends spec rt lib getCppTupleName initial input) ∧
    (outcome.stop = none → done = List.finRange n) ∧
    ∀ stop, outcome.stop = some stop →
      StopsLast spec rt lib getCppTupleName initial input done stop
  silent : outcome.stop ≠ none → outcome.submitted = none

theorem sends_sublist (state : State) (input : Arrival Ext Tup × (Fin n → Driver))
    (done : List (Fin n)) :
    ((done.filterMap (sends spec rt lib getCppTupleName state input)).map Prod.fst).Sublist
      done := by
  induction done with
  | nil => exact .slnil
  | cons i rest ih =>
    rw [List.filterMap_cons]
    cases sent : sends spec rt lib getCppTupleName state input i with
    | none => exact ih.cons i
    | some call =>
      obtain ⟨_, _, same⟩ := Option.map_eq_some_iff.mp sent
      cases same
      exact ih.cons_cons i

-- The document cached by the constructor is all that the code reads of the state.
theorem sends_congr (state initial : State) (same : state.findQueryBO = initial.findQueryBO)
    (input : Arrival Ext Tup × (Fin n → Driver)) :
    sends spec rt lib getCppTupleName state input =
        sends spec rt lib getCppTupleName initial input ∧
      StopsLast spec rt lib getCppTupleName state input =
        StopsLast spec rt lib getCppTupleName initial input := by
  unfold sends issuedFor StopsLast Stops findQueryBO
  rw [same]
  exact ⟨rfl, rfl⟩

theorem process_in_order (state : State) (input : Arrival Ext Tup × (Fin n → Driver)) :
    InOrder spec rt lib getCppTupleName state input
        (process rt lib getCppTupleName spec state input).2 ∧
      (process rt lib getCppTupleName spec state input).1.counter = state.counter +
        (process rt lib getCppTupleName spec state input).2.calls.countP (succeeds input) := by
  have start : Sent spec rt lib getCppTupleName state input (started spec state) [] :=
    ⟨rfl, rfl, nofun⟩
  obtain ⟨done, before, sent, complete⟩ := foldl_sent spec rt lib getCppTupleName state input
    (List.finRange n) [] (started spec state) start
  rw [List.nil_append] at sent
  refine ⟨⟨?_, ⟨done, before, sent.calls, complete, sent.stopped⟩, ?_⟩, sent.counter⟩
  · change (List.map Prod.fst (Progress.calls _)).Pairwise (· < ·)
    rw [sent.calls]
    exact (List.pairwise_lt_finRange n).sublist
      ((sends_sublist spec rt lib getCppTupleName state input done).trans before.sublist)
  · intro stopped
    refine if_neg fun submits => stopped ?_
    rw [Bool.and_eq_true, Option.isNone_iff_eq_none] at submits
    exact submits.1

/-- Arrivals that raise are included. -/
theorem writes_in_order (initial : State)
    (inputs : List (Arrival Ext Tup × (Fin n → Driver))) :
    List.Forall₂ (InOrder spec rt lib getCppTupleName initial) inputs
        (Machine.run (process rt lib getCppTupleName spec) initial inputs).2 ∧
      (Machine.run (process rt lib getCppTupleName spec) initial inputs).1.counter =
        initial.counter + (List.zipWith (fun input outcome => outcome.calls.countP (succeeds input))
          inputs (Machine.run (process rt lib getCppTupleName spec) initial inputs).2).sum := by
  refine Machine.run_related _ (fun state => state.findQueryBO = initial.findQueryBO) _
    State.counter _ ?_ ?_ ?_ initial inputs rfl
  · exact fun _ _ same => same
  · intro state input same
    obtain ⟨ordered, ⟨done, before, calls, complete, stopped⟩, silent⟩ :=
      (process_in_order spec rt lib getCppTupleName state input).1
    obtain ⟨sameCalls, sameStops⟩ :=
      sends_congr spec rt lib getCppTupleName state initial same input
    rw [sameCalls] at calls
    rw [sameStops] at stopped
    exact ⟨ordered, ⟨done, before, calls, complete, stopped⟩, silent⟩
  · exact fun state input _ => (process_in_order spec rt lib getCppTupleName state input).2

end Runs

end StreamsMongo.Write
