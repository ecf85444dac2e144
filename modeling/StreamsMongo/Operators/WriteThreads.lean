import StreamsMongo.Library.Threads
import StreamsMongo.Operators.WriteCalls

set_option autoImplicit false

namespace StreamsMongo.Write

variable {Ext Tup : Type} {op : Operator} {n : Nat} (spec : Specification Ext Tup op n)

inductive Point (D : Type) where
  | idle
  | running (input : Arrival Ext Tup × (Fin n → D)) (progress : Progress spec)
      (rest : List (Fin n))
  -- The call of the attribute has been sent, and its answer is not looked at yet.
  | answering (input : Arrival Ext Tup × (Fin n → D)) (progress : Progress spec) (i : Fin n)
      (effect : Effect (spec.attributes i)) (rest : List (Fin n))

inductive Emission where
  | sent (i : Fin n) (call : DriverCall)
  | submitted (otuple : (i : Fin n) → (spec.attributes i).Value)
  | finished (stop : Option Stop)

variable {spec} in
def Point.idle? {D : Type} : Point spec D → Bool
  | .idle => true
  | _ => false

variable {spec} in
def Outcome.closing (outcome : Outcome spec) : List (Emission spec) :=
  outcome.submitted.toList.map .submitted ++ [.finished outcome.stop]

variable {spec} in
def sentCalls (calls : List (Fin n × DriverCall)) : List (Emission spec) :=
  calls.map fun call => .sent call.1 call.2

section Program

variable (rt : SplRuntime) (lib : DriverLibrary) (getCppTupleName : Nat → String) (state : State)

variable {spec} in
def Point.next : Point spec Driver → Threads.Step (Point spec Driver) (Emission spec)
  | .idle => ⟨.idle, [], 0, false⟩
  | .running input progress (i :: rest) =>
      let effect := (spec.assignment i).execute rt lib getCppTupleName spec
        (findQueryBO rt lib spec state) input.1 (input.2 i) progress.otuplePtr.isSome
      ⟨.answering input progress i effect rest, effect.issued.toList.map (.sent i), 0, false⟩
  | .running _ progress [] => ⟨.idle, progress.finish.closing, 0, false⟩
  | .answering input progress i effect rest =>
      let answered := progress.apply i effect
      let adds := if effect.isSuccess then 1 else 0
      match answered.stop with
      | some stop => ⟨.idle, [.finished (some stop)], adds, stop = .nullDereference⟩
      | none => ⟨.running input answered rest, [], adds, false⟩

def program :
    Threads.Program (Point spec Driver) (Arrival Ext Tup × (Fin n → Driver)) (Emission spec) where
  idle := Point.idle?
  call _ input := .running input (started spec { state with counter := 0 }) (List.finRange n)
  next := Point.next rt lib getCppTupleName state

def alone (input : Arrival Ext Tup × (Fin n → Driver)) : List (Emission spec) :=
  let outcome := (process rt lib getCppTupleName spec { state with counter := 0 } input).2
  sentCalls outcome.calls ++ outcome.closing

def counts (input : Arrival Ext Tup × (Fin n → Driver)) : Nat :=
  (process rt lib getCppTupleName spec { state with counter := 0 } input).1.counter

variable {spec} in
def later (input : Arrival Ext Tup × (Fin n → Driver)) (progress : Progress spec)
    (rest : List (Fin n)) : Progress spec :=
  rest.foldl (assign rt lib getCppTupleName spec (findQueryBO rt lib spec state) input.1 input.2)
    progress

variable {spec} in
def remaining (input : Arrival Ext Tup × (Fin n → Driver)) (progress : Progress spec)
    (rest : List (Fin n)) : List (Emission spec) :=
  let last := later rt lib getCppTupleName state input progress rest
  sentCalls (last.calls.drop progress.calls.length) ++ last.finish.closing

variable {spec} in
def Point.pending : Point spec Driver → List (Emission spec)
  | .idle => []
  | .running input progress rest => remaining rt lib getCppTupleName state input progress rest
  | .answering input progress i effect rest =>
      remaining rt lib getCppTupleName state input (progress.apply i effect) rest

variable {spec} in
def Point.due : Point spec Driver → Nat
  | .idle => 0
  | .running input progress rest =>
      (later rt lib getCppTupleName state input progress rest).counter - progress.counter
  | .answering input progress i effect rest =>
      (later rt lib getCppTupleName state input (progress.apply i effect) rest).counter -
        progress.counter

variable {spec} in
-- A thread on its way has not been stopped.
def Point.Running : Point spec Driver → Prop
  | .idle => True
  | .running _ progress _ | .answering _ progress _ _ _ => progress.stop = none

theorem later_extends (input : Arrival Ext Tup × (Fin n → Driver)) (progress : Progress spec)
    (rest : List (Fin n)) :
    progress.calls <+: (later rt lib getCppTupleName state input progress rest).calls ∧
      progress.counter ≤ (later rt lib getCppTupleName state input progress rest).counter := by
  refine foldl_assign_invariant spec rt lib getCppTupleName (findQueryBO rt lib spec state) input.1
    input.2 (fun last => progress.calls <+: last.calls ∧ progress.counter ≤ last.counter) ?_ rest
    progress ⟨List.prefix_rfl, le_rfl⟩
  intro last i both
  rw [apply_calls, apply_counter]
  exact ⟨both.1.trans (List.prefix_append _ _), Nat.le_add_right_of_le both.2⟩

theorem later_stopped (input : Arrival Ext Tup × (Fin n → Driver)) (progress : Progress spec)
    (rest : List (Fin n)) (stop : Stop) (stopped : progress.stop = some stop) :
    later rt lib getCppTupleName state input progress rest = progress :=
  foldl_assign_stop spec rt lib getCppTupleName state input progress rest (by rw [stopped]; rfl)

omit state rt lib getCppTupleName in
theorem sentCalls_drop (before sent more : List (Fin n × DriverCall)) :
    (sentCalls ((before ++ sent ++ more).drop before.length) : List (Emission spec)) =
      sentCalls sent ++ sentCalls ((before ++ sent ++ more).drop (before ++ sent).length) := by
  rw [List.drop_left, List.append_assoc, List.drop_left, sentCalls, List.map_append]
  rfl

theorem remaining_cons (input : Arrival Ext Tup × (Fin n → Driver)) (progress : Progress spec)
    (running : progress.stop = none) (i : Fin n) (rest : List (Fin n)) :
    let effect := (spec.assignment i).execute rt lib getCppTupleName spec
      (findQueryBO rt lib spec state) input.1 (input.2 i) progress.otuplePtr.isSome
    later rt lib getCppTupleName state input progress (i :: rest) =
        later rt lib getCppTupleName state input (progress.apply i effect) rest ∧
      remaining rt lib getCppTupleName state input progress (i :: rest) =
        effect.issued.toList.map (.sent i) ++
          remaining rt lib getCppTupleName state input (progress.apply i effect) rest := by
  intro effect
  have assigned : assign rt lib getCppTupleName spec (findQueryBO rt lib spec state) input.1 input.2
      progress i = progress.apply i effect := by
    rw [assign, running, Option.isSome_none, if_neg Bool.false_ne_true]
  have same : later rt lib getCppTupleName state input progress (i :: rest) =
      later rt lib getCppTupleName state input (progress.apply i effect) rest := by
    unfold later
    rw [List.foldl_cons, assigned]
  refine ⟨same, ?_⟩
  obtain ⟨more, calls⟩ :=
    (later_extends spec rt lib getCppTupleName state input (progress.apply i effect) rest).1
  have issued := apply_calls spec progress i effect
  simp only [remaining, same]
  rw [← calls, issued, sentCalls_drop, List.append_assoc]
  congr 1
  exact List.map_map

theorem next_stepped (point : Point spec Driver) (running : point.Running)
    (busy : point.idle? = false) :
    (point.next rt lib getCppTupleName state).left.Running ∧
      (point.next rt lib getCppTupleName state).emits ++
          (point.next rt lib getCppTupleName state).left.pending rt lib getCppTupleName state =
        point.pending rt lib getCppTupleName state ∧
      (point.next rt lib getCppTupleName state).adds +
          (point.next rt lib getCppTupleName state).left.due rt lib getCppTupleName state =
        point.due rt lib getCppTupleName state := by
  cases point with
  | idle => cases busy
  | running input progress rest =>
    cases rest with
    | nil =>
      refine ⟨trivial, ?_, ?_⟩
      · simp [Point.next, Point.pending, remaining, later, sentCalls]
      · simp [Point.next, Point.due, later]
    | cons i rest =>
      obtain ⟨same, split⟩ := remaining_cons spec rt lib getCppTupleName state input progress
        running i rest
      refine ⟨running, split.symm, ?_⟩
      simp only [Point.next, Point.due, same, Nat.zero_add]
  | answering input progress i effect rest =>
    have counted := apply_counter spec progress i effect
    have grown := (later_extends spec rt lib getCppTupleName state input (progress.apply i effect)
      rest).2
    cases answered : (progress.apply i effect).stop with
    | none =>
      refine ⟨?_, ?_, ?_⟩ <;> simp only [Point.next, answered]
      · exact answered
      · rfl
      · simp only [Point.due]
        omega
    | some stop =>
      have last := later_stopped spec rt lib getCppTupleName state input (progress.apply i effect)
        rest stop answered
      refine ⟨?_, ?_, ?_⟩ <;> simp only [Point.next, answered]
      · trivial
      · simp [Point.pending, remaining, last, sentCalls, Outcome.closing, Progress.finish, answered]
      · simp only [Point.due, last]
        omega

def meaning : Threads.Meaning (program spec rt lib getCppTupleName state) where
  inv := Point.Running
  answer := alone spec rt lib getCppTupleName state
  amount := counts spec rt lib getCppTupleName state
  pending := Point.pending rt lib getCppTupleName state
  due := Point.due rt lib getCppTupleName state
  finished point _ idle := by
    cases point with
    | idle => exact ⟨rfl, rfl⟩
    | _ => cases idle
  called _ _ _ _ := ⟨rfl, rfl, rfl⟩
  stepped point running busy :=
    next_stepped spec rt lib getCppTupleName state point running busy

end Program

theorem writes_isolated {K : Type} [DecidableEq K] [Fintype K] (rt : SplRuntime)
    (lib : DriverLibrary) (getCppTupleName : Nat → String) (state : State)
    (schedule : List (Threads.Event K (Arrival Ext Tup × (Fin n → Driver)))) :
    let w := Threads.run (program spec rt lib getCppTupleName state) (Threads.start Point.idle)
      schedule
    (∀ k, Threads.of k w.emitted <+:
      (Threads.of k w.accepted).flatMap (alone spec rt lib getCppTupleName state)) ∧
    (∀ k, (w.threads k).idle? = true → Threads.of k w.emitted =
      (Threads.of k w.accepted).flatMap (alone spec rt lib getCppTupleName state)) ∧
    w.counter ≤
      (w.accepted.map fun call => counts spec rt lib getCppTupleName state call.2).sum ∧
    ((∀ k, (w.threads k).idle? = true) → w.counter =
      (w.accepted.map fun call => counts spec rt lib getCppTupleName state call.2).sum) := by
  intro w
  have correct : (meaning spec rt lib getCppTupleName state).Correct w :=
    Threads.Meaning.run_correct _ schedule (Threads.start Point.idle)
      (Threads.Meaning.start_correct _ _ trivial rfl)
  exact ⟨correct.emitted, correct.finished, correct.counted⟩

end StreamsMongo.Write
