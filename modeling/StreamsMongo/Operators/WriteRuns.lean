import Mathlib.Data.Fin.VecNotation
import StreamsMongo.Library.Loops
import StreamsMongo.Library.Machine
import StreamsMongo.Operators.Write

set_option autoImplicit false

namespace StreamsMongo.Write

section Effects

variable {t : SplType}

def Effect.Settled : Effect t → Prop
  | .skipped | .succeeded _ | .failed _ _ => True
  | .assigned _ | .stopped _ _ _ => False

def Effect.ran : Effect t → Bool
  | .succeeded _ | .failed _ _ => true
  | _ => false

def Effect.call : Effect t → Option DriverCall
  | .succeeded call | .failed call _ => some call
  | _ => none

def Effect.isSuccess : Effect t → Bool
  | .succeeded _ => true
  | _ => false

def Effect.isFailure : Effect t → Bool
  | .failed _ _ => true
  | _ => false

def Effect.errorText : Effect t → t.Value
  | .failed _ errorMsg => errorMsg
  | _ => t.cleared

end Effects

variable {Ext Tup : Type} {op : Operator} {n : Nat} (spec : Specification Ext Tup op n)

section Execution

variable (rt : SplRuntime) (lib : DriverLibrary) (getCppTupleName : Nat → String)
  (query : Arrival Ext Tup → Except Raised BSONObj) (arrival : Arrival Ext Tup) (driver : Driver)
  (call : Operation (Arrival Ext Tup) op)

inductive Operation.Path : Effect (.prim .rstring) → Prop where
  | rejected : admits (call.guard getCppTupleName spec.numberOfInputPorts) arrival.port = false →
      Path .skipped
  | unbuilt (e : Raised) :
      admits (call.guard getCppTupleName spec.numberOfInputPorts) arrival.port = true →
      call.driverCall rt lib query arrival = .error e → Path (.stopped true none (.raised e))
  | unconnected (e : Raised) :
      admits (call.guard getCppTupleName spec.numberOfInputPorts) arrival.port = true →
      driver.connection = .error e → Path (.stopped true none (.raised e))
  | unanswered (issued : DriverCall) (e : Raised) :
      admits (call.guard getCppTupleName spec.numberOfInputPorts) arrival.port = true →
      call.driverCall rt lib query arrival = .ok issued → driver.getLastError issued = .error e →
      Path (.stopped true (some issued) (.raised e))
  | succeeded (issued : DriverCall) :
      admits (call.guard getCppTupleName spec.numberOfInputPorts) arrival.port = true →
      call.driverCall rt lib query arrival = .ok issued → driver.connection = .ok () →
      driver.getLastError issued = .ok "" → Path (.succeeded issued)
  | failed (issued : DriverCall) (errorMsg : String) :
      admits (call.guard getCppTupleName spec.numberOfInputPorts) arrival.port = true →
      call.driverCall rt lib query arrival = .ok issued →
      driver.getLastError issued = .ok errorMsg → errorMsg ≠ "" → Path (.failed issued errorMsg)

theorem Operation.execute_path :
    call.Path spec rt lib getCppTupleName query arrival driver
      (call.execute rt lib getCppTupleName spec query arrival driver) := by
  rw [Operation.execute]
  cases admitted : admits (call.guard getCppTupleName spec.numberOfInputPorts) arrival.port with
  | false => exact .rejected admitted
  | true =>
    rw [if_pos rfl]
    rcases built : call.driverCall rt lib query arrival with e | issued
    · exact .unbuilt e admitted built
    rcases connected : driver.connection with e | _
    · exact .unconnected e admitted connected
    simp only
    rcases answered : driver.getLastError issued with e | errorMsg
    · exact .unanswered issued e admitted built answered
    simp only
    by_cases silent : errorMsg = ""
    · rw [if_pos silent]
      exact .succeeded issued admitted built connected (by rw [answered, silent])
    · rw [if_neg silent]
      exact .failed issued errorMsg admitted built answered silent

theorem foldl_assign_invariant (drivers : Fin n → Driver) (holds : Progress spec → Prop)
    (preserved : ∀ progress i, holds progress → holds (progress.apply i
      ((spec.assignment i).execute rt lib getCppTupleName spec query arrival (drivers i)
        progress.otuplePtr.isSome)))
    (rest : List (Fin n)) (progress : Progress spec) (start : holds progress) :
    holds (rest.foldl (assign rt lib getCppTupleName spec query arrival drivers) progress) := by
  induction rest generalizing progress with
  | nil => exact start
  | cons i rest ih =>
    refine ih _ ?_
    rw [assign]
    split_ifs with stopped
    · exact start
    · exact preserved progress i start

end Execution

section Loop

variable (effect : (i : Fin n) → Effect (spec.attributes i))

def errorTuple (done : List (Fin n)) (i : Fin n) : (spec.attributes i).Value :=
  if i ∈ done then (effect i).errorText else (spec.attributes i).cleared

/-- The variables of `process` once the assignments of `done` have been executed. -/
def expected (counter : Nat) (done : List (Fin n)) : Progress spec where
  otuplePtr :=
    if done.any fun i => (effect i).isFailure then some (errorTuple spec effect done) else none
  errorFound := done.any fun i => (effect i).isFailure
  counter := counter + done.countP fun i => (effect i).isSuccess
  entered := done.filter fun i => (effect i).ran
  calls := done.filterMap fun i => (effect i).call.map fun call => (i, call)
  stop := none

theorem errorTuple_concat (done : List (Fin n)) (i : Fin n) :
    errorTuple spec effect (done ++ [i]) =
      Function.update (errorTuple spec effect done) i (effect i).errorText := by
  funext j
  by_cases same : j = i
  · subst same
    simp [errorTuple]
  · simp [errorTuple, same]

theorem errorTuple_concat_cleared (done : List (Fin n)) (i : Fin n)
    (cleared : (effect i).errorText = (spec.attributes i).cleared) :
    errorTuple spec effect (done ++ [i]) = errorTuple spec effect done := by
  rw [errorTuple_concat]
  funext j
  by_cases same : j = i
  · subst same
    simp [errorTuple, cleared]
  · simp [same]

theorem errorTuple_unfailed (done : List (Fin n))
    (unfailed : (done.any fun i => (effect i).isFailure) = false) :
    errorTuple spec effect done = clearedTuple spec := by
  funext i
  by_cases member : i ∈ done
  · have quiet := List.any_eq_false.mp unfailed i member
    simp only [errorTuple, member, if_true, clearedTuple]
    cases result : effect i <;> simp_all [Effect.errorText, Effect.isFailure]
  · simp [errorTuple, clearedTuple, member]

theorem apply_expected (counter : Nat) (done : List (Fin n)) (i : Fin n)
    (settled : (effect i).Settled) :
    (expected spec effect counter done).apply i (effect i) =
      expected spec effect counter (done ++ [i]) := by
  cases result : effect i with
  | skipped =>
    have same := errorTuple_concat_cleared spec effect done i (by rw [result]; rfl)
    simp [expected, Progress.apply, result, same, Effect.isFailure, Effect.isSuccess, Effect.ran,
      Effect.call]
  | assigned value =>
    rw [result] at settled
    exact settled.elim
  | succeeded call =>
    have same := errorTuple_concat_cleared spec effect done i (by rw [result]; rfl)
    simp [expected, Progress.apply, result, same, Effect.isFailure, Effect.isSuccess, Effect.ran,
      Effect.call, Nat.add_assoc]
  | failed call errorMsg =>
    have updated := errorTuple_concat spec effect done i
    rw [result] at updated
    -- The tuple is created by the first failure and kept by the later ones.
    have base : (expected spec effect counter done).otuplePtr.getD (clearedTuple spec) =
        errorTuple spec effect done := by
      unfold expected
      cases any : done.any fun i => (effect i).isFailure with
      | true => rfl
      | false => exact (errorTuple_unfailed spec effect done any).symm
    rw [Progress.apply, base]
    simp [expected, result, updated, Effect.isFailure, Effect.isSuccess, Effect.ran, Effect.call,
      Effect.errorText]
  | stopped entered issued stop =>
    rw [result] at settled
    exact settled.elim

end Loop

section Process

variable (rt : SplRuntime) (lib : DriverLibrary) (getCppTupleName : Nat → String)

def Assignment.isAsIs {In : Type} {t : SplType} : Assignment In op t → Bool
  | .asIs _ => true
  | _ => false

def NoAsIs : Prop := ∀ i, (spec.assignment i).isAsIs = false

variable (state : State) (input : Arrival Ext Tup × (Fin n → Driver))

def effect (i : Fin n) : Effect (spec.attributes i) :=
  (spec.assignment i).execute rt lib getCppTupleName spec (findQueryBO rt lib spec state) input.1
    (input.2 i) false

theorem Assignment.execute_noAsIs {t : SplType} (driver : Driver)
    (query : Arrival Ext Tup → Except Raised BSONObj) (arrival : Arrival Ext Tup)
    (assignment : Assignment (Arrival Ext Tup) op t) (notAsIs : assignment.isAsIs = false)
    (hasTuple : Bool) :
    assignment.execute rt lib getCppTupleName spec query arrival driver hasTuple =
      assignment.execute rt lib getCppTupleName spec query arrival driver false := by
  cases assignment with
  | unassigned => rfl
  | asIs init => cases notAsIs
  | operation call => rfl

variable (noAsIs : NoAsIs spec)

include noAsIs

theorem assign_effect (progress : Progress spec) (i : Fin n) :
    assign rt lib getCppTupleName spec (findQueryBO rt lib spec state) input.1 input.2 progress i =
      if progress.stop.isSome then progress
      else progress.apply i (effect spec rt lib getCppTupleName state input i) := by
  rw [assign, (spec.assignment i).execute_noAsIs spec rt lib getCppTupleName (input.2 i) _ _
    (noAsIs i)]
  rfl

theorem foldl_assign_expected (counter : Nat) (done rest : List (Fin n))
    (settled : ∀ i ∈ rest, (effect spec rt lib getCppTupleName state input i).Settled) :
    rest.foldl (assign rt lib getCppTupleName spec (findQueryBO rt lib spec state) input.1 input.2)
        (expected spec (effect spec rt lib getCppTupleName state input) counter done) =
      expected spec (effect spec rt lib getCppTupleName state input) counter (done ++ rest) := by
  induction rest generalizing done with
  | nil => rw [List.append_nil]; rfl
  | cons i rest ih =>
    have next := apply_expected spec (effect spec rt lib getCppTupleName state input) counter done i
      (settled i (by simp))
    rw [List.foldl_cons, assign_effect spec rt lib getCppTupleName state input noAsIs, next]
    exact (ih (done ++ [i]) fun j later => settled j (by simp [later])).trans
      (by rw [List.append_assoc]; rfl)

omit noAsIs in
theorem foldl_assign_stop (progress : Progress spec) (rest : List (Fin n))
    (stopped : progress.stop.isSome = true) :
    rest.foldl (assign rt lib getCppTupleName spec (findQueryBO rt lib spec state) input.1 input.2)
      progress = progress := by
  induction rest with
  | nil => rfl
  | cons i rest ih => rw [List.foldl_cons, assign, if_pos stopped, ih]

theorem foldl_assign_stopped (progress : Progress spec) (rest : List (Fin n)) (i : Fin n)
    (member : i ∈ rest) (stops : ∃ entered issued stop,
      effect spec rt lib getCppTupleName state input i = .stopped entered issued stop) :
    (rest.foldl (assign rt lib getCppTupleName spec (findQueryBO rt lib spec state) input.1 input.2)
      progress).stop.isSome = true := by
  induction rest generalizing progress with
  | nil => cases member
  | cons j rest ih =>
    rw [List.foldl_cons]
    rcases List.mem_cons.mp member with rfl | later
    · have stopped : (assign rt lib getCppTupleName spec (findQueryBO rt lib spec state) input.1
          input.2 progress i).stop.isSome = true := by
        obtain ⟨entered, issued, stop, result⟩ := stops
        rw [assign_effect spec rt lib getCppTupleName state input noAsIs, result]
        split_ifs with before
        · exact before
        · rfl
      rw [foldl_assign_stop spec rt lib getCppTupleName state input _ rest stopped]
      exact stopped
    · exact ih _ later

theorem process_settled
    (settled : ∀ i, (effect spec rt lib getCppTupleName state input i).Settled) :
    process rt lib getCppTupleName spec state input =
      ({ state with counter := state.counter + (List.finRange n).countP fun i =>
          (effect spec rt lib getCppTupleName state input i).isSuccess },
        (expected spec (effect spec rt lib getCppTupleName state input) state.counter
          (List.finRange n)).finish) := by
  have loop := foldl_assign_expected spec rt lib getCppTupleName state input noAsIs state.counter []
    (List.finRange n) fun i _ => settled i
  rw [List.nil_append] at loop
  have start : started spec state =
      expected spec (effect spec rt lib getCppTupleName state input) state.counter [] := rfl
  simp only [process, start, loop]
  rfl

end Process

section Answers

def Assignment.text {In : Type} : {t : SplType} → Assignment In op t → String → t.Value
  | _, .operation _, errorMsg => errorMsg
  | t, _, _ => t.cleared

variable (rt : SplRuntime) (lib : DriverLibrary) (getCppTupleName : Nat → String)

def executes (port : Nat) (i : Fin n) : Bool :=
  (spec.assignment i).operation?.any fun call =>
    admits (call.guard getCppTupleName spec.numberOfInputPorts) port

variable (state : State) (input : Arrival Ext Tup × (Fin n → Driver))

def answer (i : Fin n) : Option (DriverCall × String) :=
  (spec.assignment i).operation?.bind fun call =>
    if admits (call.guard getCppTupleName spec.numberOfInputPorts) input.1.port then
      match call.driverCall rt lib (findQueryBO rt lib spec state) input.1 with
      | .error _ => none
      | .ok issued =>
          match (input.2 i).getLastError issued with
          | .error _ => none
          | .ok errorMsg => some (issued, errorMsg)
    else none

def Quiet : Prop :=
  ∀ i call, (spec.assignment i).operation? = some call →
    admits (call.guard getCppTupleName spec.numberOfInputPorts) input.1.port = true →
    ∃ issued errorMsg,
      call.driverCall rt lib (findQueryBO rt lib spec state) input.1 = .ok issued ∧
        (input.2 i).connection = .ok () ∧ (input.2 i).getLastError issued = .ok errorMsg

def Effect.ofAnswer {t : SplType} (text : String → t.Value) :
    Option (DriverCall × String) → Effect t
  | none => .skipped
  | some (issued, errorMsg) =>
      if errorMsg = "" then .succeeded issued else .failed issued (text errorMsg)

theorem effect_answer (noAsIs : NoAsIs spec)
    (quiet : Quiet spec rt lib getCppTupleName state input) (i : Fin n) :
    effect spec rt lib getCppTupleName state input i =
      .ofAnswer (spec.assignment i).text (answer spec rt lib getCppTupleName state input i) ∧
    (answer spec rt lib getCppTupleName state input i).isSome =
      executes spec getCppTupleName input.1.port i := by
  have notAsIs := noAsIs i
  have returns := quiet i
  unfold effect answer executes
  generalize spec.assignment i = assignment at notAsIs returns
  generalize spec.attributes i = t at assignment
  cases assignment with
  | unassigned => exact ⟨rfl, rfl⟩
  | asIs init => cases notAsIs
  | operation call =>
    simp only [Assignment.operation?, Option.bind_some, Option.any_some, Assignment.execute,
      Operation.execute]
    by_cases admitted : admits (call.guard getCppTupleName spec.numberOfInputPorts) input.1.port
    · obtain ⟨issued, errorMsg, built, connected, answered⟩ := returns call rfl admitted
      simp only [admitted, if_true, built, connected, answered]
      exact ⟨rfl, rfl⟩
    · simp only [admitted]
      exact ⟨rfl, rfl⟩

def reported (i : Fin n) : (spec.attributes i).Value :=
  match answer spec rt lib getCppTupleName state input i with
  | some (_, errorMsg) =>
      if errorMsg = "" then (spec.attributes i).cleared else (spec.assignment i).text errorMsg
  | none => (spec.attributes i).cleared

def failedAnswer (answer : Option (DriverCall × String)) : Bool := answer.any fun a => a.2 ≠ ""

def succeededAnswer (answer : Option (DriverCall × String)) : Bool := answer.any fun a => a.2 = ""

def successes : Nat :=
  (List.finRange n).countP fun i =>
    succeededAnswer (answer spec rt lib getCppTupleName state input i)

def accounted : Outcome spec where
  entered := (List.finRange n).filter (executes spec getCppTupleName input.1.port)
  calls := (List.finRange n).filterMap fun i =>
    (answer spec rt lib getCppTupleName state input i).map fun a => (i, a.1)
  submitted :=
    if (List.finRange n).any fun i =>
      failedAnswer (answer spec rt lib getCppTupleName state input i)
    then some (reported spec rt lib getCppTupleName state input) else none
  stop := none

section OfAnswer

variable {t : SplType} (text : String → t.Value) (a : Option (DriverCall × String))

theorem ofAnswer_settled : (Effect.ofAnswer text a).Settled := by
  unfold Effect.ofAnswer
  split
  · trivial
  · split_ifs <;> trivial

theorem ofAnswer_ran : (Effect.ofAnswer text a).ran = a.isSome := by
  unfold Effect.ofAnswer
  split
  · rfl
  · split_ifs <;> rfl

theorem ofAnswer_call : (Effect.ofAnswer text a).call = a.map Prod.fst := by
  unfold Effect.ofAnswer
  split
  · rfl
  · split_ifs <;> rfl

theorem ofAnswer_isSuccess : (Effect.ofAnswer text a).isSuccess = succeededAnswer a := by
  unfold Effect.ofAnswer
  split
  · rfl
  · split_ifs with silent <;> simp [Effect.isSuccess, succeededAnswer, silent]

theorem ofAnswer_isFailure : (Effect.ofAnswer text a).isFailure = failedAnswer a := by
  unfold Effect.ofAnswer
  split
  · rfl
  · split_ifs with silent <;> simp [Effect.isFailure, failedAnswer, silent]

end OfAnswer

theorem process_quiet (noAsIs : NoAsIs spec)
    (quiet : Quiet spec rt lib getCppTupleName state input) :
    process rt lib getCppTupleName spec state input =
      ({ state with counter := state.counter + successes spec rt lib getCppTupleName state input },
        accounted spec rt lib getCppTupleName state input) := by
  have answers := fun i => (effect_answer spec rt lib getCppTupleName state input noAsIs quiet i).1
  have ran := fun i => (effect_answer spec rt lib getCppTupleName state input noAsIs quiet i).2
  have settled : ∀ i, (effect spec rt lib getCppTupleName state input i).Settled := by
    intro i
    rw [answers i]
    exact ofAnswer_settled _ _
  rw [process_settled spec rt lib getCppTupleName state input noAsIs settled]
  have tuple : errorTuple spec (effect spec rt lib getCppTupleName state input) (List.finRange n) =
      reported spec rt lib getCppTupleName state input := by
    funext i
    simp only [errorTuple, List.mem_finRange, if_true, answers i, reported]
    cases answer spec rt lib getCppTupleName state input i with
    | none => rfl
    | some a =>
      simp only [Effect.ofAnswer]
      split_ifs <;> rfl
  simp only [expected, Progress.finish, accounted, successes, answers, ofAnswer_ran, ofAnswer_call,
    ofAnswer_isSuccess, ofAnswer_isFailure, ran, tuple, Option.map_map, Option.isNone_none,
    Bool.true_and]
  split_ifs <;> rfl

theorem construct_counter (external : Ext)
    (constructed : construct rt lib spec external = .ok state) : state.counter = 0 := by
  unfold construct at constructed
  obtain ⟨_, _, constructed⟩ := (Loops.bind_eq_ok _ _ _).mp constructed
  cases constructed
  rfl

end Answers

theorem writes_accounted (rt : SplRuntime) (lib : DriverLibrary) (getCppTupleName : Nat → String)
    (external : Ext) (initial : State) (constructed : construct rt lib spec external = .ok initial)
    (noAsIs : NoAsIs spec) (inputs : List (Arrival Ext Tup × (Fin n → Driver)))
    (quiet : ∀ input ∈ inputs, Quiet spec rt lib getCppTupleName initial input) :
    (Machine.run (process rt lib getCppTupleName spec) initial inputs).1.counter =
        (inputs.map (successes spec rt lib getCppTupleName initial)).sum ∧
      (Machine.run (process rt lib getCppTupleName spec) initial inputs).2 =
        inputs.map (accounted spec rt lib getCppTupleName initial) := by
  -- Only the counter changes, and neither the answers nor the guards look at it.
  have step : ∀ state input, state.findQueryBO = initial.findQueryBO →
      Quiet spec rt lib getCppTupleName initial input →
      process rt lib getCppTupleName spec state input =
        ({ state with counter :=
            state.counter + successes spec rt lib getCppTupleName initial input },
          accounted spec rt lib getCppTupleName initial input) := by
    rintro ⟨document, counter⟩ input same returns
    cases same
    exact process_quiet spec rt lib getCppTupleName _ input noAsIs returns
  have keeps : ∀ state input, state.findQueryBO = initial.findQueryBO →
      Quiet spec rt lib getCppTupleName initial input →
      (process rt lib getCppTupleName spec state input).1.findQueryBO = initial.findQueryBO := by
    intro state input same returns
    rw [step state input same returns]
    exact same
  constructor
  · have sum := Machine.run_sum (process rt lib getCppTupleName spec)
      (fun state => state.findQueryBO = initial.findQueryBO)
      (Quiet spec rt lib getCppTupleName initial) State.counter
      (successes spec rt lib getCppTupleName initial) keeps
      (fun state input same returns => by rw [step state input same returns]) initial inputs rfl
      quiet
    rw [sum, construct_counter spec rt lib initial external constructed, Nat.zero_add]
  · exact Machine.run_outputs (process rt lib getCppTupleName spec)
      (fun state => state.findQueryBO = initial.findQueryBO)
      (Quiet spec rt lib getCppTupleName initial) _ keeps
      (fun state input same returns => by rw [step state input same returns]) initial inputs rfl
      quiet

section Sample

theorem noFindQuery_none (Ext Tup : Type) (op : Operator) :
    op = .insert → (none : Option (FindParameter Ext Tup)) = none :=
  fun _ => rfl

theorem queryPortsExist_none (Ext Tup : Type) (numberOfInputPorts : Nat) :
    ∀ expr ∈ (none : Option (FindParameter Ext Tup)), ∀ port ∈ readPorts expr.fragments,
      port < numberOfInputPorts := by
  intro expr given
  cases given

def literal {In : Type} (text : String) : Expression In String where
  fragments := [.text text]
  eval _ := text

def insertSpec (documents : Fin 2 → String) : Specification Unit Unit .insert 2 where
  numberOfInputPorts := 1
  attributes _ := .prim .rstring
  assignment i := .operation (.insertDocument
    ⟨literal "streams", literal "sample", none, .asJson (literal (documents i))⟩)
  findQuery := none
  noFindQuery _ := rfl
  portsExist i call isCall port member := by
    cases isCall
    cases member
  queryPortsExist := nofun

def emptyDocuments : Fin 2 → String := fun _ => "{}"

def tupleName (port : Nat) : String := "iport$" ++ toString port

def sampleArrival : Arrival Unit Unit := ⟨(), (), 0⟩

def answering (errors : Fin 2 → String) : Arrival Unit Unit × (Fin 2 → Driver) :=
  (sampleArrival, fun i => ⟨.ok (), fun _ => .ok (errors i)⟩)

theorem answering_quiet (errors : Fin 2 → String) :
    Quiet (insertSpec emptyDocuments) SplRuntime.plain DriverLibrary.plain tupleName ⟨[], 0⟩
      (answering errors) := by
  intro i call isCall admitted
  cases isCall
  exact ⟨_, _, rfl, rfl, rfl⟩

def sampleInputs : List (Arrival Unit Unit × (Fin 2 → Driver)) :=
  [answering ![("" : String), "E11000 duplicate key"], answering fun _ => ""]

theorem writes_accounted_inserts :
    (Machine.run (process SplRuntime.plain DriverLibrary.plain tupleName
      (insertSpec emptyDocuments)) ⟨[], 0⟩ sampleInputs).1.counter = 3 ∧
    (Machine.run (process SplRuntime.plain DriverLibrary.plain tupleName
      (insertSpec emptyDocuments)) ⟨[], 0⟩ sampleInputs).2 =
      sampleInputs.map (accounted (insertSpec emptyDocuments) SplRuntime.plain
        DriverLibrary.plain tupleName ⟨[], 0⟩) := by
  have run := writes_accounted (insertSpec emptyDocuments) SplRuntime.plain DriverLibrary.plain
    tupleName () ⟨[], 0⟩ rfl (fun _ => rfl) sampleInputs
  have quiet : ∀ input ∈ sampleInputs, Quiet (insertSpec emptyDocuments) SplRuntime.plain
      DriverLibrary.plain tupleName ⟨[], 0⟩ input := by
    intro input member
    rcases List.mem_pair.mp member with rfl | rfl
    · exact answering_quiet _
    · exact answering_quiet _
  exact ⟨(run quiet).1.trans rfl, (run quiet).2⟩

end Sample

end StreamsMongo.Write
