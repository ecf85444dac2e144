import StreamsMongo.Operators.WriteRuns

set_option autoImplicit false

namespace StreamsMongo.Write

variable {Ext Tup : Type} {op : Operator} {n : Nat}

section Assignments

variable (rt : SplRuntime) (lib : DriverLibrary) (getCppTupleName : Nat → String)
  (spec : Specification Ext Tup op n) (query : Arrival Ext Tup → Except Raised BSONObj)
  (arrival : Arrival Ext Tup) (driver : Driver)

def Operation.Fails (call : Operation (Arrival Ext Tup) op) : Prop :=
  admits (call.guard getCppTupleName spec.numberOfInputPorts) arrival.port = true ∧
    ¬ ∃ issued, call.driverCall rt lib query arrival = .ok issued ∧
      driver.connection = .ok () ∧ driver.getLastError issued = .ok ""

def Assignment.Fails {t : SplType} (assignment : Assignment (Arrival Ext Tup) op t) : Prop :=
  ∃ call, assignment.operation? = some call ∧
    call.Fails rt lib getCppTupleName spec query arrival driver

def Assignment.Holds : {t : SplType} → Assignment (Arrival Ext Tup) op t → t.Value → Prop
  | _, .unassigned, _ => True
  | _, .asIs init, value => init arrival = .ok value
  | _, .operation call, value =>
      admits (call.guard getCppTupleName spec.numberOfInputPorts) arrival.port = true →
      ∀ issued errorMsg, call.driverCall rt lib query arrival = .ok issued →
        driver.getLastError issued = .ok errorMsg → errorMsg ≠ "" → value = errorMsg

def Effect.Explained {t : SplType} (isAsIs hasTuple : Bool) (fails : Prop)
    (holds : t.Value → Prop) : Effect t → Prop
  | .skipped | .succeeded _ => isAsIs = false ∧ ¬ fails ∧ ∀ value, holds value
  | .assigned value => isAsIs = true ∧ hasTuple = true ∧ ¬ fails ∧ holds value
  | .failed _ errorMsg => isAsIs = false ∧ fails ∧ holds errorMsg
  | .stopped _ _ (.raised _) => isAsIs = false ∧ fails ∨ isAsIs = true ∧ hasTuple = true
  | .stopped _ _ .nullDereference => isAsIs = true ∧ hasTuple = false

theorem operation_explained (call : Operation (Arrival Ext Tup) op) (hasTuple : Bool) :
    (call.execute rt lib getCppTupleName spec query arrival driver).Explained false hasTuple
      (call.Fails rt lib getCppTupleName spec query arrival driver)
      ((Assignment.operation call).Holds rt lib getCppTupleName spec query arrival driver) := by
  have path := call.execute_path spec rt lib getCppTupleName query arrival driver
  generalize call.execute rt lib getCppTupleName spec query arrival driver = effect at path
  have told (issued : DriverCall) (errorMsg : String)
      (built : call.driverCall rt lib query arrival = .ok issued)
      (answered : driver.getLastError issued = .ok errorMsg) (value : String)
      (same : errorMsg ≠ "" → value = errorMsg) :
      (Assignment.operation call).Holds rt lib getCppTupleName spec query arrival driver value := by
    intro _ other text built' answered' nonempty
    rw [built] at built'
    cases built'
    rw [answered] at answered'
    cases answered'
    exact same nonempty
  cases path with
  | rejected closed =>
    have shut := Bool.eq_false_iff.mp closed
    exact ⟨rfl, fun fails => shut fails.1, fun _ admitted => absurd admitted shut⟩
  | unbuilt e admitted raised => exact Or.inl ⟨rfl, admitted, by simp [raised]⟩
  | unconnected e admitted raised => exact Or.inl ⟨rfl, admitted, by simp [raised]⟩
  | unanswered issued e admitted built raised =>
    exact Or.inl ⟨rfl, admitted, by simp [built, raised]⟩
  | succeeded issued admitted built connected answered =>
    exact ⟨rfl, fun fails => fails.2 ⟨issued, built, connected, answered⟩,
      fun value => told issued "" built answered value fun nonempty => absurd rfl nonempty⟩
  | failed issued errorMsg admitted built answered nonempty =>
    exact ⟨rfl, ⟨admitted, by simp [built, answered, nonempty]⟩,
      told issued errorMsg built answered errorMsg fun _ => rfl⟩

theorem not_fails_of_none {t : SplType} (assignment : Assignment (Arrival Ext Tup) op t)
    (noCall : assignment.operation? = none) :
    ¬ assignment.Fails rt lib getCppTupleName spec query arrival driver := by
  intro fails
  obtain ⟨call, isCall, _⟩ := fails
  rw [noCall] at isCall
  cases isCall

theorem execute_explained (hasTuple : Bool) {t : SplType}
    (assignment : Assignment (Arrival Ext Tup) op t) :
    (assignment.execute rt lib getCppTupleName spec query arrival driver hasTuple).Explained
      assignment.isAsIs hasTuple
      (assignment.Fails rt lib getCppTupleName spec query arrival driver)
      (assignment.Holds rt lib getCppTupleName spec query arrival driver) := by
  have noCall := not_fails_of_none rt lib getCppTupleName spec query arrival driver assignment
  cases assignment with
  | unassigned => exact ⟨rfl, noCall rfl, fun _ => trivial⟩
  | asIs init =>
    cases hasTuple with
    | false => exact ⟨rfl, rfl⟩
    | true =>
      simp only [Assignment.execute, if_true]
      cases made : init arrival with
      | error e => exact Or.inr ⟨rfl, rfl⟩
      | ok value => exact ⟨rfl, rfl, noCall rfl, made⟩
  | operation call =>
    have same : (Assignment.operation call).Fails rt lib getCppTupleName spec query arrival driver =
        call.Fails rt lib getCppTupleName spec query arrival driver := by
      simp [Assignment.Fails, Assignment.operation?]
    rw [same]
    exact operation_explained rt lib getCppTupleName spec query arrival driver call hasTuple

end Assignments

variable (spec : Specification Ext Tup op n) (rt : SplRuntime) (lib : DriverLibrary)
  (getCppTupleName : Nat → String) (state : State) (input : Arrival Ext Tup × (Fin n → Driver))

def Fails (i : Fin n) : Prop :=
  (spec.assignment i).Fails rt lib getCppTupleName spec (findQueryBO rt lib spec state) input.1
    (input.2 i)

def Holds (i : Fin n) (value : (spec.attributes i).Value) : Prop :=
  (spec.assignment i).Holds rt lib getCppTupleName spec (findQueryBO rt lib spec state) input.1
    (input.2 i) value

structure AsIsRight (outcome : Outcome spec) : Prop where
  pointer : outcome.stop ≠ some .nullDereference
  submitted : ∀ otuple, outcome.submitted = some otuple →
    ∀ i, Holds spec rt lib getCppTupleName state input i (otuple i)

section Loop

/-- Every `AsIs` assignment comes after a failure, counting those `before` the list. -/
def Guarded : Prop → List (Fin n) → Prop
  | _, [] => True
  | before, i :: rest =>
      ((spec.assignment i).isAsIs = true → before) ∧
        Guarded (before ∨ Fails spec rt lib getCppTupleName state input i) rest

theorem guarded_of_failed (before : Prop) (failed : before) (rest : List (Fin n)) :
    Guarded spec rt lib getCppTupleName state input before rest := by
  induction rest generalizing before with
  | nil => trivial
  | cons i rest ih => exact ⟨fun _ => failed, ih _ (Or.inl failed)⟩

theorem guarded_iff (before : Prop) (rest : List (Fin n)) (sorted : rest.Pairwise (· < ·)) :
    Guarded spec rt lib getCppTupleName state input before rest ↔
      ∀ i ∈ rest, (spec.assignment i).isAsIs = true →
        before ∨ ∃ j ∈ rest, j < i ∧ Fails spec rt lib getCppTupleName state input j := by
  induction rest generalizing before with
  | nil => exact ⟨fun _ _ none => absurd none List.not_mem_nil, fun _ => trivial⟩
  | cons i rest ih =>
    obtain ⟨first, sorted⟩ := List.pairwise_cons.mp sorted
    rw [Guarded, ih _ sorted]
    constructor
    · intro guarded k member asIs
      rcases List.mem_cons.mp member with here | later
      · rw [here] at asIs
        exact Or.inl (guarded.1 asIs)
      · rcases guarded.2 k later asIs with (failed | fails) | ⟨j, among, less, fails⟩
        · exact Or.inl failed
        · exact Or.inr ⟨i, by simp, first k later, fails⟩
        · exact Or.inr ⟨j, by simp [among], less, fails⟩
    · intro each
      constructor
      · intro asIs
        rcases each i (by simp) asIs with failed | ⟨j, among, less, _⟩
        · exact failed
        · rcases List.mem_cons.mp among with here | later
          · exact absurd (here ▸ less) (lt_irrefl _)
          · exact absurd less (lt_asymm (first j later))
      · intro k later asIs
        rcases each k (by simp [later]) asIs with failed | ⟨j, among, less, fails⟩
        · exact Or.inl (Or.inl failed)
        · rcases List.mem_cons.mp among with here | among
          · exact Or.inl (Or.inr (here ▸ fails))
          · exact Or.inr ⟨j, among, less, fails⟩

theorem assign_running (progress : Progress spec) (running : progress.stop = none) (i : Fin n) :
    ∃ effect : Effect (spec.attributes i),
      assign rt lib getCppTupleName spec (findQueryBO rt lib spec state) input.1 input.2 progress
          i = progress.apply i effect ∧
        effect.Explained (spec.assignment i).isAsIs progress.otuplePtr.isSome
          (Fails spec rt lib getCppTupleName state input i)
          (Holds spec rt lib getCppTupleName state input i) := by
  refine ⟨_, ?_, execute_explained rt lib getCppTupleName spec _ input.1 (input.2 i) _ _⟩
  rw [assign, running]
  rfl

theorem guarded_next (before after : Prop) (i : Fin n) (rest : List (Fin n))
    (allowed : (spec.assignment i).isAsIs = true → before)
    (failed : after ↔ before ∨ Fails spec rt lib getCppTupleName state input i) :
    Guarded spec rt lib getCppTupleName state input before (i :: rest) ↔
      Guarded spec rt lib getCppTupleName state input after rest := by
  rw [Guarded, propext failed]
  exact and_iff_right allowed

theorem guarded_onward (before : Prop) (i : Fin n) (rest : List (Fin n))
    (allowed : (spec.assignment i).isAsIs = true → before)
    (failed : before ∨ Fails spec rt lib getCppTupleName state input i) :
    Guarded spec rt lib getCppTupleName state input before (i :: rest) :=
  ⟨allowed, guarded_of_failed spec rt lib getCppTupleName state input _ failed rest⟩

theorem foldl_dereference (rest : List (Fin n)) (progress : Progress spec)
    (running : progress.stop = none) :
    (rest.foldl (assign rt lib getCppTupleName spec (findQueryBO rt lib spec state) input.1 input.2)
        progress).stop = some .nullDereference ↔
      ¬ Guarded spec rt lib getCppTupleName state input (progress.otuplePtr.isSome = true)
        rest := by
  induction rest generalizing progress with
  | nil => simp [running, Guarded]
  | cons i rest ih =>
    obtain ⟨effect, next, explained⟩ := assign_running spec rt lib getCppTupleName state input
      progress running i
    rw [List.foldl_cons, next]
    -- While `process` goes on, the tuple exists exactly when an operation has failed.
    have goesOn (progress' : Progress spec) (running' : progress'.stop = none)
        (allowed : (spec.assignment i).isAsIs = true → progress.otuplePtr.isSome = true)
        (tuple : progress'.otuplePtr.isSome = true ↔
          progress.otuplePtr.isSome = true ∨ Fails spec rt lib getCppTupleName state input i) :=
      (ih progress' running').trans (not_congr
        (guarded_next spec rt lib getCppTupleName state input _ _ i rest allowed tuple).symm)
    cases effect with
    | skipped | succeeded call =>
      obtain ⟨notAsIs, succeeds, _⟩ := explained
      exact goesOn _ running (by simp [notAsIs]) (or_iff_left succeeds).symm
    | assigned value =>
      obtain ⟨_, hasTuple, _, _⟩ := explained
      refine goesOn _ running (fun _ => hasTuple) (iff_of_true ?_ (Or.inl hasTuple))
      rw [Progress.apply, Option.isSome_map, hasTuple]
    | failed call errorMsg =>
      obtain ⟨notAsIs, fails, _⟩ := explained
      exact goesOn _ running (by simp [notAsIs]) (iff_of_true rfl (Or.inr fails))
    | stopped entered issued stop =>
      rw [foldl_assign_stop spec rt lib getCppTupleName state input _ rest rfl]
      cases stop with
      | raised e =>
        refine iff_of_false (fun same => by cases same) (not_not.mpr ?_)
        rcases explained with ⟨notAsIs, fails⟩ | ⟨_, hasTuple⟩
        · exact guarded_onward spec rt lib getCppTupleName state input _ i rest
            (by simp [notAsIs]) (Or.inr fails)
        · exact guarded_onward spec rt lib getCppTupleName state input _ i rest
            (fun _ => hasTuple) (Or.inl hasTuple)
      | nullDereference =>
        obtain ⟨asIs, noTuple⟩ := explained
        refine iff_of_true rfl fun guarded => ?_
        exact absurd (noTuple.symm.trans (guarded.1 asIs)) Bool.false_ne_true

def Filled (progress : Progress spec) (done : List (Fin n)) : Prop :=
  ∀ base, ∀ i ∈ done,
    Holds spec rt lib getCppTupleName state input i (progress.otuplePtr.getD base i)

theorem filled_update (progress : Progress spec) (done : List (Fin n)) (i : Fin n)
    (fresh : i ∉ done) (filled : Filled spec rt lib getCppTupleName state input progress done)
    (base base' : (i : Fin n) → (spec.attributes i).Value) (value : (spec.attributes i).Value)
    (holds : Holds spec rt lib getCppTupleName state input i value) (k : Fin n)
    (member : k ∈ done ++ [i]) :
    Holds spec rt lib getCppTupleName state input k
      ((some (Function.update (progress.otuplePtr.getD base) i value)).getD base' k) := by
  rcases List.mem_append.mp member with before | here
  · have other : k ≠ i := fun same => fresh (same ▸ before)
    rw [Option.getD_some, Function.update_of_ne other]
    exact filled base k before
  · rw [List.mem_singleton.mp here, Option.getD_some, Function.update_self]
    exact holds

theorem filled_quiet (progress : Progress spec) (done : List (Fin n)) (i : Fin n)
    (filled : Filled spec rt lib getCppTupleName state input progress done)
    (holds : ∀ value, Holds spec rt lib getCppTupleName state input i value) :
    Filled spec rt lib getCppTupleName state input progress (done ++ [i]) := by
  intro base k member
  rcases List.mem_append.mp member with before | here
  · exact filled base k before
  · rw [List.mem_singleton.mp here]
    exact holds _

theorem foldl_filled (rest done : List (Fin n)) (distinct : (done ++ rest).Nodup)
    (progress : Progress spec) (running : progress.stop = none)
    (filled : Filled spec rt lib getCppTupleName state input progress done)
    (finished : (rest.foldl (assign rt lib getCppTupleName spec (findQueryBO rt lib spec state)
      input.1 input.2) progress).stop = none) :
    Filled spec rt lib getCppTupleName state input (rest.foldl (assign rt lib getCppTupleName spec
      (findQueryBO rt lib spec state) input.1 input.2) progress) (done ++ rest) := by
  induction rest generalizing progress done with
  | nil => rwa [List.append_nil]
  | cons i rest ih =>
    obtain ⟨effect, next, explained⟩ := assign_running spec rt lib getCppTupleName state input
      progress running i
    have fresh : i ∉ done := fun member =>
      (List.nodup_cons.mp (List.nodup_middle.mp distinct)).1 (List.mem_append_left rest member)
    rw [List.foldl_cons, next] at finished ⊢
    rw [List.append_cons] at distinct ⊢
    cases effect with
    | skipped | succeeded call =>
      have quiet := filled_quiet spec rt lib getCppTupleName state input progress done i filled
        explained.2.2
      exact ih (done ++ [i]) distinct _ running quiet finished
    | assigned value =>
      obtain ⟨_, hasTuple, _, holds⟩ := explained
      refine ih (done ++ [i]) distinct _ running (fun base k member => ?_) finished
      obtain ⟨otuple, given⟩ := Option.isSome_iff_exists.mp hasTuple
      have updated := filled_update spec rt lib getCppTupleName state input progress done i fresh
        filled otuple base value holds k member
      simpa only [Progress.apply, given, Option.map_some, Option.getD_some] using updated
    | failed call errorMsg =>
      obtain ⟨_, _, holds⟩ := explained
      exact ih (done ++ [i]) distinct _ running (fun base k member =>
        filled_update spec rt lib getCppTupleName state input progress done i fresh filled
          (clearedTuple spec) base errorMsg holds k member) finished
    | stopped entered issued stop =>
      rw [foldl_assign_stop spec rt lib getCppTupleName state input _ rest rfl] at finished
      cases finished

end Loop

theorem process_dereference :
    (process rt lib getCppTupleName spec state input).2.stop = some .nullDereference ↔
      ¬ ∀ i, (spec.assignment i).isAsIs = true →
        ∃ j < i, Fails spec rt lib getCppTupleName state input j := by
  have loop := foldl_dereference spec rt lib getCppTupleName state input (List.finRange n)
    (started spec state) rfl
  rw [guarded_iff spec rt lib getCppTupleName state input _ _ (List.pairwise_lt_finRange n)] at loop
  refine loop.trans (not_congr ?_)
  simp [started]

theorem process_filled (otuple : (i : Fin n) → (spec.attributes i).Value)
    (submitted : (process rt lib getCppTupleName spec state input).2.submitted = some otuple)
    (i : Fin n) : Holds spec rt lib getCppTupleName state input i (otuple i) := by
  simp only [process, Progress.finish] at submitted
  split_ifs at submitted with finished
  obtain ⟨running, _⟩ := Bool.and_eq_true_iff.mp finished
  have filled := foldl_filled spec rt lib getCppTupleName state input (List.finRange n) []
    (List.nodup_finRange n) (started spec state) rfl
    (fun _ _ none => absurd none List.not_mem_nil) (Option.isNone_iff_eq_none.mp running)
    otuple i (by simp)
  rwa [submitted, Option.getD_some] at filled

/-- An operation has to fail ahead of every `AsIs` attribute. -/
theorem as_is_right_iff :
    AsIsRight spec rt lib getCppTupleName state input
        (process rt lib getCppTupleName spec state input).2 ↔
      ∀ i, (spec.assignment i).isAsIs = true →
        ∃ j < i, Fails spec rt lib getCppTupleName state input j := by
  constructor
  · intro right
    by_contra unguarded
    exact right.pointer
      ((process_dereference spec rt lib getCppTupleName state input).mpr unguarded)
  · intro guarded
    refine ⟨fun dereferenced => ?_, process_filled spec rt lib getCppTupleName state input⟩
    exact (process_dereference spec rt lib getCppTupleName state input).mp dereferenced guarded

-- `AsIs("greeting")` stands first, and the insert after it succeeds.
def asIsFirst (numberOfInputPorts : Nat) : Specification Unit Unit .insert 2 where
  numberOfInputPorts := numberOfInputPorts
  attributes _ := .prim .rstring
  assignment i :=
    if i = 0 then .asIs fun _ => .ok ("greeting" : String)
    else .operation (.insertDocument
      ⟨literal "streams", literal "sample", none, .asJson (literal "{}")⟩)
  findQuery := none
  noFindQuery := noFindQuery_none Unit Unit .insert
  portsExist i call isCall port member := by
    by_cases first : i = 0
    · rw [if_pos first] at isCall
      cases isCall
    · rw [if_neg first] at isCall
      cases isCall
      cases member
  queryPortsExist := queryPortsExist_none Unit Unit numberOfInputPorts

theorem as_is_first_dereferences :
    (process SplRuntime.plain DriverLibrary.plain tupleName (asIsFirst 1) ⟨[], 0⟩
      (answering fun _ => "")).2.stop = some .nullDereference ∧
    ¬ AsIsRight (asIsFirst 1) SplRuntime.plain DriverLibrary.plain tupleName ⟨[], 0⟩
      (answering fun _ => "")
      (process SplRuntime.plain DriverLibrary.plain tupleName (asIsFirst 1) ⟨[], 0⟩
        (answering fun _ => "")).2 :=
  ⟨rfl, fun right => right.pointer rfl⟩

end StreamsMongo.Write
