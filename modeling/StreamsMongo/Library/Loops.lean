import Mathlib.Data.List.Forall2

set_option autoImplicit false

-- Loops that may raise: what a run that returns has done, and when a run raises.
namespace Loops

variable {E A B C S : Type}

@[simp] theorem bind_eq_ok (computation : Except E A) (next : A → Except E B) (result : B) :
    computation >>= next = .ok result ↔ ∃ a, computation = .ok a ∧ next a = .ok result := by
  cases computation with
  | error e =>
    constructor
    · intro returned
      cases returned
    · rintro ⟨a, returned, _⟩
      cases returned
  | ok a =>
    constructor
    · intro returned
      exact ⟨a, rfl, returned⟩
    · rintro ⟨b, same, returned⟩
      cases same
      exact returned

@[simp] theorem pure_eq_ok (value result : A) :
    (pure value : Except E A) = .ok result ↔ value = result :=
  ⟨fun same => Except.ok.inj same, congrArg Except.ok⟩

theorem bind_returns_iff {clean : Prop} (computation : Except E A) (next : A → Except E B)
    (rest : ∀ a, (∃ b, next a = .ok b) ↔ clean) :
    (∃ b, computation >>= next = .ok b) ↔ (∃ a, computation = .ok a) ∧ clean := by
  simp only [bind_eq_ok]
  constructor
  · intro returned
    obtain ⟨b, a, first, second⟩ := returned
    exact ⟨⟨a, first⟩, (rest a).mp ⟨b, second⟩⟩
  · intro both
    obtain ⟨⟨a, first⟩, holds⟩ := both
    obtain ⟨b, second⟩ := (rest a).mpr holds
    exact ⟨b, a, first, second⟩

theorem bind_total_returns_iff (computation : Except E A) (next : A → Except E B)
    (total : ∀ a, ∃ b, next a = .ok b) :
    (∃ b, computation >>= next = .ok b) ↔ ∃ a, computation = .ok a :=
  (bind_returns_iff computation next fun a => iff_true_intro (total a)).trans
    (iff_of_eq (and_true _))

theorem foldlM_concat_eq_ok (produce : A → Except E B) (xs : List A) (init result : List B) :
    xs.foldlM (fun acc x => do return acc ++ [← produce x]) init = .ok result ↔
      ∃ added, List.Forall₂ (fun x y => produce x = .ok y) xs added ∧ result = init ++ added := by
  induction xs generalizing init with
  | nil =>
    simp only [List.foldlM_nil, pure_eq_ok, List.forall₂_nil_left_iff, exists_eq_left,
      List.append_nil]
    exact eq_comm
  | cons x xs ih =>
    simp only [List.foldlM_cons, bind_eq_ok, pure_eq_ok, ih]
    constructor
    · rintro ⟨_, ⟨y, produced, rfl⟩, added, rounds, rfl⟩
      exact ⟨y :: added, .cons produced rounds, by simp⟩
    · rintro ⟨added, rounds, rfl⟩
      cases rounds with
      | cons produced rest => exact ⟨_, ⟨_, produced, rfl⟩, _, rest, by simp⟩

theorem foldlM_keeps {P : S → Prop} {round : S → A → Except E S}
    (keeps : ∀ s x s', round s x = .ok s' → P s → P s') (xs : List A) (s result : S)
    (returned : xs.foldlM round s = .ok result) (holds : P s) : P result := by
  induction xs generalizing s with
  | nil =>
    cases returned
    exact holds
  | cons x xs ih =>
    rw [List.foldlM_cons, bind_eq_ok] at returned
    obtain ⟨s', first, later⟩ := returned
    exact ih s' later (keeps s x s' first holds)

structure Settles (clean : Prop) (e : E) (computation : Except E A) : Prop where
  returns : clean → ∃ a, computation = .ok a
  raises : ¬ clean → computation = .error e

theorem Settles.returns_iff {clean : Prop} {e : E} {computation : Except E A}
    (settles : Settles clean e computation) : (∃ a, computation = .ok a) ↔ clean := by
  constructor
  · rintro ⟨a, returned⟩
    by_contra unclean
    cases returned.symm.trans (settles.raises unclean)
  · exact settles.returns

theorem Settles.ok (e : E) (value : A) : Settles True e (.ok value) where
  returns _ := ⟨value, rfl⟩
  raises unclean := absurd trivial unclean

theorem Settles.bind {clean next : Prop} {e : E} {computation : Except E A}
    {continuation : A → Except E B} (first : Settles clean e computation)
    (second : ∀ a, Settles next e (continuation a)) :
    Settles (clean ∧ next) e (computation >>= continuation) where
  returns both := by
    obtain ⟨a, returned⟩ := first.returns both.1
    rw [returned]
    exact (second a).returns both.2
  raises either := by
    by_cases here : clean
    · obtain ⟨a, returned⟩ := first.returns here
      rw [returned]
      exact (second a).raises fun later => either ⟨here, later⟩
    · rw [first.raises here]
      rfl

theorem Settles.congr {clean clean' : Prop} {e : E} {computation : Except E A}
    (settles : Settles clean e computation) (same : clean ↔ clean') :
    Settles clean' e computation where
  returns holds := settles.returns (same.mpr holds)
  raises fails := settles.raises fun holds => fails (same.mp holds)

theorem Settles.foldlM {round : S → A → Except E S} {clean : A → Prop} {e : E} (xs : List A)
    (each : ∀ s, ∀ x ∈ xs, Settles (clean x) e (round s x)) (s : S) :
    Settles (∀ x ∈ xs, clean x) e (xs.foldlM round s) := by
  induction xs generalizing s with
  | nil => exact (Settles.ok e s).congr (by simp)
  | cons x xs ih =>
    rw [List.foldlM_cons]
    have later := fun s' => ih (fun s y member => each s y (by simp [member])) s'
    exact ((each s x (by simp)).bind later).congr (by simp)

theorem filterMap_forall₂ (related : A → B → Prop) (f : A → Option C) (g : B → Option C)
    (agree : ∀ x y, related x y → g y = f x) (xs : List A) (ys : List B)
    (rounds : List.Forall₂ related xs ys) : ys.filterMap g = xs.filterMap f := by
  induction rounds with
  | nil => rfl
  | cons head _ ih => rw [List.filterMap_cons, List.filterMap_cons, agree _ _ head, ih]

theorem forall₂_mem_right (related : A → B → Prop) (xs : List A) (ys : List B)
    (rounds : List.Forall₂ related xs ys) (y : B) (member : y ∈ ys) :
    ∃ x ∈ xs, related x y := by
  induction rounds with
  | nil => cases member
  | @cons x y' _ _ head _ ih =>
    rcases List.mem_cons.mp member with rfl | later
    · exact ⟨x, List.mem_cons_self, head⟩
    · obtain ⟨x', before, holds⟩ := ih later
      exact ⟨x', List.mem_cons_of_mem x before, holds⟩

theorem forall₂_of_exists (related : A → B → Prop) (xs : List A)
    (each : ∀ x ∈ xs, ∃ y, related x y) : ∃ ys, List.Forall₂ related xs ys := by
  induction xs with
  | nil => exact ⟨[], .nil⟩
  | cons x xs ih =>
    obtain ⟨y, holds⟩ := each x List.mem_cons_self
    obtain ⟨ys, rest⟩ := ih fun x' later => each x' (List.mem_cons_of_mem x later)
    exact ⟨y :: ys, .cons holds rest⟩

end Loops
