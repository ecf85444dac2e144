import Mathlib.Algebra.GroupWithZero.Nat
import Mathlib.Data.List.Basic

set_option autoImplicit false

-- Runs of a machine that takes one input a step and answers it with one output.
namespace Machine

variable {S I O : Type}

def run (step : S → I → S × O) : S → List I → S × List O
  | s, [] => (s, [])
  | s, i :: rest =>
      let next := step s i
      let later := run step next.1 rest
      (later.1, next.2 :: later.2)

def Along (step : S → I → S × O) (holds : S → I → Prop) : S → List I → Prop
  | _, [] => True
  | s, i :: rest => holds s i ∧ Along step holds (step s i).1 rest

variable (step : S → I → S × O)

theorem run_invariant (inv : S → Prop) (allowed : S → I → Prop)
    (keeps : ∀ s i, inv s → allowed s i → inv (step s i).1) (s : S) (inputs : List I)
    (start : inv s) (meets : Along step allowed s inputs) : inv (run step s inputs).1 := by
  induction inputs generalizing s with
  | nil => exact start
  | cons i rest ih => exact ih _ (keeps s i start meets.1) meets.2

theorem along_of_forall (holds : S → I → Prop) (s : S) (inputs : List I)
    (each : ∀ s, ∀ i ∈ inputs, holds s i) : Along step holds s inputs := by
  induction inputs generalizing s with
  | nil => trivial
  | cons i rest ih => exact ⟨each s i (by simp), ih _ fun s j later => each s j (by simp [later])⟩

theorem reachable_invariant (inv : S → Prop) (keeps : ∀ s i, inv s → inv (step s i).1) (s : S)
    (inputs : List I) (start : inv s) : inv (run step s inputs).1 :=
  run_invariant step inv (fun _ _ => True) (fun s i holds _ => keeps s i holds) s inputs start
    (along_of_forall step _ s inputs fun _ _ _ => trivial)

theorem along_mono (holds implied : S → I → Prop) (implies : ∀ s i, holds s i → implied s i)
    (s : S) (inputs : List I) (meets : Along step holds s inputs) :
    Along step implied s inputs := by
  induction inputs generalizing s with
  | nil => trivial
  | cons i rest ih => exact ⟨implies s i meets.1, ih _ meets.2⟩

theorem along_congr (inv : S → Prop) (keeps : ∀ s i, inv s → inv (step s i).1)
    (holds holds' : S → I → Prop) (same : ∀ s i, inv s → (holds s i ↔ holds' s i)) (s : S)
    (inputs : List I) (start : inv s) : Along step holds s inputs ↔ Along step holds' s inputs := by
  induction inputs generalizing s with
  | nil => exact Iff.rfl
  | cons i rest ih => exact and_congr (same s i start) (ih _ (keeps s i start))

def count (counts : S → I → Bool) : S → List I → Nat
  | _, [] => 0
  | s, i :: rest => (if counts s i then 1 else 0) + count counts (step s i).1 rest

theorem run_count (counts : S → I → Bool) (measure : S → Nat) (s : S) (inputs : List I)
    (each : Along step
      (fun s i => measure (step s i).1 = measure s + if counts s i then 1 else 0) s inputs) :
    measure (run step s inputs).1 = measure s + count step counts s inputs := by
  induction inputs generalizing s with
  | nil => rfl
  | cons i rest ih =>
    have later := ih _ each.2
    rw [each.1] at later
    rw [run, count, later, Nat.add_assoc]

theorem run_outputs (inv : S → Prop) (allowed : I → Prop) (answer : I → O)
    (keeps : ∀ s i, inv s → allowed i → inv (step s i).1)
    (answers : ∀ s i, inv s → allowed i → (step s i).2 = answer i) (s : S) (inputs : List I)
    (start : inv s) (each : ∀ i ∈ inputs, allowed i) :
    (run step s inputs).2 = inputs.map answer := by
  induction inputs generalizing s with
  | nil => rfl
  | cons i rest ih =>
    have here := each i (by simp)
    rw [run, List.map_cons, ← answers s i start here,
      ih _ (keeps s i start here) fun j later => each j (by simp [later])]

theorem run_sum (inv : S → Prop) (allowed : I → Prop) (measure : S → Nat) (amount : I → Nat)
    (keeps : ∀ s i, inv s → allowed i → inv (step s i).1)
    (adds : ∀ s i, inv s → allowed i → measure (step s i).1 = measure s + amount i) (s : S)
    (inputs : List I) (start : inv s) (each : ∀ i ∈ inputs, allowed i) :
    measure (run step s inputs).1 = measure s + (inputs.map amount).sum := by
  induction inputs generalizing s with
  | nil => rfl
  | cons i rest ih =>
    have here := each i (by simp)
    rw [run, ih _ (keeps s i start here) fun j later => each j (by simp [later]),
      adds s i start here, List.map_cons, List.sum_cons, Nat.add_assoc]

theorem run_related (inv : S → Prop) (related : I → O → Prop) (measure : S → Nat)
    (amount : I → O → Nat) (keeps : ∀ s i, inv s → inv (step s i).1)
    (relates : ∀ s i, inv s → related i (step s i).2)
    (adds : ∀ s i, inv s → measure (step s i).1 = measure s + amount i (step s i).2) (s : S)
    (inputs : List I) (start : inv s) :
    List.Forall₂ related inputs (run step s inputs).2 ∧
      measure (run step s inputs).1 =
        measure s + (List.zipWith amount inputs (run step s inputs).2).sum := by
  induction inputs generalizing s with
  | nil => exact ⟨.nil, rfl⟩
  | cons i rest ih =>
    obtain ⟨later, sum⟩ := ih _ (keeps s i start)
    refine ⟨.cons (relates s i start) later, ?_⟩
    rw [run, sum, adds s i start, List.zipWith_cons_cons, List.sum_cons, Nat.add_assoc]

end Machine
