import Mathlib.Algebra.BigOperators.Group.Finset.Piecewise
import Mathlib.Algebra.GroupWithZero.Nat
import Mathlib.Data.Fintype.Basic

set_option autoImplicit false

-- Threads that run one program, each on a state of its own, in any order of their steps.
namespace Threads

variable {K L I O : Type}

structure Step (L O : Type) where
  left : L
  emits : List O
  adds : Nat
  aborts : Bool

structure Program (L I O : Type) where
  idle : L → Bool
  call : L → I → L
  next : L → Step L O

structure World (K L I O : Type) where
  threads : K → L
  counter : Nat
  emitted : List (K × O)
  accepted : List (K × I)
  aborted : Bool

inductive Event (K I : Type) where
  | call (k : K) (i : I)
  | next (k : K)

variable [DecidableEq K]

-- A busy thread takes no call, and an idle one makes no step.
def step (program : Program L I O) (w : World K L I O) : Event K I → World K L I O
  | .call k i =>
      if w.aborted || !program.idle (w.threads k) then w
      else
        { w with
          threads := Function.update w.threads k (program.call (w.threads k) i)
          accepted := w.accepted ++ [(k, i)] }
  | .next k =>
      if w.aborted || program.idle (w.threads k) then w
      else
        let next := program.next (w.threads k)
        { w with
          threads := Function.update w.threads k next.left
          counter := w.counter + next.adds
          emitted := w.emitted ++ next.emits.map fun o => (k, o)
          aborted := next.aborts }

def run (program : Program L I O) (w : World K L I O) (schedule : List (Event K I)) :
    World K L I O :=
  schedule.foldl (step program) w

def start (l : L) : World K L I O where
  threads _ := l
  counter := 0
  emitted := []
  accepted := []
  aborted := false

def of {A : Type} (k : K) (log : List (K × A)) : List A :=
  log.filterMap fun entry => if entry.1 = k then some entry.2 else none

section Log

variable {A : Type} (k : K) (log : List (K × A))

theorem of_append (later : List (K × A)) : of k (log ++ later) = of k log ++ of k later :=
  List.filterMap_append

@[simp] theorem of_nil : of k ([] : List (K × A)) = [] := rfl

@[simp] theorem of_single (other : K) (a : A) :
    of k [(other, a)] = if other = k then [a] else [] := by
  by_cases same : other = k <;> simp [of, same]

@[simp] theorem of_own (as : List A) : of k (as.map fun a => (k, a)) = as := by
  induction as with
  | nil => rfl
  | cons a as ih => simp [of]

@[simp] theorem of_other (other : K) (different : other ≠ k) (as : List A) :
    of k (as.map fun a => (other, a)) = [] := by
  simp [of, different]

end Log

structure Local (program : Program L I O) (inv : L → List I → List O → Prop) : Prop where
  called : ∀ l is os i, inv l is os → program.idle l = true → inv (program.call l i) (is ++ [i]) os
  stepped : ∀ l is os, inv l is os → program.idle l = false →
    inv (program.next l).left is (os ++ (program.next l).emits)

namespace Local

variable {program : Program L I O} {inv : L → List I → List O → Prop}

def Holds (inv : L → List I → List O → Prop) (w : World K L I O) : Prop :=
  ∀ k, inv (w.threads k) (of k w.accepted) (of k w.emitted)

theorem step_holds (kept : Local program inv) (w : World K L I O) (holds : Holds inv w)
    (event : Event K I) : Holds inv (step program w event) := by
  intro j
  cases event with
  | call k i =>
    rw [step]
    split_ifs with refused
    · exact holds j
    rw [Bool.or_eq_true, Bool.not_eq_true', not_or, Bool.not_eq_false] at refused
    by_cases same : j = k
    · subst same
      simpa [of_append] using kept.called _ _ _ i (holds j) refused.2
    · simpa [same, of_append, Ne.symm same] using holds j
  | next k =>
    rw [step]
    split_ifs with refused
    · exact holds j
    rw [Bool.or_eq_true, not_or, Bool.not_eq_true, Bool.not_eq_true] at refused
    by_cases same : j = k
    · subst same
      simpa [of_append] using kept.stepped _ _ _ (holds j) refused.2
    · simpa [same, of_append, Ne.symm same] using holds j

end Local

/-- What a call amounts to is known in every state on the way, however its steps are spread. -/
structure Meaning (program : Program L I O) where
  inv : L → Prop
  answer : I → List O
  amount : I → Nat
  pending : L → List O
  due : L → Nat
  finished : ∀ l, inv l → program.idle l = true → pending l = [] ∧ due l = 0
  called : ∀ l i, inv l → program.idle l = true →
    inv (program.call l i) ∧ pending (program.call l i) = answer i ∧
      due (program.call l i) = amount i
  stepped : ∀ l, inv l → program.idle l = false →
    inv (program.next l).left ∧
      (program.next l).emits ++ pending (program.next l).left = pending l ∧
      (program.next l).adds + due (program.next l).left = due l

namespace Meaning

variable {program : Program L I O} (meaning : Meaning program)

def Pays (l : L) (is : List I) (os : List O) : Prop :=
  meaning.inv l ∧ os ++ meaning.pending l = is.flatMap meaning.answer

theorem pays : Local program meaning.Pays where
  called l is os i paid idle := by
    obtain ⟨nothing, _⟩ := meaning.finished l paid.1 idle
    obtain ⟨inv, pending, _⟩ := meaning.called l i paid.1 idle
    have before := paid.2
    rw [nothing, List.append_nil] at before
    refine ⟨inv, ?_⟩
    rw [pending, before, List.flatMap_append, List.flatMap_singleton]
  stepped l is os paid busy := by
    obtain ⟨inv, pending, _⟩ := meaning.stepped l paid.1 busy
    refine ⟨inv, ?_⟩
    rw [List.append_assoc, pending, paid.2]

variable [Fintype K]

structure Correct (w : World K L I O) : Prop where
  paid : Local.Holds meaning.Pays w
  counter : w.counter + ∑ k, meaning.due (w.threads k) =
    (w.accepted.map fun entry => meaning.amount entry.2).sum

theorem sum_due_update (threads : K → L) (k : K) (l : L) :
    ∑ j, meaning.due (Function.update threads k l j) + meaning.due (threads k) =
      ∑ j, meaning.due (threads j) + meaning.due l := by
  have updated : (fun j => meaning.due (Function.update threads k l j)) =
      Function.update (fun j => meaning.due (threads j)) k (meaning.due l) := by
    funext j
    exact Function.apply_update (fun _ => meaning.due) threads k l j
  rw [updated, Finset.sum_update_of_mem (Finset.mem_univ k),
    Finset.sum_eq_add_sum_sdiff_singleton_of_mem (Finset.mem_univ k) fun j =>
      meaning.due (threads j)]
  omega

theorem start_correct (l : L) (inv : meaning.inv l) (idle : program.idle l = true) :
    meaning.Correct (start l : World K L I O) := by
  obtain ⟨nothing, none⟩ := meaning.finished l inv idle
  refine ⟨fun k => ⟨inv, ?_⟩, ?_⟩
  · simp [start, nothing]
  · simp [start, none]

theorem step_correct (w : World K L I O) (correct : meaning.Correct w) (event : Event K I) :
    meaning.Correct (step program w event) := by
  refine ⟨meaning.pays.step_holds w correct.paid event, ?_⟩
  have before := correct.counter
  cases event with
  | call k i =>
    rw [step]
    split_ifs with refused
    · exact before
    rw [Bool.or_eq_true, Bool.not_eq_true', not_or, Bool.not_eq_false] at refused
    obtain ⟨_, none⟩ := meaning.finished _ (correct.paid k).1 refused.2
    obtain ⟨_, _, due⟩ := meaning.called _ i (correct.paid k).1 refused.2
    have sums := meaning.sum_due_update w.threads k (program.call (w.threads k) i)
    simp only [List.map_append, List.sum_append, List.map_cons, List.map_nil, List.sum_cons,
      List.sum_nil]
    omega
  | next k =>
    rw [step]
    split_ifs with refused
    · exact before
    rw [Bool.or_eq_true, not_or, Bool.not_eq_true, Bool.not_eq_true] at refused
    obtain ⟨_, _, due⟩ := meaning.stepped _ (correct.paid k).1 refused.2
    have sums := meaning.sum_due_update w.threads k (program.next (w.threads k)).left
    simp only
    omega

theorem run_correct (schedule : List (Event K I)) (w : World K L I O)
    (correct : meaning.Correct w) : meaning.Correct (run program w schedule) := by
  induction schedule generalizing w with
  | nil => exact correct
  | cons event rest ih => exact ih _ (meaning.step_correct w correct event)

theorem Correct.emitted (w : World K L I O) (correct : meaning.Correct w) (k : K) :
    of k w.emitted <+: (of k w.accepted).flatMap meaning.answer :=
  ⟨_, (correct.paid k).2⟩

theorem Correct.finished (w : World K L I O) (correct : meaning.Correct w) (k : K)
    (idle : program.idle (w.threads k) = true) :
    of k w.emitted = (of k w.accepted).flatMap meaning.answer := by
  obtain ⟨nothing, _⟩ := meaning.finished _ (correct.paid k).1 idle
  have emitted := (correct.paid k).2
  rwa [nothing, List.append_nil] at emitted

theorem Correct.counted (w : World K L I O) (correct : meaning.Correct w) :
    w.counter ≤ (w.accepted.map fun entry => meaning.amount entry.2).sum ∧
      ((∀ k, program.idle (w.threads k) = true) →
        w.counter = (w.accepted.map fun entry => meaning.amount entry.2).sum) := by
  refine ⟨Nat.le.intro correct.counter, fun idle => ?_⟩
  have counter := correct.counter
  have none := fun k => (meaning.finished _ (correct.paid k).1 (idle k)).2
  simpa [none] using counter

end Meaning

end Threads
