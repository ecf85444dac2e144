import Mathlib.Data.List.Basic

set_option autoImplicit false

namespace Lenses

-- A part of a memory; the laws say that it holds what was written to it last.
structure Lens (M A : Type) where
  get : M → A
  put : M → A → M
  get_put : ∀ m a, get (put m a) = a
  put_get : ∀ m, put m (get m) = m
  put_put : ∀ m a b, put (put m a) b = put m b

attribute [simp] Lens.get_put Lens.put_get Lens.put_put

namespace Lens

variable {M A B C : Type}

def whole : Lens M M where
  get m := m
  put _ m := m
  get_put _ _ := rfl
  put_get _ := rfl
  put_put _ _ _ := rfl

def first : Lens (A × B) A where
  get m := m.1
  put m a := (a, m.2)
  get_put _ _ := rfl
  put_get _ := rfl
  put_put _ _ _ := rfl

def second : Lens (A × B) B where
  get m := m.2
  put m b := (m.1, b)
  get_put _ _ := rfl
  put_get _ := rfl
  put_put _ _ _ := rfl

def comp (outer : Lens M A) (inner : Lens A B) : Lens M B where
  get m := inner.get (outer.get m)
  put m b := outer.put m (inner.put (outer.get m) b)
  get_put m b := by simp
  put_get m := by simp
  put_put m a b := by simp

section Read

variable (outer : Lens M A) (inner : Lens A B) (m : M) (b : B) (pair : A × B) (a : A)

@[simp] theorem first_get : first.get pair = pair.1 := rfl

@[simp] theorem first_put : first.put pair a = (a, pair.2) := rfl

@[simp] theorem second_get : second.get pair = pair.2 := rfl

@[simp] theorem second_put : second.put pair b = (pair.1, b) := rfl

@[simp] theorem comp_get : (outer.comp inner).get m = inner.get (outer.get m) := rfl

@[simp] theorem comp_put :
    (outer.comp inner).put m b = outer.put m (inner.put (outer.get m) b) := rfl

@[simp] theorem comp_whole : outer.comp whole = outer := rfl

end Read

theorem put_first_second (pair : Lens M (A × B)) (m : M) (a : A) (f : B → B) :
    (pair.comp second).put ((pair.comp first).put m a)
        (f ((pair.comp second).get ((pair.comp first).put m a))) =
      pair.put m (a, f (pair.get m).2) := by
  simp

/-- Parts without overlap: writes to them may be exchanged. -/
def Apart (one : Lens M A) (other : Lens M B) : Prop :=
  ∀ m a b, one.put (other.put m b) a = other.put (one.put m a) b

section Apart

variable {one : Lens M A} {other : Lens M B}

theorem Apart.symm (apart : one.Apart other) : other.Apart one :=
  fun m b a => (apart m a b).symm

theorem Apart.get_put_other (apart : one.Apart other) (m : M) (b : B) :
    one.get (other.put m b) = one.get m := by
  have rewritten : one.put (other.put m b) (one.get m) = other.put m b := by
    rw [apart, put_get]
  rw [← rewritten, get_put]

theorem Apart.comp (apart : one.Apart other) (inner : Lens A C) :
    (one.comp inner).Apart other := by
  intro m c b
  simp only [comp_put, apart.get_put_other]
  exact apart m _ b

theorem first_apart_second : (first : Lens (A × B) A).Apart second := fun _ _ _ => rfl

end Apart

theorem foldlM_put (part : Lens M A) (step : A → B → A) (round : M → B → Option M)
    (rounds : ∀ m b, round m b = some (part.put m (step (part.get m) b))) (bs : List B) (m : M) :
    bs.foldlM round m = some (part.put m (bs.foldl step (part.get m))) := by
  induction bs generalizing m with
  | nil => simp
  | cons b bs ih =>
    rw [List.foldlM_cons, rounds, Option.bind_eq_bind, Option.bind_some, ih]
    simp

end Lens

end Lenses
