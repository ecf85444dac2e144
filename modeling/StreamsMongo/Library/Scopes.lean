import Mathlib.Data.List.Basic

set_option autoImplicit false

namespace Scopes

-- Program text as far as its names go; the origin tells apart declarations of one name.
inductive Token (N O : Type) where
  | openBlock
  | closeBlock
  | declare (name : N) (origin : O)
  | use (name : N) (origin : O)

abbrev Block (N O : Type) := List (N × O)

section Text

variable {N O : Type}

def mention (uses : List (N × O)) : List (Token N O) := uses.map fun u => .use u.1 u.2

def block (text : List (Token N O)) : List (Token N O) := .openBlock :: (text ++ [.closeBlock])

end Text

section Declares

variable {N O : Type} (name : N)

def Declares (text : List (Token N O)) : Prop := ∃ origin, .declare name origin ∈ text

variable (text rest : List (Token N O)) (other : N) (origin : O)

@[simp] theorem declares_nil : ¬ Declares name ([] : List (Token N O)) := by
  rintro ⟨_, member⟩
  cases member

@[simp] theorem declares_append :
    Declares name (text ++ rest) ↔ Declares name text ∨ Declares name rest := by
  simp only [Declares, List.mem_append, exists_or]

@[simp] theorem declares_declare :
    Declares name (.declare other origin :: text) ↔ name = other ∨ Declares name text := by
  simp only [Declares, List.mem_cons, Token.declare.injEq, exists_or, exists_and_left,
    exists_eq, and_true]

@[simp] theorem declares_mention (uses : List (N × O)) : ¬ Declares name (mention uses) := by
  simp [Declares, mention]

@[simp] theorem declares_flatMap {A : Type} (made : A → List (Token N O)) (as : List A) :
    Declares name (as.flatMap made) ↔ ∃ a ∈ as, Declares name (made a) := by
  induction as with
  | nil => simp
  | cons a as ih => simp [ih]

@[simp] theorem declares_block : Declares name (block text) ↔ Declares name text := by
  simp [Declares, block]

end Declares

variable {N O : Type} [DecidableEq N]

-- The innermost block comes first.
def resolve (blocks : List (Block N O)) (name : N) : Option O := blocks.flatten.lookup name

def Resolved (blocks : List (Block N O)) (uses : List (N × O)) : Prop :=
  ∀ u ∈ uses, resolve blocks u.1 = some u.2

section Resolve

variable (blocks enclosing : List (Block N O)) (added block : Block N O) (name : N) (origin : O)
  (uses : List (N × O))

@[simp] theorem resolve_cons (other : N) :
    resolve (((name, origin) :: block) :: enclosing) other =
      if other = name then some origin else resolve (block :: enclosing) other := by
  by_cases same : other = name
  · simp [resolve, same]
  · have differs : (other == name) = false := by simpa using same
    simp [resolve, List.lookup_cons, differs, same]

@[simp] theorem resolve_nil : resolve (([] : Block N O) :: blocks) name = resolve blocks name := rfl

theorem resolve_added (absent : name ∉ added.map Prod.fst) :
    resolve ((added ++ block) :: enclosing) name = resolve (block :: enclosing) name := by
  have unlisted : added.lookup name = none := by
    rw [List.lookup_eq_none_iff]
    intro d member
    simpa using fun same : name = d.1 => absent (same ▸ List.mem_map_of_mem member)
  simp [resolve, List.lookup_append, unlisted]

@[simp] theorem resolved_nil : Resolved blocks ([] : List (N × O)) := by
  intro u member
  cases member

@[simp] theorem resolved_cons :
    Resolved blocks ((name, origin) :: uses) ↔
      resolve blocks name = some origin ∧ Resolved blocks uses := by
  simp [Resolved]

@[simp] theorem resolved_append (more : List (N × O)) :
    Resolved blocks (uses ++ more) ↔ Resolved blocks uses ∧ Resolved blocks more := by
  simp [Resolved, or_imp, forall_and]

theorem Resolved.of_subset (more : List (N × O)) (resolved : Resolved blocks more)
    (subset : ∀ u ∈ uses, u ∈ more) : Resolved blocks uses :=
  fun u member => resolved u (subset u member)

theorem Resolved.inside (resolved : Resolved blocks uses) :
    Resolved (([] : Block N O) :: blocks) uses :=
  resolved

theorem Resolved.past (resolved : Resolved (block :: enclosing) uses)
    (absent : ∀ u ∈ uses, u.1 ∉ added.map Prod.fst) :
    Resolved ((added ++ block) :: enclosing) uses := by
  intro u member
  rw [resolve_added enclosing added block u.1 (absent u member)]
  exact resolved u member

end Resolve

variable [DecidableEq O]

/-- Refuses a second declaration in one block and a name that resolves to another origin. -/
def step (blocks : List (Block N O)) : Token N O → Option (List (Block N O))
  | .openBlock => some ([] :: blocks)
  | .closeBlock => blocks.tail?
  | .declare name origin =>
      match blocks with
      | [] => none
      | block :: enclosing =>
          if name ∈ block.map Prod.fst then none
          else some (((name, origin) :: block) :: enclosing)
  | .use name origin => if resolve blocks name = some origin then some blocks else none

def check (blocks : List (Block N O)) (text : List (Token N O)) : Option (List (Block N O)) :=
  text.foldlM step blocks

section Check

variable (blocks enclosing : List (Block N O)) (inner : Block N O) (name : N) (origin : O)
  (text rest : List (Token N O)) (uses : List (N × O))

theorem check_append : check blocks (text ++ rest) = (check blocks text).bind fun blocks =>
    check blocks rest :=
  List.foldlM_append

theorem check_append_eq (reached : List (Block N O)) (checked : check blocks text = some reached) :
    check blocks (text ++ rest) = check reached rest := by
  rw [check_append, checked]
  rfl

theorem check_append_none (refused : check blocks text = none) :
    check blocks (text ++ rest) = none := by
  rw [check_append, refused]
  rfl

theorem check_declare (absent : name ∉ inner.map Prod.fst) :
    check (inner :: enclosing) (.declare name origin :: rest) =
      check (((name, origin) :: inner) :: enclosing) rest := by
  have entered : step (inner :: enclosing) (.declare name origin) =
      some (((name, origin) :: inner) :: enclosing) := if_neg absent
  rw [check, List.foldlM_cons, entered]
  rfl

theorem check_declare_twice (present : name ∈ inner.map Prod.fst) :
    check (inner :: enclosing) (.declare name origin :: rest) = none := by
  have refused : step (inner :: enclosing) (.declare name origin) = none := if_pos present
  rw [check, List.foldlM_cons, refused]
  rfl

theorem check_mention (resolved : Resolved blocks uses) :
    check blocks (mention uses) = some blocks := by
  induction uses with
  | nil => rfl
  | cons u uses ih =>
    have first : step blocks (.use u.1 u.2) = some blocks :=
      if_pos (resolved u List.mem_cons_self)
    have others : Resolved blocks uses := fun v later => resolved v (List.mem_cons_of_mem u later)
    rw [mention, List.map_cons, check, List.foldlM_cons, first]
    exact ih others

theorem check_mention_append (resolved : Resolved blocks uses) :
    check blocks (mention uses ++ rest) = check blocks rest :=
  check_append_eq blocks (mention uses) rest blocks (check_mention blocks uses resolved)

theorem check_block (checked : check ([] :: blocks) text = some (inner :: blocks)) :
    check blocks (block text) = some blocks := by
  rw [block, ← List.singleton_append, check_append_eq blocks [.openBlock] _ ([] :: blocks) rfl,
    check_append_eq ([] :: blocks) text _ (inner :: blocks) checked]
  rfl

theorem check_block_append (checked : check ([] :: blocks) text = some (inner :: blocks)) :
    check blocks (block text ++ rest) = check blocks rest :=
  check_append_eq blocks (block text) rest blocks (check_block blocks inner text checked)

theorem step_unknown (token : Token N O) (reached : List (Block N O))
    (unknown : resolve blocks name = none) (undeclared : ∀ origin, token ≠ .declare name origin)
    (taken : step blocks token = some reached) : resolve reached name = none := by
  cases token with
  | openBlock =>
    cases taken
    exact unknown
  | closeBlock =>
    cases blocks with
    | nil => cases taken
    | cons block enclosing =>
      cases taken
      rw [resolve, List.flatten_cons, List.lookup_append, Option.or_eq_none_iff] at unknown
      exact unknown.2
  | declare other origin =>
    cases blocks with
    | nil => cases taken
    | cons block enclosing =>
      obtain ⟨_, same⟩ := Option.ite_none_left_eq_some.mp taken
      cases same
      have apart : name ≠ other := fun same => undeclared origin (same ▸ rfl)
      rw [resolve_cons, if_neg apart]
      exact unknown
  | use other origin =>
    obtain ⟨_, same⟩ := Option.ite_none_right_eq_some.mp taken
    cases same
    exact unknown

theorem check_undeclared (unknown : resolve blocks name = none) (undeclared : ¬ Declares name text)
    (used : .use name origin ∈ text) : check blocks text = none := by
  induction text generalizing blocks with
  | nil => cases used
  | cons token text ih =>
    rw [check, List.foldlM_cons]
    cases taken : step blocks token with
    | none => rfl
    | some reached =>
      have other : ∀ origin, token ≠ .declare name origin :=
        fun origin same => undeclared ⟨origin, same ▸ List.mem_cons_self⟩
      have later : ¬ Declares name text :=
        fun ⟨origin, member⟩ => undeclared ⟨origin, List.mem_cons_of_mem token member⟩
      rcases List.mem_cons.mp used with rfl | used
      · rw [step, unknown] at taken
        cases taken
      · exact ih reached (step_unknown blocks name token reached unknown other taken) later used

end Check

end Scopes
