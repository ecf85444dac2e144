import StreamsMongo.Library.Loops

set_option autoImplicit false

-- A computation in a limited store against the same computation in an unlimited one.
namespace Limits

variable {E F A B C D X : Type} (raised : E → F) (full : F → Prop)

structure Keeps (fits : A → Prop) (related : A → B → Prop) (ideal : Except E A)
    (limited : Except F B) : Prop where
  returns : ∀ a, ideal = .ok a → fits a → ∃ b, limited = .ok b ∧ related a b
  overruns : ∀ a, ideal = .ok a → ¬ fits a → ∃ f, limited = .error f ∧ full f
  raises : ∀ e, ideal = .error e → ∃ f, limited = .error f ∧ (f = raised e ∨ full f)

variable {raised full} {fits : A → Prop} {related : A → B → Prop} {ideal : Except E A}
  {limited : Except F B}

theorem Keeps.ok (a : A) (b : B) (holds : fits a) (known : related a b) :
    Keeps raised full fits related (.ok a) (.ok b) where
  returns := by
    rintro _ ⟨⟩ _
    exact ⟨b, rfl, known⟩
  overruns := by
    rintro _ ⟨⟩ beyond
    exact absurd holds beyond
  raises := by rintro _ ⟨⟩

theorem Keeps.error (e : E) : Keeps raised full fits related (.error e) (.error (raised e)) where
  returns := by rintro _ ⟨⟩
  overruns := by rintro _ ⟨⟩
  raises := by
    rintro _ ⟨⟩
    exact ⟨raised e, rfl, .inl rfl⟩

theorem Keeps.eq_ok_iff {f : A → B} (keeps : Keeps raised full fits (fun a b => b = f a) ideal
    limited) (b : B) : limited = .ok b ↔ ∃ a, ideal = .ok a ∧ fits a ∧ b = f a := by
  constructor
  · intro returned
    cases made : ideal with
    | error e =>
      obtain ⟨_, stopped, _⟩ := keeps.raises e made
      cases returned.symm.trans stopped
    | ok a =>
      by_cases holds : fits a
      · obtain ⟨b', returned', known⟩ := keeps.returns a made holds
        cases returned.symm.trans returned'
        exact ⟨a, rfl, holds, known⟩
      · obtain ⟨_, stopped, _⟩ := keeps.overruns a made holds
        cases returned.symm.trans stopped
  · rintro ⟨a, made, holds, rfl⟩
    obtain ⟨_, returned, rfl⟩ := keeps.returns a made holds
    exact returned

theorem Keeps.stopped (keeps : Keeps raised full fits related ideal limited) (f : F)
    (ended : limited = .error f) : full f ∨ ∃ e, ideal = .error e ∧ f = raised e := by
  cases made : ideal with
  | error e =>
    obtain ⟨_, stopped, why⟩ := keeps.raises e made
    cases ended.symm.trans stopped
    exact why.symm.imp_right fun same => ⟨e, rfl, same⟩
  | ok a =>
    by_cases holds : fits a
    · obtain ⟨_, returned, _⟩ := keeps.returns a made holds
      cases ended.symm.trans returned
    · obtain ⟨_, stopped, beyond⟩ := keeps.overruns a made holds
      cases ended.symm.trans stopped
      exact .inl beyond

section Sequences

variable {fits' : C → Prop} {related' : C → D → Prop} {next : A → Except E C}
  {next' : B → Except F D}

-- What comes of the second computation takes at least the room of what came of the first.
theorem Keeps.bind (first : Keeps raised full fits related ideal limited)
    (second : ∀ a b, ideal = .ok a → fits a → related a b →
      Keeps raised full fits' related' (next a) (next' b))
    (grows : ∀ a c, ideal = .ok a → next a = .ok c → fits' c → fits a) :
    Keeps raised full fits' related' (ideal >>= next) (limited >>= next') := by
  cases made : ideal with
  | error e =>
    obtain ⟨f, stopped, why⟩ := first.raises e made
    rw [stopped]
    refine ⟨?_, ?_, ?_⟩
    · rintro _ ⟨⟩
    · rintro _ ⟨⟩
    · rintro _ ⟨⟩
      exact ⟨f, rfl, why⟩
  | ok a =>
    by_cases holds : fits a
    · obtain ⟨b, returned, known⟩ := first.returns a made holds
      rw [returned]
      exact second a b made holds known
    · obtain ⟨f, stopped, beyond⟩ := first.overruns a made holds
      rw [stopped]
      refine ⟨fun c later fitting => ?_, fun c _ _ => ⟨f, rfl, beyond⟩,
        fun e _ => ⟨f, rfl, .inr beyond⟩⟩
      exact absurd (grows a c made later fitting) holds

theorem Keeps.map {f : A → C} {g : B → D} (keeps : Keeps raised full fits related ideal limited)
    (same : ∀ a, fits' (f a) ↔ fits a) (carried : ∀ a b, related a b → related' (f a) (g b)) :
    Keeps raised full fits' related' (ideal >>= fun a => .ok (f a))
      (limited >>= fun b => .ok (g b)) :=
  keeps.bind (fun a b _ holds known => .ok _ _ ((same a).mpr holds) (carried a b known))
    fun a _ _ later fitting => (same a).mp (by cases later; exact fitting)

theorem Keeps.finish {related' : A → D → Prop} {next' : B → Except F D}
    (keeps : Keeps raised full fits related ideal limited)
    (finishes : ∀ a b, related a b → ∃ d, next' b = .ok d ∧ related' a d) :
    Keeps raised full fits related' ideal (limited >>= next') where
  returns a made holds := by
    obtain ⟨b, returned, known⟩ := keeps.returns a made holds
    rw [returned]
    exact finishes a b known
  overruns a made beyond := by
    obtain ⟨f, stopped, why⟩ := keeps.overruns a made beyond
    exact ⟨f, by rw [stopped]; rfl, why⟩
  raises e made := by
    obtain ⟨f, stopped, why⟩ := keeps.raises e made
    exact ⟨f, by rw [stopped]; rfl, why⟩

theorem foldlM_fits {round : A → X → Except E A}
    (grows : ∀ a x a', round a x = .ok a' → fits a' → fits a) (xs : List X) (a result : A)
    (returned : xs.foldlM round a = .ok result) (holds : fits result) : fits a := by
  induction xs generalizing a with
  | nil =>
    cases returned
    exact holds
  | cons x xs ih =>
    rw [List.foldlM_cons, Loops.bind_eq_ok] at returned
    obtain ⟨a', first, later⟩ := returned
    exact grows a x a' first (ih a' later)

theorem Keeps.foldlM {round : A → X → Except E A} {round' : B → X → Except F B}
    (xs : List X)
    (each : ∀ a b, ∀ x ∈ xs, fits a → related a b →
      Keeps raised full fits related (round a x) (round' b x))
    (grows : ∀ a x a', round a x = .ok a' → fits a' → fits a) (a : A) (b : B) (holds : fits a)
    (known : related a b) :
    Keeps raised full fits related (xs.foldlM round a) (xs.foldlM round' b) := by
  induction xs generalizing a b with
  | nil => exact .ok a b holds known
  | cons x xs ih =>
    rw [List.foldlM_cons, List.foldlM_cons]
    exact (each a b x List.mem_cons_self holds known).bind
      (fun a' b' _ holds' known' => ih (fun a b y member => each a b y (by simp [member])) a' b'
        holds' known')
      fun a' result _ later => foldlM_fits grows xs a' result later

end Sequences

end Limits
