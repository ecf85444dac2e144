import Mathlib.Data.Finmap
import Mathlib.Data.Finset.Union

set_option autoImplicit false

-- Partial maps over lists, finite sets and finite maps, and the loops that build them.
namespace FiniteData

variable {A B K : Type}

theorem filterMap_idempotent_iff (f : A → Option A)
    (idempotent : ∀ a b, f a = some b → f b = some b)
    (xs : List A) : xs.filterMap f = xs ↔ ∀ x ∈ xs, f x = some x := by
  constructor
  · intro fixed x member
    rw [← fixed] at member
    obtain ⟨a, _, image⟩ := List.mem_filterMap.mp member
    exact idempotent a x image
  · intro each
    induction xs with
    | nil => rfl
    | cons x xs ih =>
      rw [List.filterMap_cons, each x (by simp)]
      simp [ih fun y member => each y (by simp [member])]

theorem filterMap_filterMap (f : A → Option A) (idempotent : ∀ a b, f a = some b → f b = some b)
    (xs : List A) : (xs.filterMap f).filterMap f = xs.filterMap f := by
  rw [filterMap_idempotent_iff f idempotent]
  intro b member
  obtain ⟨a, _, image⟩ := List.mem_filterMap.mp member
  exact idempotent a b image

theorem map_filter_eq_iff (f : A → B) (p q : A → Bool) (implies : ∀ x, q x = true → p x = true)
    (xs : List A) :
    (xs.filter q).map f = (xs.filter p).map f ↔ ∀ x ∈ xs, p x = true → q x = true := by
  constructor
  · intro same x member holds
    have lengths := congrArg List.length same
    rw [List.length_map, List.length_map] at lengths
    have equal := (List.monotone_filter_right xs implies).eq_of_length lengths
    have kept : x ∈ xs.filter q := by
      rw [equal]
      exact List.mem_filter.mpr ⟨member, holds⟩
    exact (List.mem_filter.mp kept).2
  · intro each
    have equal : xs.filter q = xs.filter p := by
      apply List.filter_congr
      intro x member
      exact Bool.eq_iff_iff.mpr ⟨implies x, each x member⟩
    rw [equal]

section Sets

variable [DecidableEq B]

def imageSome (f : A → Option B) (s : Finset A) : Finset B := (s.val.filterMap f).toFinset

@[simp] theorem mem_imageSome (f : A → Option B) (s : Finset A) (b : B) :
    b ∈ imageSome f s ↔ ∃ a ∈ s, f a = some b := by
  simp [imageSome]

theorem imageSome_coe (f : A → Option B) (s : Finset A) (xs : List A)
    (order : (xs : Multiset A) = s.val) : imageSome f s = (xs.filterMap f).toFinset := by
  simp [imageSome, ← order]

theorem foldl_insert (xs : List B) (s : Finset B) :
    xs.foldl (fun s b => insert b s) s = xs.toFinset ∪ s := by
  induction xs generalizing s with
  | nil => simp
  | cons x xs ih =>
    rw [List.foldl_cons, ih]
    ext b
    simp only [Finset.mem_union, Finset.mem_insert, List.mem_toFinset, List.mem_cons]
    tauto

end Sets

theorem imageSome_idempotent_iff [DecidableEq A] (f : A → Option A)
    (idempotent : ∀ a b, f a = some b → f b = some b) (s : Finset A) :
    imageSome f s = s ↔ ∀ x ∈ s, f x = some x := by
  constructor
  · intro fixed x member
    rw [← fixed, mem_imageSome] at member
    obtain ⟨a, _, image⟩ := member
    exact idempotent a x image
  · intro each
    ext b
    rw [mem_imageSome]
    constructor
    · rintro ⟨a, member, image⟩
      rw [each a member] at image
      cases image
      exact member
    · intro member
      exact ⟨b, member, each b member⟩

theorem imageSome_imageSome [DecidableEq A] (f : A → Option A)
    (idempotent : ∀ a b, f a = some b → f b = some b) (s : Finset A) :
    imageSome f (imageSome f s) = imageSome f s := by
  rw [imageSome_idempotent_iff f idempotent]
  intro b member
  obtain ⟨a, _, image⟩ := (mem_imageSome f s b).mp member
  exact idempotent a b image

section Maps

theorem card_entries_pos (m : Finmap fun _ : K => A) (key : K) (member : key ∈ m) :
    0 < m.entries.card := by
  rw [Multiset.card_pos]
  intro empty
  have found : key ∈ m.entries.map Sigma.fst := member
  simp [empty] at found

theorem keys_filterMap_sublist (f : A → Option B) (entries : List (Σ _ : K, A)) :
    ((entries.filterMap fun e => (f e.2).map (@Sigma.mk K (fun _ => B) e.1)).map Sigma.fst).Sublist
      (entries.map Sigma.fst) := by
  induction entries with
  | nil => simp
  | cons e rest ih =>
    cases image : f e.2 with
    | none => simpa [List.filterMap_cons, image] using ih.cons e.1
    | some b => simpa [List.filterMap_cons, image] using ih.cons_cons e.1

def valuesSome (f : A → Option B) (m : Finmap fun _ : K => A) : Finmap fun _ : K => B where
  entries := m.entries.filterMap fun e => (f e.2).map (@Sigma.mk K (fun _ => B) e.1)
  nodupKeys := by
    obtain ⟨⟨entries⟩, distinct⟩ := m
    exact List.Nodup.sublist (keys_filterMap_sublist f entries) distinct

theorem mem_entries_valuesSome (f : A → Option B) (m : Finmap fun _ : K => A) (key : K) (b : B) :
    (⟨key, b⟩ : Σ _ : K, B) ∈ (valuesSome f m).entries ↔
      ∃ a, (⟨key, a⟩ : Σ _ : K, A) ∈ m.entries ∧ f a = some b := by
  simp only [valuesSome, Multiset.mem_filterMap, Option.map_eq_some_iff]
  constructor
  · rintro ⟨⟨key', a⟩, member, b', image, same⟩
    cases same
    exact ⟨a, member, image⟩
  · rintro ⟨a, member, image⟩
    exact ⟨⟨key, a⟩, member, b, image, rfl⟩

def mapValues (f : A → B) : (Finmap fun _ : K => A) → Finmap fun _ : K => B :=
  valuesSome fun a => some (f a)

theorem card_mapValues (f : A → B) (m : Finmap fun _ : K => A) :
    (mapValues f m).entries.card = m.entries.card := by
  obtain ⟨⟨entries⟩, distinct⟩ := m
  change (List.filterMap _ entries).length = entries.length
  induction entries with
  | nil => rfl
  | cons e rest ih =>
    rw [List.filterMap_cons]
    exact congrArg Nat.succ (ih (List.nodup_cons.mp distinct).2)

variable [DecidableEq K]

theorem lookup_valuesSome (f : A → Option B) (m : Finmap fun _ : K => A) (key : K) :
    (valuesSome f m).lookup key = (m.lookup key).bind f := by
  ext b
  rw [Finmap.lookup_eq_some_iff, mem_entries_valuesSome, Option.bind_eq_some_iff]
  simp only [← Finmap.lookup_eq_some_iff]

theorem foldl_insert_entries (entries : List (Σ _ : K, A)) (m : Finmap fun _ : K => A)
    (add : (Finmap fun _ : K => A) → (Σ _ : K, A) → Finmap fun _ : K => A)
    (addFresh : ∀ m e, e.1 ∉ m → add m e = m.insert e.1 e.2)
    (distinct : (entries.map Sigma.fst).Nodup) (fresh : ∀ e ∈ entries, e.1 ∉ m) :
    (entries.foldl add m).entries = entries + m.entries := by
  induction entries generalizing m with
  | nil => simp
  | cons e rest ih =>
    have here : e.1 ∉ m := fresh e (by simp)
    rw [List.map_cons, List.nodup_cons] at distinct
    have later : ∀ e' ∈ rest, e'.1 ∉ add m e := by
      intro e' member
      have other : e'.1 ≠ e.1 := fun same =>
        distinct.1 (same ▸ List.mem_map_of_mem (f := Sigma.fst) member)
      rw [addFresh m e here, Finmap.mem_insert, not_or]
      exact ⟨other, fresh e' (by simp [member])⟩
    rw [List.foldl_cons, ih (add m e) distinct.2 later, addFresh m e here,
      Finmap.entries_insert_of_notMem here, ← Multiset.cons_coe, Multiset.cons_add,
      Multiset.add_cons]

theorem mem_entries_insert (m : Finmap fun _ : K => A) (key : K) (value : A) (e : Σ _ : K, A)
    (member : e ∈ (m.insert key value).entries) : e = ⟨key, value⟩ ∨ e ∈ m.entries := by
  obtain ⟨key', value'⟩ := e
  rw [← Finmap.lookup_eq_some_iff] at member
  by_cases same : key' = key
  · subst same
    rw [Finmap.lookup_insert] at member
    cases member
    exact Or.inl rfl
  · rw [Finmap.lookup_insert_of_ne m same, Finmap.lookup_eq_some_iff] at member
    exact Or.inr member

theorem entries_toFinmap (entries : List (Σ _ : K, A)) (distinct : (entries.map Sigma.fst).Nodup) :
    entries.toFinmap.entries = entries := by
  induction entries with
  | nil => rfl
  | cons e rest ih =>
    rw [List.map_cons, List.nodup_cons] at distinct
    have later := ih distinct.2
    have fresh : e.1 ∉ rest.toFinmap := by
      intro member
      have found : e.1 ∈ rest.toFinmap.entries.map Sigma.fst := member
      rw [later, Multiset.map_coe, Multiset.mem_coe] at found
      exact distinct.1 found
    rw [Finmap.toFinmap_cons, Finmap.entries_insert_of_notMem fresh, later, Multiset.cons_coe]

theorem lookup_mapValues (f : A → B) (m : Finmap fun _ : K => A) (key : K) :
    (mapValues f m).lookup key = (m.lookup key).map f := by
  rw [mapValues, lookup_valuesSome]
  cases m.lookup key <;> rfl

@[simp] theorem mem_mapValues (f : A → B) (m : Finmap fun _ : K => A) (key : K) :
    key ∈ mapValues f m ↔ key ∈ m := by
  rw [← Finmap.lookup_isSome, ← Finmap.lookup_isSome, lookup_mapValues, Option.isSome_map]

theorem mapValues_insert (f : A → B) (m : Finmap fun _ : K => A) (key : K) (value : A) :
    mapValues f (m.insert key value) = (mapValues f m).insert key (f value) := by
  apply Finmap.ext_lookup
  intro other
  by_cases same : other = key
  · subst same
    rw [lookup_mapValues, Finmap.lookup_insert, Finmap.lookup_insert, Option.map_some]
  · rw [lookup_mapValues, Finmap.lookup_insert_of_ne m same, Finmap.lookup_insert_of_ne _ same,
      lookup_mapValues]

theorem mapValues_mapValues {D : Type} (g : B → D) (f : A → B) (m : Finmap fun _ : K => A) :
    mapValues g (mapValues f m) = mapValues (fun a => g (f a)) m := by
  apply Finmap.ext_lookup
  intro key
  rw [lookup_mapValues, lookup_mapValues, lookup_mapValues, Option.map_map]
  rfl

end Maps

theorem valuesSome_idempotent_iff (f : A → Option A)
    (idempotent : ∀ a b, f a = some b → f b = some b) (m : Finmap fun _ : K => A) :
    valuesSome f m = m ↔ ∀ e ∈ m.entries, f e.2 = some e.2 := by
  constructor
  · rintro fixed ⟨key, x⟩ member
    rw [← fixed, mem_entries_valuesSome] at member
    obtain ⟨a, _, image⟩ := member
    exact idempotent a x image
  · intro each
    obtain ⟨⟨entries⟩, distinct⟩ := m
    have unchanged : ∀ e ∈ entries,
        (f e.2).map (@Sigma.mk K (fun _ => A) e.1) = some e := by
      intro e member
      rw [each e member]
      rfl
    have same : entries.filterMap (fun e => (f e.2).map (@Sigma.mk K (fun _ => A) e.1)) = entries :=
      (List.filterMap_congr unchanged).trans List.filterMap_some
    exact Finmap.ext (congrArg (Quot.mk _) same)

theorem mapValues_eq_self_iff (f : A → A) (idempotent : ∀ a, f (f a) = f a)
    (m : Finmap fun _ : K => A) : mapValues f m = m ↔ ∀ e ∈ m.entries, f e.2 = e.2 := by
  refine (valuesSome_idempotent_iff (fun a => some (f a)) ?_ m).trans ?_
  · rintro a b image
    cases image
    rw [idempotent]
  · simp only [Option.some_inj]

theorem image_eq_self_iff [DecidableEq A] (f : A → A) (idempotent : ∀ a, f (f a) = f a)
    (s : Finset A) : s.image f = s ↔ ∀ x ∈ s, f x = x := by
  constructor
  · intro fixed x member
    rw [← fixed] at member
    obtain ⟨a, _, rfl⟩ := Finset.mem_image.mp member
    exact idempotent a
  · intro each
    exact (Finset.image_congr each).trans Finset.image_id

theorem valuesSome_valuesSome (f : A → Option A)
    (idempotent : ∀ a b, f a = some b → f b = some b) (m : Finmap fun _ : K => A) :
    valuesSome f (valuesSome f m) = valuesSome f m := by
  rw [valuesSome_idempotent_iff f idempotent]
  rintro ⟨key, b⟩ member
  obtain ⟨a, _, image⟩ := (mem_entries_valuesSome f m key b).mp member
  exact idempotent a b image

end FiniteData
