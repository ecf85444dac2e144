import StreamsMongo.Codec.StoredDocument

set_option autoImplicit false

namespace StreamsMongo

def SplType.Storable (t : SplType) (value : t.Value) : Prop := t.Full value ∧ t.KeysClean value

def Attributes.Storable (attrs : Attributes) (values : attrs.Value) : Prop :=
  attrs.Full values ∧ attrs.KeysClean values

mutual

theorem SplType.cleared_storable : (t : SplType) → t.Storable t.cleared
  | .prim _ => ⟨trivial, trivial⟩
  | .list _ => ⟨nofun, nofun⟩
  | .set t =>
      have none (x : t.Value) (member : x ∈ (∅ : Finset t.Value)) : False :=
        Finset.notMem_empty x member
      ⟨fun x member => absurd member (none x), fun x member => absurd member (none x)⟩
  | .map _ => ⟨fun e member => absurd member (Multiset.notMem_zero e),
      fun e member => absurd member (Multiset.notMem_zero e)⟩
  | .tuple attrs => attrs.cleared_storable

theorem Attributes.cleared_storable : (attrs : Attributes) → attrs.Storable attrs.cleared
  | .nil => ⟨trivial, trivial⟩
  | .cons _ t rest =>
      have head := t.cleared_storable
      have tail := rest.cleared_storable
      ⟨⟨head.1, tail.1⟩, ⟨head.2, tail.2⟩⟩

end

namespace QueryCommon

section Collections

variable {A C : Type} (rt : SplRuntime) (value : BSONValue → Option A)

theorem refArray_eq_some (collect : List A → C) (be : BSONValue) (read : C)
    (accepted : refArray value collect be = some read) :
    ∃ x xs, read = collect (x :: xs) ∧ ∀ y ∈ x :: xs, ∃ e, value e = some y := by
  unfold refArray at accepted
  split at accepted
  · cases found : be.embeddedObject.filterMap fun e => value e.2 with
    | nil =>
      rw [found] at accepted
      cases accepted
    | cons x xs =>
      rw [found] at accepted
      cases accepted
      refine ⟨x, xs, rfl, ?_⟩
      intro y member
      rw [← found] at member
      obtain ⟨e, _, image⟩ := List.mem_filterMap.mp member
      exact ⟨e.2, image⟩
  · cases accepted

theorem mem_mapAdd_entries (m : Finmap fun _ : String => A) (entry e : Σ _ : String, A)
    (member : e ∈ (rt.mapAdd m entry.1 entry.2).entries) : e = entry ∨ e ∈ m.entries := by
  unfold SplRuntime.mapAdd at member
  split_ifs at member
  · exact FiniteData.mem_entries_insert m _ _ e member
  · exact Or.inr member
  · exact FiniteData.mem_entries_insert m _ _ e member

theorem mem_foldl_mapAdd_entries (found : List (Σ _ : String, A)) (m : Finmap fun _ : String => A)
    (e : Σ _ : String, A) (member : e ∈ (found.foldl (fun m e => rt.mapAdd m e.1 e.2) m).entries) :
    e ∈ found ∨ e ∈ m.entries := by
  induction found generalizing m with
  | nil => exact Or.inr member
  | cons entry rest ih =>
    rcases ih _ member with later | before
    · exact Or.inl (List.mem_cons_of_mem entry later)
    · rcases mem_mapAdd_entries rt m entry e before with rfl | old
      · exact Or.inl (List.mem_cons_self ..)
      · exact Or.inr old

-- The keys come from field names, which hold no null byte.
theorem refMap_eq_some (be : BSONValue) (read : Finmap fun _ : String => A)
    (accepted : refMap rt value be = some read) :
    0 < read.entries.card ∧
      ∀ e ∈ read.entries, nul ∉ e.1.toList ∧ ∃ inner, value inner = some e.2 := by
  unfold refMap at accepted
  split at accepted
  · cases found : be.embeddedObject.filterMap fun e =>
        (value e.2).map (@Sigma.mk String (fun _ => A) e.1.chars) with
    | nil =>
      rw [found] at accepted
      cases accepted
    | cons entry rest =>
      rw [found] at accepted
      cases accepted
      constructor
      · apply FiniteData.card_entries_pos _ entry.1
        exact (rt.mem_foldl_mapAdd (entry :: rest) ∅ entry.1).mpr (Or.inl (by simp))
      · intro e member
        rcases mem_foldl_mapAdd_entries rt (entry :: rest) ∅ e member with here | impossible
        · rw [← found] at here
          obtain ⟨field, _, image⟩ := List.mem_filterMap.mp here
          obtain ⟨inner, read, same⟩ := Option.map_eq_some_iff.mp image
          rw [← same]
          exact ⟨field.1.noNul, field.2, read⟩
        · exact absurd impossible (Multiset.notMem_zero e)
  · cases accepted

end Collections

mutual

/-- Whoever wrote the document, what is read from it is storable, and no empty container. -/
theorem refDecode_storable (rt : SplRuntime) : (t : SplType) → (be : BSONValue) →
    (value : t.Value) → refDecode rt t be = some value →
    t.emptyContainer value = false ∧ t.Storable value
  | .prim _, _, _, _ => ⟨rfl, trivial, trivial⟩
  | .list t, be, value, accepted => by
      obtain ⟨x, xs, rfl, read⟩ := refArray_eq_some (C := List t.Value) _ _ be value accepted
      have each (y : t.Value) (member : y ∈ x :: xs) :=
        (read y member).elim fun e found => refDecode_storable rt t e y found
      exact ⟨rfl, fun y member => ⟨(each y member).1, (each y member).2.1⟩,
        fun y member => (each y member).2.2⟩
  | .set t, be, value, accepted => by
      obtain ⟨x, xs, rfl, read⟩ := refArray_eq_some (C := Finset t.Value) _ _ be value accepted
      have each (y : t.Value) (member : y ∈ (x :: xs).toFinset) :=
        (read y (List.mem_toFinset.mp member)).elim fun e found => refDecode_storable rt t e y found
      refine ⟨by simp [SplType.emptyContainer], ?_, ?_⟩
      · exact fun y member => ⟨(each y member).1, (each y member).2.1⟩
      · exact fun y member => (each y member).2.2
  | .map t, be, value, accepted => by
      obtain ⟨nonempty, read⟩ := refMap_eq_some rt _ be value accepted
      have each (e : Σ _ : String, t.Value) (member : e ∈ Finmap.entries value) :=
        (read e member).2.elim fun inner found => refDecode_storable rt t inner e.2 found
      refine ⟨decide_eq_false nonempty.ne', ?_, ?_⟩
      · exact fun e member => ⟨(each e member).1, (each e member).2.1⟩
      · exact fun e member => ⟨(read e member).1, (each e member).2.2⟩
  | .tuple attrs, be, value, accepted => by
      rw [refDecode] at accepted
      split at accepted
      · cases accepted
        exact ⟨rfl, refDecodeAttributes_storable rt attrs be.embeddedObject⟩
      · cases accepted

theorem refDecodeAttributes_storable (rt : SplRuntime) : (attrs : Attributes) → (bo : BSONObj) →
    attrs.Storable (refDecodeAttributes rt attrs bo)
  | .nil, _ => ⟨trivial, trivial⟩
  | .cons name t rest, bo => by
      have tail := refDecodeAttributes_storable rt rest bo
      have head : t.Storable (match BSONObj.getField bo name with
          | some be => (refDecode rt t be).getD t.cleared
          | none => t.cleared) := by
        cases bo.getField name with
        | none => exact t.cleared_storable
        | some be =>
          cases accepted : refDecode rt t be with
          | none => simpa [accepted] using t.cleared_storable
          | some value => simpa [accepted] using (refDecode_storable rt t be value accepted).2
      exact ⟨⟨head.1, tail.1⟩, ⟨head.2, tail.2⟩⟩

end

end QueryCommon

section Stable

open BSONCommon QueryCommon

variable (rt : SplRuntime)

end Stable

end StreamsMongo
