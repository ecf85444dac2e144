import StreamsMongo.Codec.PartialDecoder

set_option autoImplicit false

namespace StreamsMongo

-- Keys that differ can be added in either order, whatever the runtime does with a known key.
theorem SplRuntime.mapAdd_comm {A : Type} (rt : SplRuntime) (m : Finmap fun _ : String => A)
    (key other : String) (x y : A) (differ : key ≠ other) :
    rt.mapAdd (rt.mapAdd m key x) other y = rt.mapAdd (rt.mapAdd m other y) key x := by
  have swap : (m.insert key x).insert other y = (m.insert other y).insert key x :=
    Finmap.insert_insert_of_ne m differ
  by_cases hasKey : key ∈ m <;> by_cases hasOther : other ∈ m <;>
    cases replaces : rt.mapAddReplaces <;>
      simp [mapAdd, Finmap.mem_insert, hasKey, hasOther, differ, differ.symm, replaces, swap]

namespace BSONValue

def Distinct (e : BSONValue) : Prop :=
  ∀ obj, e.Within (.object obj) → (obj.map Prod.fst).Nodup

theorem distinct_object (obj : BSONObj) :
    Distinct (.object obj) ↔ (obj.map Prod.fst).Nodup ∧ ∀ be ∈ obj, be.2.Distinct := by
  constructor
  · intro distinct
    exact ⟨distinct obj .self, fun be member inner within =>
      distinct inner (within.of_field (.object obj) _ be member)⟩
  · intro distinct inner within
    rcases (within_iff _ _).mp within with same | below
    · cases same
      exact distinct.1
    · obtain ⟨be, member, within⟩ := below
      exact distinct.2 be member inner within

theorem distinct_array (arr : BSONObj) : Distinct (.array arr) ↔ ∀ be ∈ arr, be.2.Distinct := by
  constructor
  · intro distinct be member inner within
    exact distinct inner (within.of_field (.array arr) _ be member)
  · intro distinct inner within
    rcases (within_iff _ _).mp within with same | below
    · cases same
    · obtain ⟨be, member, within⟩ := below
      exact distinct be member inner within

theorem distinct_numberInt (int : BitVec 32) : Distinct (.numberInt int) := by
  intro obj within
  rcases (within_iff _ _).mp within with same | ⟨_, none, _⟩
  · cases same
  · cases none

inductive Permuted : BSONValue → BSONValue → Prop where
  | refl (e : BSONValue) : Permuted e e
  | trans (e e' e'' : BSONValue) : Permuted e e' → Permuted e' e'' → Permuted e e''
  | fields (obj obj' : BSONObj) : obj.Perm obj' → Permuted (.object obj) (.object obj')
  | field (before after : BSONObj) (name : FieldName) (e e' : BSONValue) : Permuted e e' →
      Permuted (.object (before ++ (name, e) :: after)) (.object (before ++ (name, e') :: after))
  | element (before after : BSONObj) (name : FieldName) (e e' : BSONValue) : Permuted e e' →
      Permuted (.array (before ++ (name, e) :: after)) (.array (before ++ (name, e') :: after))
  | scope (code : String) (scope scope' : BSONObj) : Permuted (.object scope) (.object scope') →
      Permuted (.codeWScope code scope) (.codeWScope code scope')

end BSONValue

open BSONValue (Permuted Distinct)

/-- Fields are permuted, and objects that the type reads as tuples have more fields. -/
inductive Rearranged : SplType → BSONValue → BSONValue → Prop where
  | permuted (t : SplType) (e e' : BSONValue) : Permuted e e' → Rearranged t e e'
  | trans (t : SplType) (e e' e'' : BSONValue) : Rearranged t e e' → Rearranged t e' e'' →
      Rearranged t e e''
  | unknown (attrs : Attributes) (before after : BSONObj) (name : FieldName) (e : BSONValue) :
      name ∉ attrs.names →
      Rearranged (.tuple attrs) (.object (before ++ after)) (.object (before ++ (name, e) :: after))
  | component (attrs : Attributes) (before after : BSONObj) (name : FieldName) (t : SplType)
      (e e' : BSONValue) : attrs.Has name t → Rearranged t e e' →
      Rearranged (.tuple attrs) (.object (before ++ (name, e) :: after))
        (.object (before ++ (name, e') :: after))
  | entry (t : SplType) (before after : BSONObj) (name : FieldName) (e e' : BSONValue) :
      Rearranged t e e' → Rearranged (.map t) (.object (before ++ (name, e) :: after))
        (.object (before ++ (name, e') :: after))
  | listElement (t : SplType) (before after : BSONObj) (name : FieldName) (e e' : BSONValue) :
      Rearranged t e e' → Rearranged (.list t) (.array (before ++ (name, e) :: after))
        (.array (before ++ (name, e') :: after))
  | setElement (t : SplType) (before after : BSONObj) (name : FieldName) (e e' : BSONValue) :
      Rearranged t e e' → Rearranged (.set t) (.array (before ++ (name, e) :: after))
        (.array (before ++ (name, e') :: after))

theorem distinct_object_replace (before after : BSONObj) (name : FieldName) (e e' : BSONValue)
    (back : e'.Distinct → e.Distinct)
    (distinct : Distinct (.object (before ++ (name, e') :: after))) :
    Distinct (.object (before ++ (name, e) :: after)) := by
  rw [BSONValue.distinct_object] at distinct ⊢
  obtain ⟨names, fields⟩ := distinct
  refine ⟨by simpa using names, fun be member => ?_⟩
  rcases List.mem_append.mp member with early | late
  · exact fields be (by simp [early])
  rcases List.mem_cons.mp late with here | late
  · rw [here]
    exact back (fields (name, e') (by simp))
  · exact fields be (by simp [late])

theorem distinct_array_replace (before after : BSONObj) (name : FieldName) (e e' : BSONValue)
    (back : e'.Distinct → e.Distinct)
    (distinct : Distinct (.array (before ++ (name, e') :: after))) :
    Distinct (.array (before ++ (name, e) :: after)) := by
  rw [BSONValue.distinct_array] at distinct ⊢
  intro be member
  rcases List.mem_append.mp member with early | late
  · exact distinct be (by simp [early])
  rcases List.mem_cons.mp late with here | late
  · rw [here]
    exact back (distinct (name, e') (by simp))
  · exact distinct be (by simp [late])

theorem BSONValue.Permuted.distinct_back (e e' : BSONValue) (permuted : Permuted e e')
    (distinct : e'.Distinct) : e.Distinct := by
  induction permuted with
  | refl => exact distinct
  | trans _ _ _ _ _ first second => exact first (second distinct)
  | fields obj obj' perm =>
    rw [BSONValue.distinct_object] at distinct ⊢
    exact ⟨(perm.map Prod.fst).nodup_iff.mpr distinct.1,
      fun be member => distinct.2 be (perm.mem_iff.mp member)⟩
  | field before after name e e' _ back =>
    exact distinct_object_replace before after name e e' back distinct
  | element before after name e e' _ back =>
    exact distinct_array_replace before after name e e' back distinct
  | scope code scope scope' _ _ =>
    intro obj within
    rcases (BSONValue.within_iff _ _).mp within with same | ⟨_, none, _⟩
    · cases same
    · cases none

theorem Rearranged.distinct_back (t : SplType) (e e' : BSONValue) (rearranged : Rearranged t e e')
    (distinct : e'.Distinct) : e.Distinct := by
  induction rearranged with
  | permuted t e e' permuted => exact permuted.distinct_back e e' distinct
  | trans _ _ _ _ _ _ first second => exact first (second distinct)
  | unknown attrs before after name e _ =>
    rw [BSONValue.distinct_object] at distinct ⊢
    have fewer : (before ++ after).Sublist (before ++ (name, e) :: after) :=
      (List.sublist_cons_self (name, e) after).append_left before
    exact ⟨distinct.1.sublist (fewer.map Prod.fst),
      fun be member => distinct.2 be (fewer.subset member)⟩
  | component attrs before after name t e e' _ _ back =>
    exact distinct_object_replace before after name e e' back distinct
  | entry t before after name e e' _ back =>
    exact distinct_object_replace before after name e e' back distinct
  | listElement t before after name e e' _ back =>
    exact distinct_array_replace before after name e e' back distinct
  | setElement t before after name e e' _ back =>
    exact distinct_array_replace before after name e e' back distinct

theorem BSONObj.getField_eq_some_iff (obj : BSONObj) (distinct : (obj.map Prod.fst).Nodup)
    (name : FieldName) (e : BSONValue) : obj.getField name = some e ↔ (name, e) ∈ obj := by
  induction obj with
  | nil => simp
  | cons be rest ih =>
    rw [List.map_cons, List.nodup_cons] at distinct
    rw [BSONObj.getField_cons, List.mem_cons]
    by_cases here : be.1 = name
    · rw [if_pos here]
      constructor
      · intro same
        cases same
        exact Or.inl (Prod.ext here.symm rfl)
      · intro either
        rcases either with same | later
        · rw [← same]
        · exact absurd (List.mem_map_of_mem (f := Prod.fst) later) (here ▸ distinct.1)
    · rw [if_neg here, ih distinct.2]
      exact (or_iff_right fun same => here (congrArg Prod.fst same.symm)).symm

theorem BSONObj.getField_perm (obj obj' : BSONObj) (perm : obj.Perm obj')
    (distinct : (obj.map Prod.fst).Nodup) (name : FieldName) :
    obj.getField name = obj'.getField name := by
  ext e
  rw [obj.getField_eq_some_iff distinct, perm.mem_iff,
    obj'.getField_eq_some_iff ((perm.map Prod.fst).nodup_iff.mp distinct)]

theorem BSONObj.getField_unknown (before after : BSONObj) (name sought : FieldName) (e : BSONValue)
    (other : name ≠ sought) : BSONObj.getField (before ++ (name, e) :: after) sought =
      BSONObj.getField (before ++ after) sought := by
  induction before with
  | nil => simp [other]
  | cons be before ih => simp only [List.cons_append, BSONObj.getField_cons, ih]

namespace Attributes.Has

theorem wellFormed {attrs : Attributes} {name : FieldName} {t : SplType}
    (position : attrs.Has name t) (wellFormed : attrs.WellFormed) : t.WellFormed := by
  induction position with
  | head => exact wellFormed.1
  | tail _ ih => exact ih wellFormed.2

-- The names of a tuple's attributes differ, so a name has one type.
theorem type_eq {attrs : Attributes} {name : FieldName} {t u : SplType}
    (position : attrs.Has name t) (distinct : attrs.names.Nodup) (other : attrs.Has name u) :
    t = u := by
  induction position with
  | head =>
    cases other with
    | head => rfl
    | tail later => exact absurd later.mem_names (List.nodup_cons.mp distinct).1
  | tail position ih =>
    cases other with
    | head => exact absurd position.mem_names (List.nodup_cons.mp distinct).1
    | tail later => exact ih (List.nodup_cons.mp distinct).2 later

end Attributes.Has

namespace QueryCommon

variable {A C : Type}

def readComponent (rt : SplRuntime) (t : SplType) (obj : BSONObj) (name : FieldName)
    (target : Target t.Value) : Target t.Value :=
  match obj.getField name with
  | some be => handleBSONObject rt t be target
  | none => target

theorem handleBSONObjectAsTuple_cons (rt : SplRuntime) (name : FieldName) (t : SplType)
    (rest : Attributes) (obj : BSONObj) (target : Target (Attributes.cons name t rest).Value) :
    handleBSONObjectAsTuple rt (.cons name t rest) obj target =
      let head := readComponent rt t obj name ⟨target.attr.1, target.valueApplied⟩
      let tail := handleBSONObjectAsTuple rt rest obj ⟨target.attr.2, head.valueApplied⟩
      ⟨(head.attr, tail.attr), tail.valueApplied⟩ := by
  rw [handleBSONObjectAsTuple]
  unfold readComponent
  cases obj.getField name <;> rfl

theorem readComponent_replace (rt : SplRuntime) (t : SplType) (before after : BSONObj)
    (name sought : FieldName) (e e' : BSONValue)
    (same : name = sought →
      ∀ target, handleBSONObject rt t e target = handleBSONObject rt t e' target)
    (target : Target t.Value) :
    readComponent rt t (before ++ (name, e) :: after) sought target =
      readComponent rt t (before ++ (name, e') :: after) sought target := by
  unfold readComponent
  induction before with
  | nil =>
    simp only [List.nil_append, BSONObj.getField_cons]
    by_cases here : name = sought
    · rw [if_pos here, if_pos here]
      exact same here target
    · rw [if_neg here, if_neg here]
  | cons be before ih =>
    simp only [List.cons_append, BSONObj.getField_cons]
    by_cases here : be.1 = sought
    · rw [if_pos here, if_pos here]
    · rw [if_neg here, if_neg here]
      exact ih

theorem handleBSONObjectAsTuple_congr (rt : SplRuntime) : (attrs : Attributes) →
    (obj obj' : BSONObj) → (∀ name t, attrs.Has name t → ∀ target,
      readComponent rt t obj name target = readComponent rt t obj' name target) →
    (target : Target attrs.Value) →
    handleBSONObjectAsTuple rt attrs obj target = handleBSONObjectAsTuple rt attrs obj' target
  | .nil, _, _, _, _ => rfl
  | .cons name t rest, obj, obj', same, target => by
      have head := same name t .head ⟨target.attr.1, target.valueApplied⟩
      have tail := handleBSONObjectAsTuple_congr rt rest obj obj'
        fun name t position => same name t (.tail position)
      simp only [handleBSONObjectAsTuple_cons, head, tail]

theorem handleBSONObject_tuple_congr (rt : SplRuntime) (attrs : Attributes) (obj obj' : BSONObj)
    (same : ∀ name t, attrs.Has name t → ∀ target,
      readComponent rt t obj name target = readComponent rt t obj' name target)
    (target : Target attrs.Value) :
    handleBSONObject rt (.tuple attrs) (.object obj) target =
      handleBSONObject rt (.tuple attrs) (.object obj') target :=
  congrArg (fun inner : Target attrs.Value => Target.applied inner.attr)
    (handleBSONObjectAsTuple_congr rt attrs obj obj' same target)

theorem readElements_replace (read : BSONValue → Target A) (add : C → BSONElement → A → C)
    (named : ∀ attr name e e' inner, add attr (name, e) inner = add attr (name, e') inner)
    (before after : BSONObj) (name : FieldName) (e e' : BSONValue) (same : read e = read e')
    (attr : C) : readElements read add (before ++ (name, e) :: after) attr =
      readElements read add (before ++ (name, e') :: after) attr := by
  simp only [readElements, List.foldl_append, List.foldl_cons, same, named _ name e e']

theorem readElements_perm (read : BSONValue → Target A) (add : C → BSONElement → A → C)
    (commutes : ∀ attr be be' x y, be.1 ≠ be'.1 →
      add (add attr be x) be' y = add (add attr be' y) be x)
    (obj obj' : BSONObj) (perm : obj.Perm obj') (distinct : (obj.map Prod.fst).Nodup) (attr : C) :
    readElements read add obj attr = readElements read add obj' attr := by
  refine perm.foldl_eq' (fun be member be' member' attr => ?_) attr
  by_cases same : be = be'
  · rw [same]
  have differ : be.1 ≠ be'.1 := fun names =>
    same (List.inj_on_of_nodup_map distinct member member' names)
  by_cases here : (read be.2).valueApplied = true <;>
    by_cases there : (read be'.2).valueApplied = true <;>
      simp [here, there, commutes _ be be' _ _ differ]

theorem handleBSONArray_replace (read : BSONValue → Target A) (add : C → A → C) (getSize : C → Nat)
    (before after : BSONObj) (name : FieldName) (e e' : BSONValue) (same : read e = read e')
    (target : Target C) :
    handleBSONArray read add getSize (.array (before ++ (name, e) :: after)) target =
      handleBSONArray read add getSize (.array (before ++ (name, e') :: after)) target := by
  have loop := readElements_replace read (fun attr _ inner => add attr inner)
    (fun _ _ _ _ _ => rfl) before after name e e' same target.attr
  exact congrArg (fun attr : C =>
    (⟨attr, if getSize attr > 0 then true else target.valueApplied⟩ : Target C)) loop

theorem handleBSONObjectAsMap_congr (rt : SplRuntime) (read : BSONValue → Target A)
    (obj obj' : BSONObj) (target : Target (Finmap fun _ : String => A))
    (loop :
      readElements read (fun attr be inner => rt.mapAdd attr be.1.chars inner) obj target.attr =
      readElements read (fun attr be inner => rt.mapAdd attr be.1.chars inner) obj' target.attr) :
    handleBSONObjectAsMap rt read (.object obj) target =
      handleBSONObjectAsMap rt read (.object obj') target :=
  congrArg (fun attr : Finmap fun _ : String => A =>
    (⟨attr, if attr.entries.card > 0 then true else target.valueApplied⟩ : Target _)) loop

theorem handleBSONObjectAsMap_replace (rt : SplRuntime) (read : BSONValue → Target A)
    (before after : BSONObj) (name : FieldName) (e e' : BSONValue) (same : read e = read e')
    (target : Target (Finmap fun _ : String => A)) :
    handleBSONObjectAsMap rt read (.object (before ++ (name, e) :: after)) target =
      handleBSONObjectAsMap rt read (.object (before ++ (name, e') :: after)) target :=
  handleBSONObjectAsMap_congr rt read _ _ target
    (readElements_replace read _ (fun _ _ _ _ _ => rfl) before after name e e' same target.attr)

theorem handleBSONObjectAsMap_perm (rt : SplRuntime) (read : BSONValue → Target A)
    (obj obj' : BSONObj) (perm : obj.Perm obj') (distinct : (obj.map Prod.fst).Nodup)
    (target : Target (Finmap fun _ : String => A)) :
    handleBSONObjectAsMap rt read (.object obj) target =
      handleBSONObjectAsMap rt read (.object obj') target :=
  handleBSONObjectAsMap_congr rt read obj obj' target
    (readElements_perm read _ (fun attr _ _ x y differ => rt.mapAdd_comm attr _ _ x y
      fun same => differ (FieldName.eq_of_chars same)) obj obj' perm distinct target.attr)

theorem handleBSONObject_permuted (rt : SplRuntime) (e e' : BSONValue) (permuted : Permuted e e')
    (distinct : e'.Distinct) : ∀ (t : SplType) (target : Target t.Value),
    handleBSONObject rt t e target = handleBSONObject rt t e' target := by
  induction permuted with
  | refl => exact fun _ _ => rfl
  | trans e e' e'' _ second ihFirst ihSecond =>
    intro t target
    exact (ihFirst (second.distinct_back e' e'' distinct) t target).trans
      (ihSecond distinct t target)
  | fields obj obj' perm =>
    rw [BSONValue.distinct_object] at distinct
    have names := (perm.map Prod.fst).nodup_iff.mpr distinct.1
    intro t target
    cases t with
    | prim | list | set => rfl
    | map t => exact handleBSONObjectAsMap_perm rt _ obj obj' perm names target
    | tuple attrs =>
      refine handleBSONObject_tuple_congr rt attrs obj obj' (fun name t _ target => ?_) target
      rw [readComponent, readComponent, BSONObj.getField_perm obj obj' perm names]
  | field before after name e e' inner ih =>
    rw [BSONValue.distinct_object] at distinct
    have same := ih (distinct.2 (name, e') (by simp))
    intro t target
    cases t with
    | prim | list | set => rfl
    | map t => exact handleBSONObjectAsMap_replace rt _ before after name e e' (same t _) target
    | tuple attrs =>
      exact handleBSONObject_tuple_congr rt attrs _ _ (fun name' t _ =>
        readComponent_replace rt t before after name name' e e' fun _ => same t) target
  | element before after name e e' inner ih =>
    rw [BSONValue.distinct_array] at distinct
    have same := ih (distinct (name, e') (by simp))
    intro t target
    cases t with
    | prim | map | tuple => rfl
    | list t =>
      exact handleBSONArray_replace (C := List t.Value) _ _ _ before after name e e' (same t _)
        target
    | set t =>
      exact handleBSONArray_replace (C := Finset t.Value) _ _ _ before after name e e' (same t _)
        target
  | scope code scope scope' _ _ =>
    intro t target
    cases t <;> rfl

/-- Neither the order of fields nor one the type does not name changes what is decoded. -/
theorem decode_rearranged (rt : SplRuntime) (t : SplType) (wellFormed : t.WellFormed)
    (e e' : BSONValue) (rearranged : Rearranged t e e') (distinct : e'.Distinct)
    (target : Target t.Value) :
    handleBSONObject rt t e target = handleBSONObject rt t e' target := by
  induction rearranged with
  | permuted t e e' permuted => exact handleBSONObject_permuted rt e e' permuted distinct t target
  | trans t e e' e'' _ second ihFirst ihSecond =>
    exact (ihFirst wellFormed (second.distinct_back t e' e'' distinct) target).trans
      (ihSecond wellFormed distinct target)
  | unknown attrs before after name e new =>
    refine handleBSONObject_tuple_congr rt attrs _ _ (fun name' t position _ => ?_) target
    have other : name ≠ name' := fun same => new (same ▸ position.mem_names)
    rw [readComponent, readComponent, BSONObj.getField_unknown before after name name' e other]
  | component attrs before after name t e e' position _ ih =>
    rw [BSONValue.distinct_object] at distinct
    have same := ih (position.wellFormed wellFormed.2) (distinct.2 (name, e') (by simp))
    refine handleBSONObject_tuple_congr rt attrs _ _ (fun name' u position' _ => ?_) target
    refine readComponent_replace rt u before after name name' e e' (fun here => ?_) _
    subst here
    cases position.type_eq wellFormed.1 position'
    exact same
  | entry t before after name e e' _ ih =>
    rw [BSONValue.distinct_object] at distinct
    have same := ih wellFormed (distinct.2 (name, e') (by simp))
    exact handleBSONObjectAsMap_replace rt _ before after name e e' (same _) target
  | listElement t before after name e e' _ ih =>
    rw [BSONValue.distinct_array] at distinct
    have same := ih wellFormed (distinct (name, e') (by simp))
    exact handleBSONArray_replace (C := List t.Value) _ _ _ before after name e e' (same _) target
  | setElement t before after name e e' _ ih =>
    rw [BSONValue.distinct_array] at distinct
    have same := ih wellFormed (distinct (name, e') (by simp))
    exact handleBSONArray_replace (C := Finset t.Value) _ _ _ before after name e e' (same _) target

def nameA : FieldName := ⟨"a", by decide⟩

def nameB : FieldName := ⟨"b", by decide⟩

def countAttributes : Attributes := .cons nameA (.prim (.int .int32)) .nil

theorem decode_rearranged_count :
    handleBSONObject .plain (.tuple countAttributes) (.object [(nameA, .numberInt 1#32)])
        ⟨(0#32, ()), false⟩ =
      handleBSONObject .plain (.tuple countAttributes)
        (.object [(nameB, .numberInt 2#32), (nameA, .numberInt 1#32)]) ⟨(0#32, ()), false⟩ := by
  have added : Rearranged (.tuple countAttributes) (.object [(nameA, .numberInt 1#32)])
      (.object [(nameA, .numberInt 1#32), (nameB, .numberInt 2#32)]) :=
    .unknown countAttributes [(nameA, .numberInt 1#32)] [] nameB (.numberInt 2#32) (by decide)
  have swapped : Rearranged (.tuple countAttributes)
      (.object [(nameA, .numberInt 1#32), (nameB, .numberInt 2#32)])
      (.object [(nameB, .numberInt 2#32), (nameA, .numberInt 1#32)]) :=
    .permuted _ _ _ (.fields _ _ (List.Perm.swap ..))
  have distinct :
      Distinct (.object [(nameB, .numberInt 2#32), (nameA, .numberInt 1#32)]) := by
    rw [BSONValue.distinct_object]
    refine ⟨by decide, fun be member => ?_⟩
    rcases List.mem_pair.mp member with rfl | rfl <;> exact BSONValue.distinct_numberInt _
  exact decode_rearranged .plain (.tuple countAttributes) ⟨by decide, trivial, trivial⟩ _ _
    (.trans _ _ _ _ added swapped) distinct _

end QueryCommon

end StreamsMongo
