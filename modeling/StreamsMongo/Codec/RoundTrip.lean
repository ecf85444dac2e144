import StreamsMongo.Codec.Encoder
import StreamsMongo.Codec.PartialDecoder
import StreamsMongo.Codec.Prune

set_option autoImplicit false

namespace StreamsMongo

def PrimType.Exact : PrimType → Prop
  | .boolean | .int _ | .float64 | .rstring | .enum _ _ => True
  | _ => False

mutual

def SplType.ExactLeaves : SplType → Prop
  | .prim p => p.Exact
  | .list t | .set t | .map t => t.ExactLeaves
  | .tuple attrs => attrs.ExactLeaves

def Attributes.ExactLeaves : Attributes → Prop
  | .nil => True
  | .cons _ t rest => t.ExactLeaves ∧ rest.ExactLeaves

end

mutual

theorem SplType.ExactLeaves.supported : {t : SplType} → t.ExactLeaves → t.Supported
  | .prim p, exact => by cases p <;> first | exact absurd exact id | exact ⟨nofun, nofun⟩
  | .list t, exact => @SplType.ExactLeaves.supported t exact
  | .set t, exact => @SplType.ExactLeaves.supported t exact
  | .map t, exact => @SplType.ExactLeaves.supported t exact
  | .tuple attrs, exact => @Attributes.ExactLeaves.supported attrs exact

theorem Attributes.ExactLeaves.supported :
    {attrs : Attributes} → attrs.ExactLeaves → attrs.Supported
  | .nil, _ => trivial
  | .cons _ _ _, exact => ⟨exact.1.supported, exact.2.supported⟩

end

theorem SplType.kept_getD_cleared (t : SplType) (value : t.Value) :
    (t.kept value).getD t.cleared = value := by
  unfold SplType.kept
  cases empty : t.emptyContainer value with
  | false => rfl
  | true =>
    cases t with
    | prim p => cases empty
    | tuple attrs => cases empty
    | list t => exact (List.isEmpty_iff.mp empty).symm
    | set t => exact (Finset.card_eq_zero.mp (of_decide_eq_true empty)).symm
    | map t => exact (Finmap.ext (Multiset.card_eq_zero.mp (of_decide_eq_true empty))).symm

theorem SplType.kept_map (t : SplType) (m : Finmap fun _ : String => t.Value) :
    (SplType.map t).kept m = if m.entries.card = 0 then none else some m :=
  if_congr decide_eq_true_iff rfl rfl

namespace BSONObj

theorem getField_append (b rest : BSONObj) (name : FieldName) (absent : ∀ be ∈ b, be.1 ≠ name) :
    getField (b ++ rest) name = getField rest name := by
  induction b with
  | nil => rfl
  | cons be b ih =>
    rw [List.cons_append, getField_cons, if_neg (absent be (by simp))]
    exact ih fun be member => absent be (by simp [member])

end BSONObj

namespace BSONCommon

open QueryCommon

theorem signExtend_narrow {w v : Nat} (bound : w ≤ v) (n : BitVec w) :
    (n.signExtend v).signExtend w = n := by
  ext i small
  simp [BitVec.getElem_signExtend, small]
  omega

theorem zeroExtend_narrow {w v : Nat} (bound : w ≤ v) (n : BitVec w) :
    (n.zeroExtend v).signExtend w = n := by
  ext i small
  simp [BitVec.getElem_signExtend, small]
  omega

-- Unsigned types of 32 and 64 bits wrap when they are stored, and wrap back here.
theorem leafValue_plainInteger (rt : SplRuntime) (i : IntType) (value : BitVec i.bits) :
    leafValue rt (.int i) (plainInteger i value).appended = some value := by
  cases i with
  | int8 => exact congrArg some (signExtend_narrow (by decide) value)
  | int16 => exact congrArg some (signExtend_narrow (by decide) value)
  | uint8 => exact congrArg some (zeroExtend_narrow (by decide) value)
  | uint16 => exact congrArg some (zeroExtend_narrow (by decide) value)
  | int32 | uint32 | int64 | uint64 => exact congrArg some (BitVec.signExtend_eq value)

theorem leafValue_handlePrimitive (rt : SplRuntime) (p : PrimType) (exact : p.Exact)
    (value : p.Value) (inner : CppValue)
    (built : BSONCommon.handlePrimitive rt p value = .ok inner) :
    leafValue rt p inner.appended = some value := by
  cases p with
  | boolean | float64 | rstring =>
    cases built
    rfl
  | int i =>
    cases built
    exact leafValue_plainInteger rt i value
  | enum first rest =>
    cases built
    exact dif_pos value.property
  | _ => exact absurd exact id

theorem refArray_kept {A C : Type} (value : BSONValue → Option A) (collect : List A → C)
    (kept : C → Option C) (keptNil : kept (collect []) = none)
    (keptCons : ∀ x xs, kept (collect (x :: xs)) = some (collect (x :: xs))) (arr : BSONObj) :
    refArray value collect (.array arr) = kept (collect (arr.filterMap fun be => value be.2)) := by
  rw [refArray_array]
  cases arr.filterMap fun be => value be.2 with
  | nil => exact keptNil.symm
  | cons x xs => exact (keptCons x xs).symm

theorem refMap_kept {A : Type} (rt : SplRuntime) (value : BSONValue → Option A)
    (f : A → Option A) (m : Finmap fun _ : String => A) (order : List (Σ _ : String, A))
    (enumerates : (order : Multiset (Σ _ : String, A)) = m.entries) (doc : BSONObj)
    (found : (doc.filterMap fun e => (value e.2).map (@Sigma.mk String (fun _ => A) e.1.chars)) =
      order.filterMap fun e => (f e.2).map (@Sigma.mk String (fun _ => A) e.1)) :
    refMap rt value (.object doc) =
      if (FiniteData.valuesSome f m).entries.card = 0 then none
      else some (FiniteData.valuesSome f m) := by
  have distinct : (order.map Sigma.fst).Nodup := by
    have nodup := m.nodupKeys
    rw [← enumerates] at nodup
    exact nodup
  have collected : (FiniteData.valuesSome f m).entries =
      (order.filterMap fun e => (f e.2).map (@Sigma.mk String (fun _ => A) e.1) : List _) := by
    simp only [FiniteData.valuesSome, ← enumerates, Multiset.filterMap_coe]
  have fresh := List.Nodup.sublist (FiniteData.keys_filterMap_sublist f order) distinct
  rw [refMap_object, found]
  generalize order.filterMap _ = kept at collected fresh
  cases kept with
  | nil => simp [collected]
  | cons e rest =>
    have loop : (e :: rest).foldl (fun m e => rt.mapAdd m e.1 e.2) ∅ =
        FiniteData.valuesSome f m := by
      apply Finmap.ext
      rw [FiniteData.foldl_insert_entries (e :: rest) ∅ _
        (fun m e new => rt.mapAdd_fresh m e.1 e.2 new) fresh (fun e _ => Finmap.notMem_empty),
        collected]
      exact add_zero _
    rw [if_neg (by simp [collected])]
    exact congrArg some loop

section Collections

variable (rt : SplRuntime) (t : SplType)
  (reads : ∀ (value : t.Value) (function : AppendFunction) (inner : CppValue),
    buildBSONObject rt t value = .ok (function, inner) →
    refDecode rt t inner.appended = t.kept (t.prune value))

include reads

theorem filterMap_elements (values : List t.Value) (b : BSONArrayBuilder)
    (loop : buildBSONObjectFromListOrSet (buildBSONObject rt t) values = .ok b) :
    (b.b.filterMap fun be => refDecode rt t be.2) =
      values.filterMap fun x => t.kept (t.prune x) := by
  obtain ⟨inners, rounds, fields⟩ := buildBSONObjectFromListOrSet_eq_ok _ _ _ _ loop
  rw [fields, List.nil_append, filterMap_arrayFields]
  refine Loops.filterMap_forall₂ _ _ _ ?_ _ _ rounds
  intro x made built
  obtain ⟨function, element⟩ := built
  exact reads x function made element

theorem filterMap_entries (values : List (Σ _ : String, t.Value)) (b : BSONObj)
    (loop : buildBSONObjectFromMap (buildBSONObject rt t) values = .ok b) :
    (b.filterMap fun be =>
        (refDecode rt t be.2).map (@Sigma.mk String (fun _ => t.Value) be.1.chars)) =
      values.filterMap fun e =>
        (t.kept (t.prune e.2)).map (@Sigma.mk String (fun _ => t.Value) e.1) := by
  refine Loops.filterMap_forall₂ _ _ _ ?_ _ _ (buildBSONObjectFromMap_eq_ok _ _ _ loop)
  intro e be field
  obtain ⟨function, inner, element, name, made⟩ := mapField_eq_ok _ _ _ field
  rw [name, made, buildBSONObject_element rt t e.2 function inner element,
    reads e.2 function inner element]

end Collections

mutual

theorem refDecode_build (rt : SplRuntime) : (t : SplType) → t.WellFormed → t.ExactLeaves →
    (value : t.Value) → (function : AppendFunction) → (inner : CppValue) →
    buildBSONObject rt t value = .ok (function, inner) →
    refDecode rt t inner.appended = t.kept (t.prune value)
  | .prim p, _, exact, value, function, inner, built => by
      simp only [buildBSONObject, Loops.bind_eq_ok, Loops.pure_eq_ok] at built
      obtain ⟨_, handled, same⟩ := built
      cases same
      exact leafValue_handlePrimitive rt p exact value inner handled
  | .list t, wellFormed, exact, value, function, inner, built => by
      simp only [buildBSONObject, Loops.bind_eq_ok, Loops.pure_eq_ok] at built
      obtain ⟨b, loop, same⟩ := built
      cases same
      have elements := filterMap_elements rt t (refDecode_build rt t wellFormed exact) value b loop
      have kept := refArray_kept (C := List t.Value) (refDecode rt t) id (SplType.list t).kept rfl
        (fun _ _ => rfl) b.b
      rw [elements] at kept
      exact kept
  | .set t, wellFormed, exact, value, function, inner, built => by
      simp only [buildBSONObject, Loops.bind_eq_ok, Loops.pure_eq_ok] at built
      obtain ⟨b, loop, same⟩ := built
      cases same
      have elements := filterMap_elements rt t (refDecode_build rt t wellFormed exact)
        (rt.setOrder t value) b loop
      have kept := refArray_kept (C := Finset t.Value) (refDecode rt t) List.toFinset
        (SplType.set t).kept rfl (fun x xs => if_neg (by simp [SplType.emptyContainer])) b.b
      rw [elements, ← FiniteData.imageSome_coe _ value _ (rt.setOrder_val t value)] at kept
      exact kept
  | .map t, wellFormed, exact, value, function, inner, built => by
      simp only [buildBSONObject, Loops.bind_eq_ok, Loops.pure_eq_ok] at built
      obtain ⟨b, loop, same⟩ := built
      cases same
      have found := filterMap_entries rt t (refDecode_build rt t wellFormed exact)
        (rt.mapOrder t value) b loop
      have kept := refMap_kept rt (refDecode rt t) (fun x => t.kept (t.prune x)) value
        (rt.mapOrder t value) (rt.mapOrder_entries t value) b found
      exact kept.trans (t.kept_map _).symm
  | .tuple attrs, wellFormed, exact, value, function, inner, built => by
      simp only [buildBSONObject, Loops.bind_eq_ok, Loops.pure_eq_ok] at built
      obtain ⟨b, made, same⟩ := built
      cases same
      exact congrArg some
        (refDecodeAttributes_build rt attrs wellFormed.1 wellFormed.2 exact value [] b (by simp)
          made)

theorem refDecodeAttributes_build (rt : SplRuntime) : (attrs : Attributes) → attrs.names.Nodup →
    attrs.WellFormed → attrs.ExactLeaves → (values : attrs.Value) → (b made : BSONObj) →
    (∀ be ∈ b, be.1 ∉ attrs.names) → buildBSONObjectFromTuple rt attrs values b = .ok made →
    refDecodeAttributes rt attrs made = attrs.prune values
  | .nil, _, _, _, _, _, _, _, _ => rfl
  | .cons name t rest, distinct, wellFormed, exact, (value, values), b, made, absent, built => by
      rw [Attributes.names, List.nodup_cons] at distinct
      simp only [buildBSONObjectFromTuple, BSONObjBuilder.append, checkFieldName_chars,
        Loops.bind_eq_ok, Loops.pure_eq_ok] at built
      obtain ⟨⟨function, inner⟩, element, _, ⟨_, same, rfl⟩, later⟩ := built
      cases same
      -- The field just appended is the first of its name, and no later attribute has that name.
      have absentLater : ∀ be ∈ b ++ [(name, function.element inner)], be.1 ∉ rest.names := by
        intro be member
        rcases List.mem_append.mp member with before | here
        · exact fun named => absent be before (List.mem_cons_of_mem _ named)
        · rw [List.mem_singleton.mp here]
          exact distinct.1
      obtain ⟨fields, rfl, _⟩ := buildBSONObjectFromTuple_names rt rest values _ made later
      have head : BSONObj.getField (b ++ [(name, function.element inner)] ++ fields) name =
          some inner.appended := by
        rw [List.append_assoc, BSONObj.getField_append b _ name
          (fun be member same => absent be member (same ▸ List.mem_cons_self ..))]
        simp [buildBSONObject_element rt t value function inner element]
      have tail := refDecodeAttributes_build rt rest distinct.2 wellFormed.2 exact.2 values _ _
        absentLater later
      simp only [refDecodeAttributes, head, tail, Attributes.prune,
        refDecode_build rt t wellFormed.1 exact.1 value function inner element,
        SplType.kept_getD_cleared]
      rfl

end

end BSONCommon

end StreamsMongo
