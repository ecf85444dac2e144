import StreamsMongo.Codec.Integers
import StreamsMongo.Library.FiniteData

set_option autoImplicit false

namespace StreamsMongo

def PrimType.Unbounded : PrimType → Type
  | .int _ => Int
  | p => p.Value

mutual

-- Integers without a width.
def SplType.Unbounded : SplType → Type
  | .prim p => p.Unbounded
  | .list t => List t.Unbounded
  | .set t => Finset t.Unbounded
  | .map t => Finmap fun _ : String => t.Unbounded
  | .tuple attrs => attrs.Unbounded

def Attributes.Unbounded : Attributes → Type
  | .nil => Unit
  | .cons _ t rest => t.Unbounded × rest.Unbounded

end

noncomputable instance (t : SplType) : DecidableEq t.Unbounded := Classical.decEq _

def PrimType.widen : (p : PrimType) → p.Value → p.Unbounded
  | .int i, n => i.number n
  | .blob, v | .boolean, v | .complex32, v | .complex64, v | .decimal _, v | .enum _ _, v
  | .float32, v | .float64, v | .rstring, v | .timestamp, v | .ustring, v | .xml, v => v

def PrimType.cut : (p : PrimType) → p.Unbounded → p.Value
  | .int i, n => BitVec.ofInt i.bits n
  | .blob, v | .boolean, v | .complex32, v | .complex64, v | .decimal _, v | .enum _ _, v
  | .float32, v | .float64, v | .rstring, v | .timestamp, v | .ustring, v | .xml, v => v

mutual

noncomputable def SplType.widen : (t : SplType) → t.Value → t.Unbounded
  | .prim p, value => p.widen value
  | .list t, (xs : List t.Value) => xs.map t.widen
  | .set t, (s : Finset t.Value) => s.image t.widen
  | .map t, (m : Finmap fun _ : String => t.Value) => FiniteData.mapValues t.widen m
  | .tuple attrs, values => attrs.widen values

noncomputable def Attributes.widen : (attrs : Attributes) → attrs.Value → attrs.Unbounded
  | .nil, _ => ()
  | .cons _ t rest, values => (t.widen values.1, rest.widen values.2)

end

mutual

def SplType.cut : (t : SplType) → t.Unbounded → t.Value
  | .prim p, value => p.cut value
  | .list t, (xs : List t.Unbounded) => xs.map t.cut
  | .set t, (s : Finset t.Unbounded) => s.image t.cut
  | .map t, (m : Finmap fun _ : String => t.Unbounded) => FiniteData.mapValues t.cut m
  | .tuple attrs, values => attrs.cut values

def Attributes.cut : (attrs : Attributes) → attrs.Unbounded → attrs.Value
  | .nil, _ => ()
  | .cons _ t rest, values => (t.cut values.1, rest.cut values.2)

end

def PrimType.InRange : (p : PrimType) → p.Unbounded → Prop
  | .int i, n => i.Holds n
  | .blob, _ | .boolean, _ | .complex32, _ | .complex64, _ | .decimal _, _ | .enum _ _, _
  | .float32, _ | .float64, _ | .rstring, _ | .timestamp, _ | .ustring, _ | .xml, _ => True

mutual

def SplType.InRange : (t : SplType) → t.Unbounded → Prop
  | .prim p, value => p.InRange value
  | .list t, (xs : List t.Unbounded) => ∀ x ∈ xs, t.InRange x
  | .set t, (s : Finset t.Unbounded) => ∀ x ∈ s, t.InRange x
  | .map t, (m : Finmap fun _ : String => t.Unbounded) => ∀ e ∈ m.entries, t.InRange e.2
  | .tuple attrs, values => attrs.InRange values

def Attributes.InRange : (attrs : Attributes) → attrs.Unbounded → Prop
  | .nil, _ => True
  | .cons _ t rest, values => t.InRange values.1 ∧ rest.InRange values.2

end

theorem PrimType.cut_widen (p : PrimType) (value : p.Value) : p.cut (p.widen value) = value := by
  cases p with
  | int i => exact Words.ofInt_value i.signed value
  | _ => rfl

theorem PrimType.widen_cut_iff (p : PrimType) (value : p.Unbounded) :
    p.widen (p.cut value) = value ↔ p.InRange value := by
  cases p with
  | int i => exact Words.value_ofInt_eq_iff i.signed i.bits value
  | _ => exact iff_of_true rfl trivial

mutual

theorem SplType.cut_widen : (t : SplType) → (value : t.Value) → t.cut (t.widen value) = value
  | .prim p, value => p.cut_widen value
  | .list t, value => by
      refine (List.map_map (f := t.widen) (g := t.cut) (l := value)).trans ?_
      exact List.map_id'' t.cut_widen value
  | .set t, value => by
      refine Finset.image_image.trans ?_
      rw [show t.cut ∘ t.widen = id from funext t.cut_widen]
      exact Finset.image_id
  | .map t, value => by
      have fixed := FiniteData.mapValues_eq_self_iff (fun x => t.cut (t.widen x))
        (fun x => by simp only [t.cut_widen]) value
      refine (FiniteData.mapValues_mapValues t.cut t.widen value).trans (fixed.mpr ?_)
      exact fun e _ => t.cut_widen e.2
  | .tuple attrs, values => attrs.cut_widen values

theorem Attributes.cut_widen : (attrs : Attributes) → (values : attrs.Value) →
    attrs.cut (attrs.widen values) = values
  | .nil, () => rfl
  | .cons _ t rest, values => Prod.ext (t.cut_widen values.1) (rest.cut_widen values.2)

end

mutual

theorem SplType.widen_cut_iff : (t : SplType) → (value : t.Unbounded) →
    (t.widen (t.cut value) = value ↔ t.InRange value)
  | .prim p, value => p.widen_cut_iff value
  | .list t, (value : List t.Unbounded) => by
      refine (Eq.congr_left (List.map_map (f := t.cut) (g := t.widen) (l := value))).trans ?_
      constructor
      · intro same x member
        have kept := List.map_inj_left.mp (same.trans (List.map_id value).symm) x member
        exact (t.widen_cut_iff x).mp kept
      · intro all
        have kept (x : t.Unbounded) (member : x ∈ value) : t.widen (t.cut x) = x :=
          (t.widen_cut_iff x).mpr (all x member)
        exact (List.map_congr_left kept).trans (List.map_id value)
  | .set t, value => by
      have idempotent (x : t.Unbounded) :
          t.widen (t.cut (t.widen (t.cut x))) = t.widen (t.cut x) := by rw [t.cut_widen]
      have fixed := FiniteData.image_eq_self_iff (fun x => t.widen (t.cut x)) idempotent value
      simp only [t.widen_cut_iff] at fixed
      exact (Eq.congr_left Finset.image_image).trans fixed
  | .map t, value => by
      have idempotent (x : t.Unbounded) :
          t.widen (t.cut (t.widen (t.cut x))) = t.widen (t.cut x) := by rw [t.cut_widen]
      have fixed := FiniteData.mapValues_eq_self_iff (fun x => t.widen (t.cut x)) idempotent
        value
      simp only [t.widen_cut_iff] at fixed
      exact (Eq.congr_left (FiniteData.mapValues_mapValues t.widen t.cut value)).trans fixed
  | .tuple attrs, values => attrs.widen_cut_iff values

theorem Attributes.widen_cut_iff : (attrs : Attributes) → (values : attrs.Unbounded) →
    (attrs.widen (attrs.cut values) = values ↔ attrs.InRange values)
  | .nil, _ => iff_of_true rfl trivial
  | .cons _ t rest, values =>
      Prod.ext_iff.trans (and_congr (t.widen_cut_iff values.1) (rest.widen_cut_iff values.2))

end

namespace QueryCommon

variable {A B C D : Type}

def Target.map (f : A → B) (target : Target A) : Target B :=
  ⟨f target.attr, target.valueApplied⟩

def exactInt (rt : SplRuntime) (i : IntType) (be : BSONValue) (target : Target Int) :
    Target Int :=
  match be with
  | .numberDouble bits => .applied (i.number (rt.intOfDouble i bits))
  | .numberInt int => .applied int.toInt
  | .numberLong long => .applied long.toInt
  | _ => target

def exactPrimitive (rt : SplRuntime) :
    (p : PrimType) → BSONValue → Target p.Unbounded → Target p.Unbounded
  | .int i, be, target => exactInt rt i be target
  | p, be, target => (handlePrimitive rt p be (target.map p.cut)).map p.widen

mutual

/-- The decoder without a width: a stored integer is applied as the number it is. -/
noncomputable def exactBSONObject (rt : SplRuntime) :
    (t : SplType) → BSONValue → Target t.Unbounded → Target t.Unbounded
  | .prim p, be, target => exactPrimitive rt p be target
  | .list t, be, target =>
      handleBSONArray (C := List t.Unbounded)
        (fun be => exactBSONObject rt t be ⟨t.widen t.cleared, false⟩)
        (fun attr inner => attr ++ [inner]) List.length be target
  | .set t, be, target =>
      handleBSONArray (C := Finset t.Unbounded)
        (fun be => exactBSONObject rt t be ⟨t.widen t.cleared, false⟩)
        (fun attr inner => insert inner attr) Finset.card be target
  | .map t, be, target =>
      handleBSONObjectAsMap rt (fun be => exactBSONObject rt t be ⟨t.widen t.cleared, false⟩) be
        target
  | .tuple attrs, be, target =>
      if be.type = .object then
        .applied (exactBSONObjectAsTuple rt attrs be.embeddedObject target).attr
      else target

noncomputable def exactBSONObjectAsTuple (rt : SplRuntime) :
    (attrs : Attributes) → BSONObj → Target attrs.Unbounded → Target attrs.Unbounded
  | .nil, _, target => target
  | .cons name t rest, bo, target =>
      let head : Target t.Unbounded :=
        match BSONObj.getField bo name with
        | some be => exactBSONObject rt t be ⟨target.attr.1, target.valueApplied⟩
        | none => ⟨target.attr.1, target.valueApplied⟩
      let tail := exactBSONObjectAsTuple rt rest bo ⟨target.attr.2, head.valueApplied⟩
      ⟨(head.attr, tail.attr), tail.valueApplied⟩

end

theorem exactInt_stored (rt : SplRuntime) (i : IntType) (be : BSONValue) (n : Int)
    (stored : be.storedInteger = some n) (target : Target Int) :
    exactInt rt i be target = .applied n := by
  cases be with
  | numberInt | numberLong =>
    cases stored
    rfl
  | _ => cases stored

theorem exactInt_cut (rt : SplRuntime) (i : IntType) (be : BSONValue) (target : Target Int) :
    (exactInt rt i be target).map (BitVec.ofInt i.bits) =
      handlePrimitive rt (.int i) be (target.map (BitVec.ofInt i.bits)) := by
  cases be with
  | numberDouble bits => exact congrArg Target.applied (Words.ofInt_value i.signed _)
  | _ => rfl

theorem exactPrimitive_cut (rt : SplRuntime) (p : PrimType) (be : BSONValue)
    (target : Target p.Unbounded) :
    (exactPrimitive rt p be target).map p.cut = handlePrimitive rt p be (target.map p.cut) := by
  cases p with
  | int i => exact exactInt_cut rt i be target
  | _ => rfl

-- A loop commutes with a map of its collection when each round does.
theorem readElements_map (read : BSONValue → Target A) (add : C → BSONElement → A → C)
    (cutInner : A → B) (cut : C → D) (addCut : D → BSONElement → B → D)
    (step : ∀ attr be inner, cut (add attr be inner) = addCut (cut attr) be (cutInner inner))
    (it : BSONObj) (attr : C) :
    cut (readElements read add it attr) =
      readElements (fun be => (read be).map cutInner) addCut it (cut attr) := by
  induction it generalizing attr with
  | nil => rfl
  | cons be rest ih =>
    simp only [readElements, List.foldl_cons] at ih ⊢
    rw [ih]
    congr 1
    cases applied : (read be.2).valueApplied with
    | false => simp only [Target.map, applied, Bool.false_eq_true, if_false]
    | true => simp only [Target.map, applied, if_true, step]

theorem handleBSONArray_map (read : BSONValue → Target A) (add : C → A → C) (getSize : C → Nat)
    (cutInner : A → B) (cut : C → D) (addCut : D → B → D) (getSizeCut : D → Nat)
    (step : ∀ attr inner, cut (add attr inner) = addCut (cut attr) (cutInner inner))
    (size : ∀ attr, getSizeCut (cut attr) > 0 ↔ getSize attr > 0) (be : BSONValue)
    (target : Target C) :
    (handleBSONArray read add getSize be target).map cut =
      handleBSONArray (fun be => (read be).map cutInner) addCut getSizeCut be (target.map cut) := by
  unfold handleBSONArray
  split_ifs
  · have loop := readElements_map read (fun attr _ inner => add attr inner) cutInner cut
      (fun attr _ inner => addCut attr inner) (fun attr _ inner => step attr inner)
      be.embeddedObject target.attr
    refine congrArg₂ Target.mk loop (if_congr ?_ rfl rfl)
    rw [← size, loop]
    rfl
  · rfl

theorem handleBSONObjectAsMap_map (rt : SplRuntime) (read : BSONValue → Target A)
    (cutInner : A → B) (be : BSONValue) (target : Target (Finmap fun _ : String => A)) :
    (handleBSONObjectAsMap rt read be target).map (FiniteData.mapValues cutInner) =
      handleBSONObjectAsMap rt (fun be => (read be).map cutInner) be
        (target.map (FiniteData.mapValues cutInner)) := by
  unfold handleBSONObjectAsMap
  split_ifs
  · have step (attr : Finmap fun _ : String => A) (be : BSONElement) (inner : A) :
        FiniteData.mapValues cutInner (rt.mapAdd attr be.1.chars inner) =
          rt.mapAdd (FiniteData.mapValues cutInner attr) be.1.chars (cutInner inner) := by
      simp only [SplRuntime.mapAdd, FiniteData.mem_mapValues, apply_ite
        (FiniteData.mapValues cutInner), FiniteData.mapValues_insert]
    have loop := readElements_map read (fun attr be inner => rt.mapAdd attr be.1.chars inner)
      cutInner (FiniteData.mapValues cutInner)
      (fun attr be inner => rt.mapAdd attr be.1.chars inner) step be.embeddedObject target.attr
    refine congrArg₂ Target.mk loop (if_congr ?_ rfl rfl)
    rw [← FiniteData.card_mapValues cutInner, loop]
    rfl
  · rfl

theorem entries_cut (rt : SplRuntime) (t : SplType)
    (reads : ∀ be target, (exactBSONObject rt t be target).map t.cut =
      handleBSONObject rt t be (target.map t.cut)) :
    (fun be => (exactBSONObject rt t be ⟨t.widen t.cleared, false⟩).map t.cut) =
      fun be => handleBSONObject rt t be ⟨t.cleared, false⟩ := by
  funext be
  rw [reads, Target.map, t.cut_widen]

mutual

theorem exactBSONObject_cut (rt : SplRuntime) : (t : SplType) → (be : BSONValue) →
    (target : Target t.Unbounded) →
    (exactBSONObject rt t be target).map t.cut = handleBSONObject rt t be (target.map t.cut)
  | .prim p, be, target => exactPrimitive_cut rt p be target
  | .list t, be, target => by
      refine (handleBSONArray_map (C := List t.Unbounded) (D := List t.Value) _ _ _ t.cut
        (List.map t.cut) (fun attr inner => attr ++ [inner]) List.length ?_ ?_ be target).trans ?_
      · exact fun attr inner => by simp
      · exact fun attr => by simp
      · rw [entries_cut rt t (exactBSONObject_cut rt t)]
        rfl
  | .set t, be, target => by
      refine (handleBSONArray_map (C := Finset t.Unbounded) (D := Finset t.Value) _ _ _ t.cut
        (Finset.image t.cut) (fun attr inner => insert inner attr) Finset.card ?_ ?_ be
        target).trans ?_
      · exact fun attr inner => Finset.image_insert ..
      · exact fun attr => by simp [Finset.card_pos]
      · rw [entries_cut rt t (exactBSONObject_cut rt t)]
        rfl
  | .map t, be, target => by
      refine (handleBSONObjectAsMap_map rt _ t.cut be target).trans ?_
      rw [entries_cut rt t (exactBSONObject_cut rt t)]
      rfl
  | .tuple attrs, be, target => by
      have attributes := exactBSONObjectAsTuple_cut rt attrs be.embeddedObject target
      by_cases object : be.type = .object
      · simp only [exactBSONObject, handleBSONObject, object, if_true]
        exact congrArg (fun target => Target.applied target.attr) attributes
      · simp only [exactBSONObject, handleBSONObject, object, if_false]

theorem exactBSONObjectAsTuple_cut (rt : SplRuntime) : (attrs : Attributes) → (bo : BSONObj) →
    (target : Target attrs.Unbounded) →
    (exactBSONObjectAsTuple rt attrs bo target).map attrs.cut =
      handleBSONObjectAsTuple rt attrs bo (target.map attrs.cut)
  | .nil, _, _ => rfl
  | .cons name t rest, bo, target => by
      have joined (head : Target t.Unbounded) := congrArg
        (fun tail : Target rest.Value =>
          (⟨(t.cut head.attr, tail.attr), tail.valueApplied⟩ : Target (t.Value × rest.Value)))
        (exactBSONObjectAsTuple_cut rt rest bo ⟨target.attr.2, head.valueApplied⟩)
      simp only [exactBSONObjectAsTuple, handleBSONObjectAsTuple]
      cases BSONObj.getField bo name with
      | none => exact joined ⟨target.attr.1, target.valueApplied⟩
      | some be =>
        have head := exactBSONObject_cut rt t be ⟨target.attr.1, target.valueApplied⟩
        refine (joined _).trans ?_
        simp only [Target.map, Attributes.cut] at head ⊢
        rw [← head]
        rfl

end

/-- The decoder without a width, each integer of its result cut to its type. -/
theorem integer_reads_cut (rt : SplRuntime) (t : SplType) (be : BSONValue)
    (target : Target t.Value) :
    let exact := exactBSONObject rt t be (target.map t.widen)
    handleBSONObject rt t be target = exact.map t.cut ∧
    (t.widen (handleBSONObject rt t be target).attr = exact.attr ↔ t.InRange exact.attr) ∧
    (∀ i inner n before, BSONValue.storedInteger inner = some n →
      exactBSONObject rt (.prim (.int i)) inner before = .applied n) ∧
    ∀ (i : IntType) n, i.number (BitVec.ofInt i.bits n) ≡ n [ZMOD 2 ^ i.bits] ∧
      (i.number (BitVec.ofInt i.bits n) = n ↔ i.Holds n) := by
  intro exact
  have reads : handleBSONObject rt t be target = exact.map t.cut := by
    have before : (target.map t.widen).map t.cut = target := by
      simp only [Target.map, t.cut_widen]
    rw [exactBSONObject_cut, before]
  refine ⟨reads, ?_, fun i inner n before stored => exactInt_stored rt i inner n stored before,
    fun i n => ⟨Words.value_ofInt .., Words.value_ofInt_eq_iff ..⟩⟩
  rw [reads]
  exact t.widen_cut_iff exact.attr

def repeatedKey : BSONValue :=
  .object [(⟨"level", by decide⟩, .numberInt 300#32), (⟨"level", by decide⟩, .numberLong 7#64)]

theorem integer_reads_cut_repeated :
    handleBSONObject .plain (.map (.prim (.int .int8))) repeatedKey ⟨(∅ : Finmap _), false⟩ =
        (exactBSONObject .plain (.map (.prim (.int .int8))) repeatedKey
          ⟨(∅ : Finmap _), false⟩).map (SplType.map (.prim (.int .int8))).cut ∧
      exactBSONObject .plain (.prim (.int .int8)) (.numberInt 300#32) ⟨(0 : Int), false⟩ =
        .applied (300 : Int) := by
  obtain ⟨reads, -, exact, -⟩ := integer_reads_cut .plain (.map (.prim (.int .int8))) repeatedKey
    ⟨(∅ : Finmap fun _ : String => BitVec 8), false⟩
  exact ⟨reads, exact .int8 (.numberInt 300#32) 300 ⟨(0 : Int), false⟩ rfl⟩

theorem integer_300_cut_at_int8 :
    ¬ ∀ (rt : SplRuntime) (i : IntType) (be : BSONValue) (target : Target (BitVec i.bits))
      (n : Int), be.storedInteger = some n → target.valueApplied = false →
      let read := handleBSONObject rt (.prim (.int i)) be target
      i.number read.attr = n ∨ read = target := by
  intro honest
  rcases honest .plain .int8 (.numberInt 300#32) ⟨0#8, false⟩ 300 rfl rfl with equal | skipped
  · revert equal
    decide
  · cases congrArg Target.valueApplied skipped

end QueryCommon

end StreamsMongo
