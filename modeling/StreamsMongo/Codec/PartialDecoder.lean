import StreamsMongo.Codec.QueryCommon
import StreamsMongo.Library.FiniteData

set_option autoImplicit false

namespace StreamsMongo

theorem SplRuntime.mem_mapAdd {A : Type} (rt : SplRuntime) (m : Finmap fun _ : String => A)
    (key other : String) (value : A) : other ∈ rt.mapAdd m key value ↔ other = key ∨ other ∈ m := by
  unfold mapAdd
  split_ifs with present
  · simp [Finmap.mem_insert]
  · constructor
    · exact Or.inr
    · rintro (rfl | member) <;> assumption
  · simp [Finmap.mem_insert]

theorem SplRuntime.mem_foldl_mapAdd {A : Type} (rt : SplRuntime) (entries : List (Σ _ : String, A))
    (m : Finmap fun _ : String => A) (key : String) :
    key ∈ entries.foldl (fun m e => rt.mapAdd m e.1 e.2) m ↔
      key ∈ entries.map Sigma.fst ∨ key ∈ m := by
  induction entries generalizing m with
  | nil => simp
  | cons e rest ih =>
    rw [List.foldl_cons, ih, rt.mem_mapAdd]
    simp only [List.map_cons, List.mem_cons]
    tauto

namespace QueryCommon

variable {A C : Type}

def Target.ofOption (start : Target A) (value : Option A) : Target A :=
  value.elim start .applied

@[simp] theorem Target.ofOption_none (start : Target A) : start.ofOption none = start := rfl

@[simp] theorem Target.ofOption_some (start : Target A) (value : A) :
    start.ofOption (some value) = .applied value := rfl

def leafValue (rt : SplRuntime) : (p : PrimType) → BSONValue → Option p.Value
  | .boolean, .bool boolean => some boolean
  | .decimal d, .numberDouble bits => some (rt.decimalOfDouble d bits)
  | .decimal d, .numberInt int => some (rt.decimalOfDouble d (rt.doubleOfInt int))
  | .decimal d, .numberLong long => some (rt.decimalOfDouble d (rt.doubleOfLong long))
  | .enum first rest, .string str => if valid : str ∈ first :: rest then some ⟨str, valid⟩ else none
  | .float32, .numberDouble bits => some (rt.floatOfDouble bits)
  | .float32, .numberInt int => some (rt.floatOfDouble (rt.doubleOfInt int))
  | .float32, .numberLong long => some (rt.floatOfDouble (rt.doubleOfLong long))
  | .float64, .numberDouble bits => some bits
  | .float64, .numberInt int => some (rt.doubleOfInt int)
  | .float64, .numberLong long => some (rt.doubleOfLong long)
  | .int i, .numberDouble bits => some (rt.intOfDouble i bits)
  | .int i, .numberInt int => some (int.signExtend i.bits)
  | .int i, .numberLong long => some (long.signExtend i.bits)
  | .rstring, .string str => some str
  | .ustring, .string str => some (rt.ustringOfString str)
  | .xml, .string str => some (rt.xmlOfString str)
  | .timestamp, .date millis => some (timestampOfDate millis)
  | _, _ => none

theorem handlePrimitive_eq (rt : SplRuntime) (p : PrimType) (be : BSONValue)
    (target : Target p.Value) :
    handlePrimitive rt p be target = target.ofOption (leafValue rt p be) := by
  cases p with
  | enum first rest =>
    cases be <;> try rfl
    next str =>
      by_cases valid : str ∈ first :: rest <;>
        simp [handlePrimitive, handleEnum, leafValue, BSONValue.isSimpleType, BSONValue.type,
          BSONValue.str, valid]; rfl
  | _ => cases be <;> rfl

theorem readElements_eq (read : BSONValue → Target A) (value : BSONValue → Option A) (init : A)
    (reads : ∀ be, read be = (⟨init, false⟩ : Target A).ofOption (value be))
    (add : C → BSONElement → A → C) (it : BSONObj) (attr : C) :
    readElements read add it attr =
      (it.filterMap fun be => (value be.2).map fun inner => (be, inner)).foldl
        (fun attr found => add attr found.1 found.2) attr := by
  rw [List.foldl_filterMap]
  unfold readElements
  congr 1
  funext attr be
  rw [reads]
  cases value be.2 <;> rfl

def refArray (value : BSONValue → Option A) (collect : List A → C) (be : BSONValue) : Option C :=
  if be.type = .array then
    match be.embeddedObject.filterMap fun e => value e.2 with
    | [] => none
    | found :: rest => some (collect (found :: rest))
  else none

def refMap (rt : SplRuntime) (value : BSONValue → Option A) (be : BSONValue) :
    Option (Finmap fun _ : String => A) :=
  if be.type = .object then
    match be.embeddedObject.filterMap fun e =>
        (value e.2).map (@Sigma.mk String (fun _ => A) e.1.chars) with
    | [] => none
    | found :: rest => some ((found :: rest).foldl (fun m e => rt.mapAdd m e.1 e.2) ∅)
  else none

theorem refArray_array (value : BSONValue → Option A) (collect : List A → C) (arr : BSONObj) :
    refArray value collect (.array arr) =
      match arr.filterMap fun e => value e.2 with
      | [] => none
      | found :: rest => some (collect (found :: rest)) := rfl

theorem refMap_object (rt : SplRuntime) (value : BSONValue → Option A) (bo : BSONObj) :
    refMap rt value (.object bo) =
      match bo.filterMap fun e => (value e.2).map (@Sigma.mk String (fun _ => A) e.1.chars) with
      | [] => none
      | found :: rest => some ((found :: rest).foldl (fun m e => rt.mapAdd m e.1 e.2) ∅) := rfl

theorem handleBSONArray_cleared (read : BSONValue → Target A) (value : BSONValue → Option A)
    (init : A) (reads : ∀ be, read be = (⟨init, false⟩ : Target A).ofOption (value be))
    (add : C → A → C) (getSize : C → Nat) (empty : C) (collect : List A → C)
    (collects : ∀ xs, xs.foldl add empty = collect xs) (sizeEmpty : getSize empty = 0)
    (size : ∀ x xs, 0 < getSize (collect (x :: xs))) (be : BSONValue) (flag : Bool) :
    handleBSONArray read add getSize be ⟨empty, flag⟩ =
      (⟨empty, flag⟩ : Target C).ofOption (refArray value collect be) := by
  unfold handleBSONArray refArray
  by_cases array : be.type = .array
  · have loop : readElements read (fun attr _ inner => add attr inner) be.embeddedObject empty =
        collect (be.embeddedObject.filterMap fun e => value e.2) := by
      rw [readElements_eq read value init reads, ← collects, List.foldl_filterMap,
        List.foldl_filterMap]
      congr 1
      funext attr e
      cases value e.2 <;> rfl
    simp only [array, if_true, loop]
    cases found : be.embeddedObject.filterMap fun e => value e.2 with
    | nil => simp [← collects, sizeEmpty]
    | cons x xs => simp [size, Target.applied]
  · simp [array]

theorem handleBSONObjectAsMap_cleared (rt : SplRuntime) (read : BSONValue → Target A)
    (value : BSONValue → Option A) (init : A)
    (reads : ∀ be, read be = (⟨init, false⟩ : Target A).ofOption (value be)) (be : BSONValue)
    (flag : Bool) :
    handleBSONObjectAsMap rt read be ⟨∅, flag⟩ =
      (⟨∅, flag⟩ : Target (Finmap fun _ : String => A)).ofOption (refMap rt value be) := by
  unfold handleBSONObjectAsMap refMap
  by_cases object : be.type = .object
  · have loop :
        readElements read (fun attr be inner => rt.mapAdd attr be.1.chars inner)
            be.embeddedObject ∅ =
          (be.embeddedObject.filterMap fun e =>
            (value e.2).map (@Sigma.mk String (fun _ => A) e.1.chars)).foldl
              (fun m e => rt.mapAdd m e.1 e.2) ∅ := by
      rw [readElements_eq read value init reads, List.foldl_filterMap, List.foldl_filterMap]
      congr 1
      funext attr e
      cases value e.2 <;> rfl
    simp only [object, if_true, loop]
    cases found : be.embeddedObject.filterMap fun e =>
        (value e.2).map (@Sigma.mk String (fun _ => A) e.1.chars) with
    | nil => rfl
    | cons e rest =>
      have member : e.1 ∈ (e :: rest).foldl (fun m e => rt.mapAdd m e.1 e.2) ∅ :=
        (rt.mem_foldl_mapAdd (e :: rest) ∅ e.1).mpr (Or.inl (by simp))
      have size : 0 < ((e :: rest).foldl (fun m e => rt.mapAdd m e.1 e.2) ∅).entries.card :=
        FiniteData.card_entries_pos _ e.1 member
      simp only [gt_iff_lt, size, if_true]
      rfl
  · simp [object]

theorem foldl_concat (xs init : List A) : xs.foldl (fun l x => l ++ [x]) init = init ++ xs := by
  induction xs generalizing init with
  | nil => simp
  | cons x xs ih => simp [ih]

mutual

/-- No flags and no targets, only the elements that have a value. -/
def refDecode (rt : SplRuntime) : (t : SplType) → BSONValue → Option t.Value
  | .prim p, be => leafValue rt p be
  | .list t, be => refArray (C := List t.Value) (refDecode rt t) id be
  | .set t, be => refArray (C := Finset t.Value) (refDecode rt t) List.toFinset be
  | .map t, be => refMap rt (refDecode rt t) be
  | .tuple attrs, be =>
      if be.type = .object then some (refDecodeAttributes rt attrs be.embeddedObject) else none

def refDecodeAttributes (rt : SplRuntime) : (attrs : Attributes) → BSONObj → attrs.Value
  | .nil, _ => ()
  | .cons name t rest, bo =>
      (match BSONObj.getField bo name with
        | some be => (refDecode rt t be).getD t.cleared
        | none => t.cleared,
        refDecodeAttributes rt rest bo)

end

mutual

-- Structural recursion on the type: the element decoder is replaced by its pure form first.
theorem handleBSONObject_cleared (rt : SplRuntime) : (t : SplType) → (be : BSONValue) →
    (flag : Bool) → handleBSONObject rt t be ⟨t.cleared, flag⟩ =
      (⟨t.cleared, flag⟩ : Target t.Value).ofOption (refDecode rt t be)
  | .prim p, be, flag => handlePrimitive_eq rt p be _
  | .list t, be, flag => by
      have reads := fun be => handleBSONObject_cleared rt t be false
      exact handleBSONArray_cleared _ _ t.cleared reads _ List.length [] id
        (fun xs => foldl_concat xs []) rfl (by simp) be flag
  | .set t, be, flag => by
      have reads := fun be => handleBSONObject_cleared rt t be false
      exact handleBSONArray_cleared _ _ t.cleared reads _ Finset.card ∅ List.toFinset
        (fun xs => by rw [FiniteData.foldl_insert, Finset.union_empty]) rfl
        (fun x xs => Finset.card_pos.mpr ⟨x, by simp⟩) be flag
  | .map t, be, flag => by
      have reads := fun be => handleBSONObject_cleared rt t be false
      exact handleBSONObjectAsMap_cleared rt _ _ t.cleared reads be flag
  | .tuple attrs, be, flag => by
      have attributes := handleBSONObjectAsTuple_cleared rt attrs be.embeddedObject flag
      by_cases object : be.type = .object
      · simp only [handleBSONObject, refDecode, object, if_true]
        exact congrArg Target.applied attributes
      · simp [handleBSONObject, refDecode, object]

theorem handleBSONObjectAsTuple_cleared (rt : SplRuntime) : (attrs : Attributes) → (bo : BSONObj) →
    (flag : Bool) → (handleBSONObjectAsTuple rt attrs bo ⟨attrs.cleared, flag⟩).attr =
      refDecodeAttributes rt attrs bo
  | .nil, _, _ => rfl
  | .cons name t rest, bo, flag => by
      simp only [handleBSONObjectAsTuple, refDecodeAttributes, Attributes.cleared]
      rw [handleBSONObjectAsTuple_cleared rt rest bo]
      cases found : BSONObj.getField bo name with
      | none => rfl
      | some be =>
        simp only [handleBSONObject_cleared rt t be flag]
        cases refDecode rt t be <;> rfl

end

theorem Target.ofOption_attr (attr : A) (flag : Bool) (value : Option A) :
    ((⟨attr, flag⟩ : Target A).ofOption value).attr = value.getD attr := by
  cases value <;> rfl

def readValue (rt : SplRuntime) (lib : DriverLibrary) (attrName : FieldName)
    (attrNameNotInBO : Bool) (findPath : Option String) (t : SplType) (queryResultBO : BSONObj) :
    Option t.Value := do
  let bo0 ← initBSONObject lib attrName attrNameNotInBO findPath queryResultBO
  let be ← bo0.getField attrName
  refDecode rt t be

theorem readAttribute_cleared (rt : SplRuntime) (lib : DriverLibrary) (attrName : FieldName)
    (attrNameNotInBO : Bool) (findPath : Option String) (t : SplType) (queryResultBO : BSONObj) :
    readAttribute rt lib attrName attrNameNotInBO findPath t queryResultBO t.cleared =
      (⟨t.cleared, false⟩ : Target t.Value).ofOption
        (readValue rt lib attrName attrNameNotInBO findPath t queryResultBO) := by
  unfold readAttribute readValue
  cases initBSONObject lib attrName attrNameNotInBO findPath queryResultBO with
  | none => rfl
  | some bo0 =>
    cases found : bo0.getField attrName with
    | none => simp [found]
    | some be => simp [found, handleBSONObject_cleared]

end QueryCommon

end StreamsMongo
