import StreamsMongo.Codec.BSONCommon
import StreamsMongo.Library.Loops

set_option autoImplicit false

namespace StreamsMongo

mutual

-- The generator reports an error for a type with a complex leaf.
def SplType.Supported : SplType → Prop
  | .prim p => p ≠ .complex32 ∧ p ≠ .complex64
  | .list t | .set t | .map t => t.Supported
  | .tuple attrs => attrs.Supported

def Attributes.Supported : Attributes → Prop
  | .nil => True
  | .cons _ t rest => t.Supported ∧ rest.Supported

end

mutual

def SplType.KeysClean : (t : SplType) → t.Value → Prop
  | .prim _, _ => True
  | .list t, value =>
      let values : List t.Value := value
      ∀ x ∈ values, t.KeysClean x
  | .set t, value =>
      let values : Finset t.Value := value
      ∀ x ∈ values, t.KeysClean x
  | .map t, value =>
      let values : Finmap fun _ : String => t.Value := value
      ∀ e ∈ values.entries, nul ∉ e.1.toList ∧ t.KeysClean e.2
  | .tuple attrs, value => attrs.KeysClean value

def Attributes.KeysClean : (attrs : Attributes) → attrs.Value → Prop
  | .nil, _ => True
  | .cons _ t rest, (value, values) => t.KeysClean value ∧ rest.KeysClean values

end

def nulInName : Raised := .uassert "field name cannot contain null bytes"

theorem checkFieldName_settles (name : String) :
    Loops.Settles (nul ∉ name.toList) nulInName (checkFieldName name) where
  returns clean := ⟨_, checkFieldName_ok name clean⟩
  raises dirty := checkFieldName_error name (Classical.not_not.mp dirty)

theorem checkFieldName_eq_ok (text : String) (name : FieldName)
    (checked : checkFieldName text = .ok name) : name.chars = text := by
  unfold checkFieldName at checked
  split at checked
  · cases checked
  · cases checked
    rfl

theorem BSONObjBuilder.append_settles (b : BSONObj) (function : AppendFunction)
    (fieldName : String) (value : CppValue) :
    Loops.Settles (nul ∉ fieldName.toList) nulInName
      (BSONObjBuilder.append b function fieldName value) :=
  ((checkFieldName_settles fieldName).bind fun _ => Loops.Settles.ok nulInName _).congr (by simp)

def indexName (i : Nat) : FieldName := ⟨toString i, digits_noNul i⟩

@[simp] theorem BSONArrayBuilder.append_ok (builder : BSONArrayBuilder) (value : CppValue) :
    builder.append value =
      .ok ⟨builder.i + 1, builder.b ++ [(indexName builder.i, value.appended)]⟩ := by
  have named : checkFieldName (toString builder.i) = .ok (indexName builder.i) :=
    checkFieldName_chars (indexName builder.i)
  simp only [BSONArrayBuilder.append, BSONObjBuilder.append, named]
  rfl

def arrayFields (i : Nat) : List CppValue → BSONObj
  | [] => []
  | inner :: rest => (indexName i, inner.appended) :: arrayFields (i + 1) rest

theorem filterMap_arrayFields {A : Type} (read : BSONValue → Option A) (i : Nat)
    (inners : List CppValue) :
    (arrayFields i inners).filterMap (fun be => read be.2) =
      inners.filterMap fun inner => read inner.appended := by
  induction inners generalizing i with
  | nil => rfl
  | cons inner rest ih => simp only [arrayFields, List.filterMap_cons, ih]

theorem SplRuntime.mem_setOrder (rt : SplRuntime) (t : SplType) (s : Finset t.Value)
    (x : t.Value) : x ∈ rt.setOrder t s ↔ x ∈ s := by
  rw [← Multiset.mem_coe, rt.setOrder_val, Finset.mem_val]

theorem SplRuntime.mem_mapOrder (rt : SplRuntime) (t : SplType)
    (m : Finmap fun _ : String => t.Value) (e : Σ _ : String, t.Value) :
    e ∈ rt.mapOrder t m ↔ e ∈ m.entries := by
  rw [← Multiset.mem_coe, rt.mapOrder_entries]

namespace BSONCommon

variable {A : Type}

theorem buildBSONObjectFromListOrSet_eq_ok (build : A → Except Raised (AppendFunction × CppValue))
    (values : List A) (start b : BSONArrayBuilder)
    (built : values.foldlM (fun b value => do
      let (_, inner) ← build value
      b.append inner) start = .ok b) :
    ∃ inners, List.Forall₂ (fun value inner => ∃ function, build value = .ok (function, inner))
      values inners ∧ b.b = start.b ++ arrayFields start.i inners := by
  induction values generalizing start with
  | nil =>
    cases built
    exact ⟨[], .nil, by simp [arrayFields]⟩
  | cons value values ih =>
    rw [List.foldlM_cons, Loops.bind_eq_ok] at built
    obtain ⟨next, round, later⟩ := built
    rw [Loops.bind_eq_ok] at round
    obtain ⟨⟨function, inner⟩, first, appended⟩ := round
    have next_eq := (BSONArrayBuilder.append_ok start inner).symm.trans appended
    cases next_eq
    obtain ⟨inners, rounds, fields⟩ := ih _ later
    exact ⟨inner :: inners, .cons ⟨function, first⟩ rounds, by simp [fields, arrayFields]⟩

-- One round of the map loop, apart from the object it appends to.
def mapField (build : A → Except Raised (AppendFunction × CppValue)) (value : Σ _ : String, A) :
    Except Raised BSONElement := do
  let (appendFunction, inner) ← build value.2
  let name ← checkFieldName value.1
  return (name, appendFunction.element inner)

theorem mapField_eq_ok (build : A → Except Raised (AppendFunction × CppValue))
    (value : Σ _ : String, A) (be : BSONElement) (made : mapField build value = .ok be) :
    ∃ function inner, build value.2 = .ok (function, inner) ∧ be.1.chars = value.1 ∧
      be.2 = function.element inner := by
  simp only [mapField, Loops.bind_eq_ok, Loops.pure_eq_ok] at made
  obtain ⟨⟨function, inner⟩, built, name, checked, rfl⟩ := made
  exact ⟨function, inner, built, checkFieldName_eq_ok _ _ checked, rfl⟩

theorem buildBSONObjectFromMap_eq_ok (build : A → Except Raised (AppendFunction × CppValue))
    (values : List (Σ _ : String, A)) (b : BSONObj)
    (built : buildBSONObjectFromMap build values = .ok b) :
    List.Forall₂ (fun value be => mapField build value = .ok be) values b := by
  have rounds : (fun (b : BSONObj) (value : Σ _ : String, A) => (do
      let (appendFunction, inner) ← build value.2
      BSONObjBuilder.append b appendFunction value.1 inner : Except Raised BSONObj)) =
      fun b value => do return b ++ [← mapField build value] := by
    funext b value
    simp only [mapField, BSONObjBuilder.append]
    cases build value.2 with
    | error _ => rfl
    | ok made =>
      cases checkFieldName value.1 <;> rfl
  rw [buildBSONObjectFromMap, rounds, Loops.foldlM_concat_eq_ok] at built
  obtain ⟨added, each, rfl⟩ := built
  exact each

theorem buildBSONObjectFromListOrSet_settles
    (build : A → Except Raised (AppendFunction × CppValue)) (clean : A → Prop)
    (builds : ∀ x, Loops.Settles (clean x) nulInName (build x)) (values : List A) :
    Loops.Settles (∀ x ∈ values, clean x) nulInName
      (buildBSONObjectFromListOrSet build values) := by
  apply Loops.Settles.foldlM
  intro b x _
  refine Loops.Settles.congr ((builds x).bind fun made => ?_) (and_iff_left trivial)
  change Loops.Settles True nulInName (b.append made.2)
  rw [BSONArrayBuilder.append_ok]
  exact Loops.Settles.ok nulInName _

theorem buildBSONObjectFromMap_settles
    (build : A → Except Raised (AppendFunction × CppValue)) (clean : A → Prop)
    (builds : ∀ x, Loops.Settles (clean x) nulInName (build x))
    (values : List (Σ _ : String, A)) :
    Loops.Settles (∀ e ∈ values, clean e.2 ∧ nul ∉ e.1.toList) nulInName
      (buildBSONObjectFromMap build values) := by
  apply Loops.Settles.foldlM
  intro b e _
  exact (builds e.2).bind fun made => BSONObjBuilder.append_settles b made.1 e.1 made.2

theorem handlePrimitive_settles (rt : SplRuntime) (p : PrimType) (value : p.Value)
    (supported : (SplType.prim p).Supported) :
    Loops.Settles True nulInName (handlePrimitive rt p value) := by
  cases p with
  | complex32 => exact absurd rfl supported.1
  | complex64 => exact absurd rfl supported.2
  | _ => exact Loops.Settles.ok nulInName _

mutual

theorem buildBSONObject_settles (rt : SplRuntime) : (t : SplType) → t.Supported →
    (value : t.Value) → Loops.Settles (t.KeysClean value) nulInName (buildBSONObject rt t value)
  | .prim p, supported, value =>
      ((handlePrimitive_settles rt p value supported).bind fun _ =>
        Loops.Settles.ok nulInName _).congr (by simp [SplType.KeysClean])
  | .list t, supported, value => by
      have rounds := buildBSONObjectFromListOrSet_settles _ t.KeysClean
        (buildBSONObject_settles rt t supported) value
      exact (rounds.bind fun _ => Loops.Settles.ok nulInName _).congr (and_iff_left trivial)
  | .set t, supported, value => by
      have rounds := buildBSONObjectFromListOrSet_settles _ t.KeysClean
        (buildBSONObject_settles rt t supported) (rt.setOrder t value)
      refine (rounds.bind fun _ => Loops.Settles.ok nulInName _).congr ?_
      rw [and_iff_left trivial]
      exact forall_congr' fun x => imp_congr (rt.mem_setOrder t value x) Iff.rfl
  | .map t, supported, value => by
      have rounds := buildBSONObjectFromMap_settles _ t.KeysClean
        (buildBSONObject_settles rt t supported) (rt.mapOrder t value)
      refine (rounds.bind fun _ => Loops.Settles.ok nulInName _).congr ?_
      rw [and_iff_left trivial]
      exact forall_congr' fun e => imp_congr (rt.mem_mapOrder t value e) and_comm
  | .tuple attrs, supported, value =>
      ((buildBSONObjectFromTuple_settles rt attrs supported value []).bind fun _ =>
        Loops.Settles.ok nulInName _).congr (by simp [SplType.KeysClean])

theorem buildBSONObjectFromTuple_settles (rt : SplRuntime) : (attrs : Attributes) →
    attrs.Supported → (values : attrs.Value) → (b : BSONObj) →
    Loops.Settles (attrs.KeysClean values) nulInName (buildBSONObjectFromTuple rt attrs values b)
  | .nil, _, _, b => Loops.Settles.ok nulInName b
  | .cons name t rest, supported, (value, values), b => by
      have appends := fun made : AppendFunction × CppValue =>
        (BSONObjBuilder.append_settles b made.1 name.chars made.2).bind fun b =>
          buildBSONObjectFromTuple_settles rt rest supported.2 values b
      exact ((buildBSONObject_settles rt t supported.1 value).bind appends).congr
        (by simp [Attributes.KeysClean, name.noNul])

end

theorem buildBSONObject_element (rt : SplRuntime) (t : SplType) (value : t.Value)
    (function : AppendFunction) (inner : CppValue)
    (built : buildBSONObject rt t value = .ok (function, inner)) :
    function.element inner = inner.appended := by
  cases t <;>
    · simp only [buildBSONObject, Loops.bind_eq_ok, Loops.pure_eq_ok, Prod.mk.injEq] at built
      obtain ⟨_, _, rfl, rfl⟩ := built
      rfl

theorem buildBSONObject_document (rt : SplRuntime) (t : SplType) (document : keyLess t = false)
    (value : t.Value) (function : AppendFunction) (inner : CppValue)
    (built : buildBSONObject rt t value = .ok (function, inner)) :
    inner.appended = .object inner.asBSONObj := by
  cases t with
  | prim | list | set => cases document
  | map | tuple =>
    simp only [buildBSONObject, Loops.bind_eq_ok, Loops.pure_eq_ok] at built
    obtain ⟨b, _, same⟩ := built
    cases same
    rfl

theorem buildBSONObjectFromTuple_names (rt : SplRuntime) (attrs : Attributes)
    (values : attrs.Value) (b made : BSONObj)
    (built : buildBSONObjectFromTuple rt attrs values b = .ok made) :
    ∃ fields : BSONObj, made = b ++ fields ∧ fields.map Prod.fst = attrs.names := by
  match attrs, values with
  | .nil, _ =>
    cases built
    exact ⟨[], by simp, rfl⟩
  | .cons name t rest, (value, values) =>
    simp only [buildBSONObjectFromTuple, BSONObjBuilder.append, checkFieldName_chars,
      Loops.bind_eq_ok, Loops.pure_eq_ok] at built
    obtain ⟨head, _, _, ⟨_, same, rfl⟩, later⟩ := built
    cases same
    obtain ⟨fields, rfl, names⟩ := buildBSONObjectFromTuple_names rt rest values _ made later
    exact ⟨(name, head.1.element head.2) :: fields, by simp, by simp [names, Attributes.names]⟩

end BSONCommon

end StreamsMongo
