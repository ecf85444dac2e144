import StreamsMongo.Codec.FieldOrder
import StreamsMongo.Codec.Integers
import StreamsMongo.Codec.StoredDocument

set_option autoImplicit false

namespace StreamsMongo

def IntType.widen (i : IntType) (width : Nat) (n : BitVec i.bits) : BitVec width :=
  if i.signed then n.signExtend width else n.zeroExtend width

-- What a leaf stands for; blobs and complex numbers are not read back.
inductive Scalar where
  | boolean (b : Bool)
  | text (chars : String)
  | int (n : BitVec 32)
  | long (n : BitVec 64)
  | double (bits : BitVec 64)
  | instant (millis : BitVec 64)

def PrimType.scalar (rt : SplRuntime) : (p : PrimType) → p.Value → Option Scalar
  | .boolean, value => some (.boolean value)
  | .enum _ _, value => some (.text value.val)
  | .rstring, value => some (.text value)
  | .ustring, value => some (.text (rt.rstringOfUString value))
  | .xml, value => some (.text (rt.rstringOfXml value))
  | .int i, value =>
      some (if i.bits ≤ 32 then .int (i.widen 32 value) else .long (i.widen 64 value))
  | .decimal d, value => some (.double (rt.doubleOfDecimal d value))
  | .float32, value => some (.double (rt.doubleOfFloat value))
  | .float64, value => some (.double value)
  | .timestamp, value => some (.instant (BSONCommon.dateOfTimestamp value))
  | .blob, _ | .complex32, _ | .complex64, _ => none

def Scalar.double? (rt : SplRuntime) : Scalar → Option (BitVec 64)
  | .int n => some (rt.doubleOfInt n)
  | .long n => some (rt.doubleOfLong n)
  | .double bits => some bits
  | _ => none

def Scalar.text? : Scalar → Option String
  | .text chars => some chars
  | _ => none

def PrimType.ofScalar (rt : SplRuntime) : (p : PrimType) → Scalar → Option p.Value
  | .boolean, .boolean b => some b
  | .enum first rest, scalar => do
      let chars ← scalar.text?
      if valid : chars ∈ first :: rest then some ⟨chars, valid⟩ else none
  | .rstring, scalar => scalar.text?
  | .ustring, scalar => scalar.text?.map rt.ustringOfString
  | .xml, scalar => scalar.text?.map rt.xmlOfString
  | .int i, .int n => some (n.signExtend i.bits)
  | .int i, .long n => some (n.signExtend i.bits)
  | .int i, .double bits => some (rt.intOfDouble i bits)
  | .decimal d, scalar => (scalar.double? rt).map (rt.decimalOfDouble d)
  | .float32, scalar => (scalar.double? rt).map rt.floatOfDouble
  | .float64, scalar => scalar.double? rt
  | .timestamp, .instant millis => some (QueryCommon.timestampOfDate millis)
  | _, _ => none

def Attributes.fields : (attrs : Attributes) → attrs.Value → List (Σ _ : String, SplData)
  | .nil, _ => []
  | .cons name t rest, (value, values) => ⟨name.chars, ⟨t, value⟩⟩ :: rest.fields values

def SplData.scalar? (rt : SplRuntime) : SplData → Option Scalar
  | ⟨.prim p, value⟩ => p.scalar rt value
  | _ => none

def SplData.elements? (rt : SplRuntime) : SplData → Option (List SplData)
  | ⟨.list t, value⟩ =>
      let values : List t.Value := value
      some (values.map (SplData.mk t))
  | ⟨.set t, value⟩ => some ((rt.setOrder t value).map (SplData.mk t))
  | _ => none

def SplData.fields? (rt : SplRuntime) : SplData → Option (List (Σ _ : String, SplData))
  | ⟨.map t, value⟩ => some ((rt.mapOrder t value).map fun e => ⟨e.1, ⟨t, e.2⟩⟩)
  | ⟨.tuple attrs, value⟩ => some (attrs.fields value)
  | _ => none

mutual

/-- What a reader of type `r` makes of a value written with another type, element by element. -/
def SplType.convert (rt : SplRuntime) : (r : SplType) → SplData → Option r.Value
  | .prim p, data => (data.scalar? rt).bind (p.ofScalar rt)
  | .list t, data =>
      (data.elements? rt).bind fun elements =>
        (SplType.list t).kept (elements.filterMap (t.convert rt))
  | .set t, data =>
      (data.elements? rt).bind fun elements =>
        (SplType.set t).kept (elements.filterMap (t.convert rt)).toFinset
  | .map t, data =>
      (data.fields? rt).bind fun fields =>
        (SplType.map t).kept (fields.filterMap fun e =>
          (t.convert rt e.2).map (@Sigma.mk String (fun _ => t.Value) e.1)).toFinmap
  | .tuple attrs, data => (data.fields? rt).map (attrs.convert rt)

def Attributes.convert (rt : SplRuntime) :
    (attrs : Attributes) → List (Σ _ : String, SplData) → attrs.Value
  | .nil, _ => ()
  | .cons name t rest, fields =>
      (((fields.find? fun e => e.1 = name.chars).bind fun e => t.convert rt e.2).getD t.cleared,
        rest.convert rt fields)

end

section Leaves

variable (rt : SplRuntime)

def Scalar.value : Scalar → BSONValue
  | .boolean b => .bool b
  | .text chars => .string chars
  | .int n => .numberInt n
  | .long n => .numberLong n
  | .double bits => .numberDouble bits
  | .instant millis => .date millis

theorem leafValue_scalar (p : PrimType) (scalar : Scalar) :
    QueryCommon.leafValue rt p scalar.value = p.ofScalar rt scalar := by
  cases p <;> cases scalar <;> rfl

theorem plainInteger_scalar (i : IntType) (n : BitVec i.bits) (scalar : Scalar)
    (carried : (PrimType.int i).scalar rt n = some scalar) :
    (BSONCommon.plainInteger i n).appended = scalar.value := by
  cases carried
  cases i with
  | int32 => exact congrArg BSONValue.numberInt (BitVec.signExtend_eq n).symm
  | uint32 => exact congrArg BSONValue.numberInt (BitVec.setWidth_eq n).symm
  | int64 => exact congrArg BSONValue.numberLong (BitVec.signExtend_eq n).symm
  | uint64 => exact congrArg BSONValue.numberLong (BitVec.setWidth_eq n).symm
  | int8 | int16 | uint8 | uint16 => rfl

theorem handlePrimitive_scalar (p : PrimType) (value : p.Value) (inner : CppValue)
    (scalar : Scalar) (built : BSONCommon.handlePrimitive rt p value = .ok inner)
    (carried : p.scalar rt value = some scalar) : inner.appended = scalar.value := by
  cases p with
  | blob | complex32 | complex64 => cases carried
  | int i =>
    cases built
    exact plainInteger_scalar rt i value scalar carried
  | _ =>
    cases built
    cases carried
    rfl

theorem leafValue_handlePrimitive_scalar (p q : PrimType) (value : p.Value) (inner : CppValue)
    (built : BSONCommon.handlePrimitive rt p value = .ok inner) :
    QueryCommon.leafValue rt q inner.appended = (p.scalar rt value).bind (q.ofScalar rt) := by
  cases carried : p.scalar rt value with
  | some scalar =>
    rw [handlePrimitive_scalar rt p value inner scalar built carried, leafValue_scalar]
    rfl
  | none =>
    cases p with
    | blob =>
      cases built
      cases q <;> rfl
    | complex32 | complex64 => cases built
    | _ => cases carried

end Leaves

structure SplData.Written (rt : SplRuntime) (data : SplData) (be : BSONValue) : Prop where
  wellFormed : data.type.WellFormed
  encoded : ∃ function inner,
    BSONCommon.buildBSONObject rt data.type data.value = .ok (function, inner) ∧ inner.appended = be

namespace SplData

open BSONCommon

variable (rt : SplRuntime)

def FieldWritten (field : Σ _ : String, SplData) (e : BSONElement) : Prop :=
  e.1.chars = field.1 ∧ field.2.Written rt e.2

theorem forall₂_arrayFields {A : Type} (related : A → BSONValue → Prop) (i : Nat) (xs : List A)
    (inners : List CppValue)
    (rounds : List.Forall₂ (fun x inner => related x inner.appended) xs inners) :
    List.Forall₂ (fun x e => related x e.2) xs (arrayFields i inners) := by
  induction rounds generalizing i with
  | nil => exact .nil
  | cons here _ ih => exact .cons here (ih (i + 1))

theorem elements_written (t : SplType) (wellFormed : t.WellFormed) (values : List t.Value)
    (b : BSONArrayBuilder)
    (loop : buildBSONObjectFromListOrSet (buildBSONObject rt t) values = .ok b) :
    List.Forall₂ (fun element e => element.Written rt e.2) (values.map (SplData.mk t)) b.b := by
  obtain ⟨inners, rounds, fields⟩ := buildBSONObjectFromListOrSet_eq_ok _ _ _ _ loop
  rw [fields, List.nil_append, List.forall₂_map_left_iff]
  apply forall₂_arrayFields fun value be => Written rt ⟨t, value⟩ be
  refine List.Forall₂.imp ?_ rounds
  rintro value inner ⟨function, built⟩
  exact ⟨wellFormed, function, inner, built, rfl⟩

theorem entries_written (t : SplType) (wellFormed : t.WellFormed)
    (entries : List (Σ _ : String, t.Value)) (b : BSONObj)
    (loop : buildBSONObjectFromMap (buildBSONObject rt t) entries = .ok b) :
    List.Forall₂ (FieldWritten rt)
      (entries.map fun e => (⟨e.1, ⟨t, e.2⟩⟩ : Σ _ : String, SplData)) b := by
  rw [List.forall₂_map_left_iff]
  refine List.Forall₂.imp ?_ (buildBSONObjectFromMap_eq_ok _ _ _ loop)
  intro entry e field
  obtain ⟨function, inner, built, name, made⟩ := mapField_eq_ok _ _ _ field
  refine ⟨name, wellFormed, function, inner, built, ?_⟩
  rw [made, buildBSONObject_element rt t entry.2 function inner built]

theorem attributes_written (attrs : Attributes) (wellFormed : attrs.WellFormed)
    (values : attrs.Value) (b made : BSONObj)
    (built : buildBSONObjectFromTuple rt attrs values b = .ok made) :
    ∃ added, made = b ++ added ∧ List.Forall₂ (FieldWritten rt) (attrs.fields values) added := by
  match attrs, values with
  | .nil, _ =>
    cases built
    exact ⟨[], by simp, .nil⟩
  | .cons name t rest, (value, values) =>
    simp only [buildBSONObjectFromTuple, BSONObjBuilder.append, checkFieldName_chars,
      Loops.bind_eq_ok, Loops.pure_eq_ok] at built
    obtain ⟨⟨function, inner⟩, element, _, ⟨_, same, rfl⟩, later⟩ := built
    cases same
    obtain ⟨added, rfl, fields⟩ := attributes_written rest wellFormed.2 values _ made later
    have here : FieldWritten rt ⟨name.chars, ⟨t, value⟩⟩ (name, function.element inner) := by
      refine ⟨rfl, wellFormed.1, function, inner, element, ?_⟩
      exact (buildBSONObject_element rt t value function inner element).symm
    exact ⟨_ :: added, by simp, .cons here fields⟩

theorem fields_names (attrs : Attributes) (values : attrs.Value) :
    (attrs.fields values).map Sigma.fst = attrs.names.map FieldName.chars := by
  match attrs, values with
  | .nil, _ => rfl
  | .cons name t rest, values =>
    exact congrArg (List.cons name.chars) (fields_names rest values.2)

inductive Shape (data : SplData) (be : BSONValue) : Prop where
  | leaf (noElements : data.elements? rt = none) (noFields : data.fields? rt = none)
      (notArray : be.type ≠ .array) (notObject : be.type ≠ .object)
      (reads : ∀ p, QueryCommon.leafValue rt p be = (data.scalar? rt).bind (p.ofScalar rt))
  | array (elements : List SplData) (arr : BSONObj) (known : data.elements? rt = some elements)
      (noFields : data.fields? rt = none) (noScalar : data.scalar? rt = none)
      (same : be = .array arr)
      (rounds : List.Forall₂ (fun element e => element.Written rt e.2) elements arr)
  | object (fields : List (Σ _ : String, SplData)) (bo : BSONObj)
      (known : data.fields? rt = some fields) (noElements : data.elements? rt = none)
      (noScalar : data.scalar? rt = none) (same : be = .object bo)
      (distinct : (fields.map Sigma.fst).Nodup)
      (rounds : List.Forall₂ (FieldWritten rt) fields bo)

theorem handlePrimitive_type (p : PrimType) (value : p.Value) (inner : CppValue)
    (built : handlePrimitive rt p value = .ok inner) :
    inner.appended.type ≠ .array ∧ inner.appended.type ≠ .object := by
  cases p with
  | complex32 | complex64 => cases built
  | int i =>
    cases built
    cases i <;> exact ⟨nofun, nofun⟩
  | _ =>
    cases built
    exact ⟨nofun, nofun⟩

theorem names_nodup (attrs : Attributes) (distinct : attrs.names.Nodup) (values : attrs.Value) :
    ((attrs.fields values).map Sigma.fst).Nodup := by
  rw [fields_names]
  exact distinct.map fun _ _ same => FieldName.eq_of_chars same

theorem keys_nodup (t : SplType) (m : Finmap fun _ : String => t.Value) :
    (((rt.mapOrder t m).map fun e => (⟨e.1, ⟨t, e.2⟩⟩ : Σ _ : String, SplData)).map
      Sigma.fst).Nodup := by
  have distinct : Multiset.NodupKeys
      ((rt.mapOrder t m : List (Σ _ : String, t.Value)) : Multiset (Σ _ : String, t.Value)) := by
    rw [rt.mapOrder_entries]
    exact m.nodupKeys
  rw [List.map_map]
  exact distinct

theorem Written.shape (data : SplData) (be : BSONValue) (written : data.Written rt be) :
    Shape rt data be := by
  obtain ⟨t, value⟩ := data
  obtain ⟨wellFormed, function, inner, built, rfl⟩ := written
  cases t with
  | prim p =>
    simp only [buildBSONObject, Loops.bind_eq_ok, Loops.pure_eq_ok] at built
    obtain ⟨_, handled, same⟩ := built
    cases same
    obtain ⟨notArray, notObject⟩ := handlePrimitive_type rt p value inner handled
    exact .leaf rfl rfl notArray notObject fun q =>
      leafValue_handlePrimitive_scalar rt p q value inner handled
  | list t | set t =>
    simp only [buildBSONObject, Loops.bind_eq_ok, Loops.pure_eq_ok] at built
    obtain ⟨b, loop, same⟩ := built
    cases same
    exact .array _ b.b rfl rfl rfl rfl (elements_written rt t wellFormed _ b loop)
  | map t =>
    simp only [buildBSONObject, Loops.bind_eq_ok, Loops.pure_eq_ok] at built
    obtain ⟨b, loop, same⟩ := built
    cases same
    exact .object _ b rfl rfl rfl rfl (keys_nodup rt t value)
      (entries_written rt t wellFormed _ b loop)
  | tuple attrs =>
    simp only [buildBSONObject, Loops.bind_eq_ok, Loops.pure_eq_ok] at built
    obtain ⟨b, made, same⟩ := built
    cases same
    obtain ⟨added, same, rounds⟩ := attributes_written rt attrs wellFormed.2 value [] b made
    rw [List.nil_append] at same
    subst same
    exact .object _ b rfl rfl rfl rfl (names_nodup attrs wellFormed.1 value) rounds

end SplData

section Reading

variable (rt : SplRuntime)

theorem leafValue_container (p : PrimType) (bo : BSONObj) :
    QueryCommon.leafValue rt p (.array bo) = none ∧
      QueryCommon.leafValue rt p (.object bo) = none := by
  cases p <;> exact ⟨rfl, rfl⟩

theorem filterMap_fields {A : Type} (read : BSONValue → Option A) (f : SplData → Option A)
    (agree : ∀ data be, SplData.Written rt data be → read be = f data)
    (fields : List (Σ _ : String, SplData)) (bo : BSONObj)
    (rounds : List.Forall₂ (SplData.FieldWritten rt) fields bo) :
    (bo.filterMap fun e => (read e.2).map (@Sigma.mk String (fun _ => A) e.1.chars)) =
      fields.filterMap fun e => (f e.2).map (@Sigma.mk String (fun _ => A) e.1) := by
  refine Loops.filterMap_forall₂ _ _ _ ?_ _ _ rounds
  rintro field e ⟨name, written⟩
  rw [agree field.2 e.2 written, name]

theorem refMap_distinct {A : Type} (value : BSONValue → Option A) (bo : BSONObj)
    (found : List (Σ _ : String, A)) (distinct : (found.map Sigma.fst).Nodup)
    (same : (bo.filterMap fun e =>
      (value e.2).map (@Sigma.mk String (fun _ => A) e.1.chars)) = found) :
    QueryCommon.refMap rt value (.object bo) =
      if found.toFinmap.entries.card = 0 then none else some found.toFinmap := by
  rw [QueryCommon.refMap_object, same, FiniteData.entries_toFinmap found distinct]
  cases found with
  | nil => rfl
  | cons e rest =>
    have loop : (e :: rest).foldl (fun m e => rt.mapAdd m e.1 e.2) ∅ = (e :: rest).toFinmap := by
      apply Finmap.ext
      rw [FiniteData.foldl_insert_entries (e :: rest) ∅ _
        (fun m e new => rt.mapAdd_fresh m e.1 e.2 new) distinct (fun e _ => Finmap.notMem_empty),
        FiniteData.entries_toFinmap (e :: rest) distinct]
      exact add_zero _
    rw [if_neg (by simp)]
    exact congrArg some loop

theorem getField_written {A : Type} (read : BSONValue → Option A) (f : SplData → Option A)
    (agree : ∀ data be, SplData.Written rt data be → read be = f data) (name : FieldName)
    (fields : List (Σ _ : String, SplData)) (bo : BSONObj)
    (rounds : List.Forall₂ (SplData.FieldWritten rt) fields bo) :
    (bo.getField name).bind read =
      (fields.find? fun e => e.1 = name.chars).bind fun e => f e.2 := by
  induction rounds with
  | nil => rfl
  | @cons field e _ _ here _ ih =>
    obtain ⟨chars, written⟩ := here
    rw [BSONObj.getField_cons]
    by_cases same : e.1 = name
    · have named : field.1 = name.chars := by rw [← chars, same]
      rw [if_pos same, List.find?_cons_of_pos (by simpa using named)]
      exact agree field.2 e.2 written
    · have unnamed : field.1 ≠ name.chars := by
        intro named
        exact same (FieldName.eq_of_chars (chars.trans named))
      rw [if_neg same, List.find?_cons_of_neg (by simpa using unnamed)]
      exact ih

end Reading

mutual

theorem refDecode_written (rt : SplRuntime) : (r : SplType) → (data : SplData) →
    (be : BSONValue) → data.Written rt be → QueryCommon.refDecode rt r be = r.convert rt data
  | .prim p, data, be, written => by
      cases SplData.Written.shape rt data be written with
      | leaf _ _ _ _ reads => exact reads p
      | array elements arr _ _ noScalar same _ =>
        rw [SplType.convert, noScalar, same]
        exact (leafValue_container rt p arr).1
      | object fields bo _ _ noScalar same _ _ =>
        rw [SplType.convert, noScalar, same]
        exact (leafValue_container rt p bo).2
  | .list t, data, be, written => by
      have agree := refDecode_written rt t
      cases SplData.Written.shape rt data be written with
      | leaf noElements _ notArray _ _ =>
        rw [SplType.convert, noElements]
        exact if_neg notArray
      | array elements arr known _ _ same rounds =>
        have found := Loops.filterMap_forall₂ _ (t.convert rt) _
          (fun data (e : BSONElement) => agree data e.2) _ _ rounds
        have kept := BSONCommon.refArray_kept (C := List t.Value) (QueryCommon.refDecode rt t) id
          (SplType.list t).kept rfl (fun _ _ => rfl) arr
        rw [found] at kept
        rw [SplType.convert, known, same]
        exact kept
      | object fields bo _ noElements _ same _ _ =>
        rw [SplType.convert, noElements, same]
        rfl
  | .set t, data, be, written => by
      have agree := refDecode_written rt t
      cases SplData.Written.shape rt data be written with
      | leaf noElements _ notArray _ _ =>
        rw [SplType.convert, noElements]
        exact if_neg notArray
      | array elements arr known _ _ same rounds =>
        have found := Loops.filterMap_forall₂ _ (t.convert rt) _
          (fun data (e : BSONElement) => agree data e.2) _ _ rounds
        have kept := BSONCommon.refArray_kept (C := Finset t.Value) (QueryCommon.refDecode rt t)
          List.toFinset (SplType.set t).kept rfl
          (fun x xs => if_neg (by simp [SplType.emptyContainer])) arr
        rw [found] at kept
        rw [SplType.convert, known, same]
        exact kept
      | object fields bo _ noElements _ same _ _ =>
        rw [SplType.convert, noElements, same]
        rfl
  | .map t, data, be, written => by
      have agree := refDecode_written rt t
      cases SplData.Written.shape rt data be written with
      | leaf _ noFields _ notObject _ =>
        rw [SplType.convert, noFields]
        exact if_neg notObject
      | array elements arr _ noFields _ same _ =>
        rw [SplType.convert, noFields, same]
        rfl
      | object fields bo known _ _ same distinct rounds =>
        have found := filterMap_fields rt _ (t.convert rt) agree fields bo rounds
        have sublist := FiniteData.keys_filterMap_sublist (t.convert rt) fields
        rw [SplType.convert, known, same]
        refine (refMap_distinct rt _ bo _ (distinct.sublist sublist) found).trans ?_
        exact (t.kept_map _).symm
  | .tuple attrs, data, be, written => by
      cases SplData.Written.shape rt data be written with
      | leaf _ noFields _ notObject _ =>
        rw [SplType.convert, noFields]
        exact if_neg notObject
      | array elements arr _ noFields _ same _ =>
        rw [SplType.convert, noFields, same]
        rfl
      | object fields bo known _ _ same _ rounds =>
        rw [SplType.convert, known, same]
        exact congrArg some (refDecodeAttributes_written rt attrs fields bo rounds)

theorem refDecodeAttributes_written (rt : SplRuntime) : (attrs : Attributes) →
    (fields : List (Σ _ : String, SplData)) → (bo : BSONObj) →
    List.Forall₂ (SplData.FieldWritten rt) fields bo →
    QueryCommon.refDecodeAttributes rt attrs bo = attrs.convert rt fields
  | .nil, _, _, _ => rfl
  | .cons name t rest, fields, bo, rounds => by
      have head := getField_written rt _ (t.convert rt) (refDecode_written rt t) name fields bo
        rounds
      have tail := refDecodeAttributes_written rt rest fields bo rounds
      rw [QueryCommon.refDecodeAttributes, Attributes.convert, ← head, tail]
      cases bo.getField name <;> rfl

end

section Stored

open BSONCommon QueryCommon

variable (rt : SplRuntime) (lib : DriverLibrary) (oid : BitVec 96)

theorem refDecodeAttributes_oid (attrs : Attributes) (doc : BSONObj)
    (absent : doc.getField idName = none) :
    refDecodeAttributes rt attrs ((idName, .jstOID oid) :: doc) =
      refDecodeAttributes rt attrs doc := by
  match attrs with
  | .nil => rfl
  | .cons name t rest =>
    have later := refDecodeAttributes_oid rest doc absent
    rw [refDecodeAttributes, refDecodeAttributes, BSONObj.getField_cons, later]
    by_cases same : idName = name
    · subst same
      have unread := refDecode_jstOID rt t oid
      rw [if_pos rfl, absent]
      exact Prod.ext (congrArg (Option.getD · t.cleared) unread) rfl
    · rw [if_neg same]

-- An identifier has no value of any type, so it is read like a missing field.
theorem refDecode_stored (r : SplType) (doc : BSONObj) :
    refDecode rt r (.object (serverStore oid doc)) = refDecode rt r (.object doc) := by
  unfold serverStore
  split_ifs with stored
  · rfl
  · cases r with
    | prim p => exact (leafValue_container rt p _).2.trans (leafValue_container rt p doc).2.symm
    | list | set => rfl
    | map t =>
      simp only [refDecode, refMap_object, List.filterMap_cons, refDecode_jstOID, Option.map_none]
      rfl
    | tuple attrs =>
      have absent : doc.getField idName = none := by
        simpa [BSONObj.hasElement] using stored
      exact congrArg some (refDecodeAttributes_oid rt oid attrs doc absent)

theorem readAttribute_field (attrName : FieldName) (r : SplType) (bo : BSONObj) (be : BSONValue)
    (found : bo.getField attrName = some be) :
    queryDocumentField rt lib attrName none r bo r.cleared =
      (⟨r.cleared, false⟩ : Target r.Value).ofOption (refDecode rt r be) := by
  rw [queryDocumentField, readAttribute_cleared]
  change Target.ofOption _ ((bo.getField attrName).bind (refDecode rt r)) = _
  rw [found]
  rfl

theorem readAttribute_document (attrName : FieldName) (r : SplType) (bo : BSONObj) :
    queryDocumentMultipleFields rt lib attrName none r bo r.cleared =
      (⟨r.cleared, false⟩ : Target r.Value).ofOption (refDecode rt r (.object bo)) := by
  have found : BSONObj.getField [(attrName, .object bo)] attrName = some (.object bo) := by simp
  rw [queryDocumentMultipleFields, readAttribute_cleared]
  change Target.ofOption _ ((BSONObj.getField [(attrName, .object bo)] attrName).bind
    (refDecode rt r)) = _
  rw [found]
  rfl

/-- What does not convert leaves the attribute alone. -/
theorem insert_query_converts (s r : SplType) (wellFormed : s.WellFormed) (supported : s.Supported)
    (value : s.Value) (clean : s.KeysClean value) :
    (keyLess s = false → ∀ attrName : FieldName,
      ∃ doc, buildBSONObjectWithKey rt lib none (.value s value) = .ok doc ∧
        queryDocumentMultipleFields rt lib attrName none r (serverStore oid doc) r.cleared =
          (⟨r.cleared, false⟩ : Target r.Value).ofOption (r.convert rt ⟨s, value⟩)) ∧
    (∀ key : FieldName, key ≠ idName →
      ∃ doc, buildBSONObjectWithKey rt lib (some key.chars) (.value s value) = .ok doc ∧
        queryDocumentField rt lib key none r (serverStore oid doc) r.cleared =
          (⟨r.cleared, false⟩ : Target r.Value).ofOption (r.convert rt ⟨s, value⟩)) := by
  obtain ⟨⟨function, inner⟩, built⟩ :=
    (buildBSONObject_settles rt s supported value).returns clean
  have converts := refDecode_written rt r ⟨s, value⟩ inner.appended
    ⟨wellFormed, function, inner, built, rfl⟩
  constructor
  · intro document attrName
    refine ⟨inner.asBSONObj, ?_, ?_⟩
    · simp only [buildBSONObjectWithKey, Data.build, built]
      rfl
    · rw [readAttribute_document, refDecode_stored, ← converts,
        buildBSONObject_document rt s document value function inner built]
  · intro key other
    refine ⟨[(key, inner.appended)], ?_, ?_⟩
    · rw [buildBSONObjectWithKey, Data.build, built]
      change BSONObjBuilder.append [] function key.chars inner = _
      rw [BSONObjBuilder.append, checkFieldName_chars,
        buildBSONObject_element rt s value function inner built]
      rfl
    · rw [readAttribute_field rt lib key r _ inner.appended, converts]
      rw [getField_serverStore oid _ key other]
      simp

end Stored

theorem lines_noNul : nul ∉ "lines".toList := by decide

theorem item_noNul : nul ∉ "item".toList := by decide

def stockAttributes : Attributes :=
  .cons ⟨"lines", lines_noNul⟩ (.set (.list (.prim (.int .int64))))
    (.cons ⟨"warehouse", by decide⟩ (.prim .rstring)
      (.cons ⟨"item", item_noNul⟩ (.prim .ustring) .nil))

theorem order_supported : orderAttributes.Supported := by
  simp [orderAttributes, Attributes.Supported, SplType.Supported]

theorem insert_query_converts_order :
    (∃ doc, BSONCommon.buildBSONObjectWithKey SplRuntime.plain DriverLibrary.plain none
        (.value (.tuple orderAttributes) order) = .ok doc ∧
      QueryCommon.queryDocumentMultipleFields SplRuntime.plain DriverLibrary.plain idName none
        (.tuple stockAttributes) (serverStore 9#96 doc) stockAttributes.cleared =
          (⟨stockAttributes.cleared, false⟩ : QueryCommon.Target stockAttributes.Value).ofOption
            ((SplType.tuple stockAttributes).convert SplRuntime.plain
              ⟨.tuple orderAttributes, order⟩)) ∧
    (∃ doc, BSONCommon.buildBSONObjectWithKey SplRuntime.plain DriverLibrary.plain
        (some sampleKey.chars) (.value (.tuple orderAttributes) order) = .ok doc ∧
      QueryCommon.queryDocumentField SplRuntime.plain DriverLibrary.plain sampleKey none
        (.tuple stockAttributes) (serverStore 9#96 doc) stockAttributes.cleared =
          (⟨stockAttributes.cleared, false⟩ : QueryCommon.Target stockAttributes.Value).ofOption
            ((SplType.tuple stockAttributes).convert SplRuntime.plain
              ⟨.tuple orderAttributes, order⟩)) := by
  have converts := insert_query_converts SplRuntime.plain DriverLibrary.plain 9#96
    (.tuple orderAttributes) (.tuple stockAttributes) ⟨by decide, trivial, trivial, trivial⟩
    order_supported order ⟨trivial, fun _ _ _ _ => trivial, trivial⟩
  exact ⟨converts.1 rfl idName, converts.2 sampleKey (by decide)⟩

section Evolution

variable (rt : SplRuntime)

theorem Attributes.Has.find_fields {attrs : Attributes} {name : FieldName} {t : SplType}
    (position : attrs.Has name t) (distinct : attrs.names.Nodup) (values : attrs.Value) :
    ((attrs.fields values).find? fun e => e.1 = name.chars) =
      some ⟨name.chars, ⟨t, position.get values⟩⟩ := by
  induction position with
  | head => exact List.find?_cons_of_pos (by simp)
  | @tail name other t u rest position ih =>
    rw [Attributes.names, List.nodup_cons] at distinct
    have different : other.chars ≠ name.chars := by
      intro same
      exact distinct.1 (FieldName.eq_of_chars same ▸ position.mem_names)
    exact (List.find?_cons_of_neg (by simpa using different)).trans (ih distinct.2 values.2)

theorem Attributes.Has.get_convert {attrs : Attributes} {name : FieldName} {t : SplType}
    (position : attrs.Has name t) (fields : List (Σ _ : String, SplData)) :
    position.get (attrs.convert rt fields) =
      ((fields.find? fun e => e.1 = name.chars).bind fun e => t.convert rt e.2).getD t.cleared := by
  induction position with
  | head => rfl
  | tail _ ih => exact ih

theorem find_fields_absent (attrs : Attributes) (name : FieldName) (absent : name ∉ attrs.names)
    (values : attrs.Value) : ((attrs.fields values).find? fun e => e.1 = name.chars) = none := by
  rw [List.find?_eq_none]
  intro e member same
  have named := List.mem_map_of_mem (f := Sigma.fst) member
  rw [SplData.fields_names, List.mem_map] at named
  obtain ⟨other, present, chars⟩ := named
  rw [decide_eq_true_eq] at same
  exact absent (FieldName.eq_of_chars (chars.trans same) ▸ present)

theorem Attributes.Has.keysClean {attrs : Attributes} {name : FieldName} {t : SplType}
    (position : attrs.Has name t) (values : attrs.Value) (clean : attrs.KeysClean values) :
    t.KeysClean (position.get values) := by
  induction position with
  | head => exact clean.1
  | tail _ ih => exact ih values.2 clean.2

theorem SplType.convert_self (t : SplType) (wellFormed : t.WellFormed) (exact : t.ExactLeaves)
    (value : t.Value) (clean : t.KeysClean value) :
    t.convert rt ⟨t, value⟩ = t.kept (t.prune value) := by
  obtain ⟨function, inner, built⟩ := buildBSONObject_returns rt t exact value clean
  rw [← refDecode_written rt t ⟨t, value⟩ inner.appended ⟨wellFormed, function, inner, built, rfl⟩]
  exact BSONCommon.refDecode_build rt t wellFormed exact value function inner built

theorem written_tuple_read (lib : DriverLibrary) (oid : BitVec 96) (attrs reader : Attributes)
    (wellFormed : (SplType.tuple attrs).WellFormed) (supported : attrs.Supported)
    (values : attrs.Value) (clean : attrs.KeysClean values) (attrName : FieldName) :
    ∃ doc, BSONCommon.buildBSONObjectWithKey rt lib none (.value (.tuple attrs) values) = .ok doc ∧
      QueryCommon.queryDocumentMultipleFields rt lib attrName none (.tuple reader)
        (serverStore oid doc) reader.cleared =
          .applied (reader.convert rt (attrs.fields values)) :=
  (insert_query_converts rt lib oid (.tuple attrs) (.tuple reader) wellFormed supported values
    clean).1 rfl attrName

theorem attributes_evolve (lib : DriverLibrary) (oid : BitVec 96) (attrs reader : Attributes)
    (wellFormed : (SplType.tuple attrs).WellFormed) (supported : attrs.Supported)
    (values : attrs.Value) (clean : attrs.KeysClean values) (attrName : FieldName) :
    ∃ doc, BSONCommon.buildBSONObjectWithKey rt lib none (.value (.tuple attrs) values) = .ok doc ∧
      ∃ attr : reader.Value, QueryCommon.queryDocumentMultipleFields rt lib attrName none
          (.tuple reader) (serverStore oid doc) reader.cleared = .applied attr ∧
        (∀ (name : FieldName) (s r : SplType) (position : attrs.Has name s)
          (reading : reader.Has name r),
          reading.get attr = (r.convert rt ⟨s, position.get values⟩).getD r.cleared) ∧
        (∀ (name : FieldName) (t : SplType) (position : attrs.Has name t)
          (reading : reader.Has name t), t.ExactLeaves →
          reading.get attr = t.prune (position.get values)) ∧
        ∀ (name : FieldName) (r : SplType) (reading : reader.Has name r), name ∉ attrs.names →
          reading.get attr = r.cleared := by
  obtain ⟨doc, built, read⟩ := written_tuple_read rt lib oid attrs reader wellFormed supported
    values clean attrName
  refine ⟨doc, built, _, read, ?_, ?_, ?_⟩
  · intro name s r position reading
    rw [reading.get_convert, position.find_fields wellFormed.1]
    rfl
  · intro name t position reading exact
    have self := t.convert_self rt (position.wellFormed wellFormed.2) exact (position.get values)
      (position.keysClean values clean)
    rw [reading.get_convert, position.find_fields wellFormed.1]
    change (t.convert rt ⟨t, position.get values⟩).getD t.cleared = _
    rw [self, t.kept_getD_cleared]
  · intro name r reading absent
    rw [reading.get_convert, find_fields_absent attrs name absent]
    rfl

theorem attributes_evolve_order :
    ∃ doc, BSONCommon.buildBSONObjectWithKey SplRuntime.plain DriverLibrary.plain none
        (.value (.tuple orderAttributes) order) = .ok doc ∧
      ∃ attr : stockAttributes.Value, QueryCommon.queryDocumentMultipleFields SplRuntime.plain
          DriverLibrary.plain sampleKey none (.tuple stockAttributes) (serverStore 9#96 doc)
          stockAttributes.cleared = .applied attr ∧
        (∀ (name : FieldName) (s r : SplType) (position : orderAttributes.Has name s)
          (reading : stockAttributes.Has name r), reading.get attr =
            (r.convert SplRuntime.plain ⟨s, position.get order⟩).getD r.cleared) ∧
        (∀ (name : FieldName) (t : SplType) (position : orderAttributes.Has name t)
          (reading : stockAttributes.Has name t), t.ExactLeaves →
          reading.get attr = t.prune (position.get order)) ∧
        ∀ (name : FieldName) (r : SplType) (reading : stockAttributes.Has name r),
          name ∉ orderAttributes.names → reading.get attr = r.cleared :=
  attributes_evolve SplRuntime.plain DriverLibrary.plain 9#96 orderAttributes stockAttributes
    ⟨by decide, trivial, trivial, trivial⟩ order_supported order
    ⟨trivial, fun _ _ _ _ => trivial, trivial⟩ sampleKey

end Evolution

end StreamsMongo
