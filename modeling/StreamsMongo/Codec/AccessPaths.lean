import StreamsMongo.Codec.StoredDocument

set_option autoImplicit false

namespace StreamsMongo

def FieldName.isIdentifier (name : FieldName) : Bool :=
  match name.chars.toList with
  | [] => false
  | first :: rest =>
      (first.isAlpha || first == '_') && rest.all fun c => c.isAlphanum || c == '_'

theorem FieldName.isIdentifier_undotted (name : FieldName) (identifier : name.isIdentifier = true) :
    '.' ∉ name.chars.toList := by
  intro member
  unfold isIdentifier at identifier
  cases chars : name.chars.toList with
  | nil => simp [chars] at member
  | cons first rest =>
    rw [chars] at identifier member
    obtain ⟨head, tail⟩ := Bool.and_eq_true_iff.mp identifier
    rcases List.mem_cons.mp member with same | later
    · rw [← same] at head
      revert head
      decide
    · have dot := List.all_eq_true.mp tail '.' later
      revert dot
      decide

theorem isDigit_notAlpha (c : Char) (digit : c.isDigit = true) :
    (c.isAlpha || c == '_') = false := by
  have range : 48 ≤ c.toNat ∧ c.toNat ≤ 57 := Char.isDigit_iff_toNat.mp digit
  rw [← Bool.not_eq_true]
  intro letter
  rcases Bool.or_eq_true_iff.mp letter with alpha | underscore
  · rcases Bool.or_eq_true_iff.mp alpha with upper | lower
    · have above : 65 ≤ c.toNat := UInt32.le_iff_toNat_le.mp (of_decide_eq_true upper).1
      omega
    · have start := (Bool.and_eq_true_iff.mp lower).1
      have above : 97 ≤ c.toNat := UInt32.le_iff_toNat_le.mp (of_decide_eq_true start)
      omega
  · rw [beq_iff_eq.mp underscore] at digit
    revert digit
    decide

theorem FieldName.isIdentifier_notIndex (name : FieldName) (identifier : name.isIdentifier = true)
    (i : Nat) : name.chars ≠ toString i := by
  intro index
  unfold isIdentifier at identifier
  cases chars : name.chars.toList with
  | nil =>
    rw [chars] at identifier
    cases identifier
  | cons first rest =>
    have digit := Numerals.isDigit_of_mem i first (by
      rw [← Numerals.toList_toString, ← index, chars]
      exact List.mem_cons_self ..)
    rw [chars] at identifier
    obtain ⟨head, _⟩ := Bool.and_eq_true_iff.mp identifier
    rw [isDigit_notAlpha first digit] at head
    cases head

namespace BSONValue

def descend : BSONValue → List (List Char) → Option BSONValue
  | e, [] => some e
  | e, name :: rest => do
      let be ← e.embeddedObject.find? fun be => be.1.chars.toList = name
      be.2.descend rest

theorem descend_append (e : BSONValue) (path rest : List (List Char)) :
    e.descend (path ++ rest) = (e.descend path).bind fun inner => inner.descend rest := by
  induction path generalizing e with
  | nil => rfl
  | cons name path ih =>
    simp only [List.cons_append, descend, ih]
    cases e.embeddedObject.find? fun be => be.1.chars.toList = name <;> rfl

theorem descend_within (root e inner : BSONValue) (path : List (List Char)) (within : root.Within e)
    (found : e.descend path = some inner) : root.Within inner := by
  induction path generalizing e with
  | nil =>
    cases found
    exact within
  | cons name path ih =>
    simp only [descend, Option.bind_eq_bind, Option.bind_eq_some_iff] at found
    obtain ⟨be, first, later⟩ := found
    exact ih be.2 (.field e be within (List.mem_of_find?_eq_some first)) later

theorem descend_field (e : BSONValue) (name : FieldName) :
    e.descend [name.chars.toList] = BSONObj.getField e.embeddedObject name := by
  have same : (fun be : BSONElement => decide (be.1.chars.toList = name.chars.toList)) =
      fun be => decide (be.1 = name) := by
    funext be
    refine decide_eq_decide.mpr ⟨fun chars => ?_, fun equal => by rw [equal]⟩
    exact FieldName.eq_of_chars (String.toList_inj.mp chars)
  simp only [descend, same, BSONObj.getField]
  cases e.embeddedObject.find? fun be => be.1 = name <;> rfl

end BSONValue

def components (path : String) : List (List Char) := path.toList.splitOn '.'

theorem components_identifier (name : FieldName) (identifier : name.isIdentifier = true) :
    components name.chars = [name.chars.toList] :=
  List.splitOn_eq_singleton (name.isIdentifier_undotted identifier)

theorem components_dotted (path : String) (name : FieldName)
    (identifier : name.isIdentifier = true) :
    components (path ++ "." ++ name.chars) = components path ++ [name.chars.toList] := by
  rw [← components_identifier name identifier]
  unfold components
  simp [List.splitOn_append_cons_self]

namespace BSONObj

def Undotted (obj : BSONObj) : Prop :=
  ∀ e, (BSONValue.object obj).Within e → ∀ be ∈ e.embeddedObject, '.' ∉ be.1.chars.toList

def Indexed (obj : BSONObj) : Prop :=
  ∀ e, (BSONValue.object obj).Within e → e.type = .array →
    ∀ be ∈ e.embeddedObject, ∃ i : Nat, be.1.chars = toString i

end BSONObj

/-- The driver follows a dotted name component by component. -/
def DriverLibrary.Descends (lib : DriverLibrary) : Prop :=
  ∀ (obj : BSONObj) (path : String), obj.Undotted → path ≠ "" →
    lib.getFieldDotted obj path = (BSONValue.object obj).descend (components path)

namespace QueryCommon

def sought (lib : DriverLibrary) (attrName : FieldName) (attrNameNotInBO : Bool)
    (findPath : Option String) (queryResultBO : BSONObj) : Option BSONValue :=
  (initBSONObject lib attrName attrNameNotInBO findPath queryResultBO).bind fun bo0 =>
    bo0.getField attrName

theorem readAttribute_sought (rt : SplRuntime) (lib : DriverLibrary) (attrName : FieldName)
    (attrNameNotInBO : Bool) (findPath : Option String) (t : SplType) (queryResultBO : BSONObj)
    (attr0 : t.Value) :
    readAttribute rt lib attrName attrNameNotInBO findPath t queryResultBO attr0 =
      match sought lib attrName attrNameNotInBO findPath queryResultBO with
      | some be => handleBSONObject rt t be ⟨attr0, false⟩
      | none => ⟨attr0, false⟩ := by
  unfold readAttribute sought
  cases initBSONObject lib attrName attrNameNotInBO findPath queryResultBO <;> rfl

theorem sought_wrapped_path (lib : DriverLibrary) (attrName : FieldName) (path : String)
    (queryResultBO : BSONObj) :
    sought lib attrName true (some path) queryResultBO = lib.getFieldDotted queryResultBO path := by
  cases found : lib.getFieldDotted queryResultBO path <;> simp [sought, initBSONObject, found]

theorem sought_path (lib : DriverLibrary) (attrName : FieldName) (path : String)
    (queryResultBO : BSONObj) :
    sought lib attrName false (some path) queryResultBO =
      (lib.getFieldDotted queryResultBO path).bind fun be =>
        if be.type = .object then be.embeddedObject.getField attrName else none := by
  cases found : lib.getFieldDotted queryResultBO path with
  | none => simp [sought, initBSONObject, found]
  | some be => by_cases object : be.type = .object <;> simp [sought, initBSONObject, found, object]

end QueryCommon

-- An identifier names a field of objects only: the fields of arrays are named by indexes.
theorem BSONObj.Indexed.getField_identifier (obj : BSONObj) (indexed : obj.Indexed) (e : BSONValue)
    (within : (BSONValue.object obj).Within e) (name : FieldName)
    (identifier : name.isIdentifier = true) :
    e.embeddedObject.getField name =
      if e.type = .object then e.embeddedObject.getField name else none := by
  by_cases object : e.type = .object
  · rw [if_pos object]
  rw [if_neg object]
  by_cases array : e.type = .array
  · rw [BSONObj.getField, Option.map_eq_none_iff, List.find?_eq_none]
    intro be member same
    obtain ⟨i, index⟩ := indexed e within array be member
    rw [of_decide_eq_true same] at index
    exact name.isIdentifier_notIndex identifier i index
  · cases e with
    | object | array => contradiction
    | _ => rfl

open QueryCommon

theorem field_eq_multipleFields (rt : SplRuntime) (lib : DriverLibrary) (descends : lib.Descends)
    (obj : BSONObj) (undotted : obj.Undotted) (x : FieldName) (identifier : x.isIdentifier = true)
    (t : SplType) (attr0 : t.Value) :
    queryDocumentField rt lib x none t obj attr0 =
      queryDocumentMultipleFields rt lib x (some x.chars) t obj attr0 := by
  have nonempty : x.chars ≠ "" := by
    intro empty
    rw [FieldName.isIdentifier, empty] at identifier
    cases identifier
  have same : sought lib x false none obj = sought lib x true (some x.chars) obj := by
    rw [sought_wrapped_path, descends obj x.chars undotted nonempty,
      components_identifier x identifier, BSONValue.descend_field]
    rfl
  rw [queryDocumentField, queryDocumentMultipleFields, readAttribute_sought, readAttribute_sought,
    same]

theorem field_eq_multipleFields_path (rt : SplRuntime) (lib : DriverLibrary)
    (descends : lib.Descends) (obj : BSONObj) (undotted : obj.Undotted) (indexed : obj.Indexed)
    (x : FieldName) (identifier : x.isIdentifier = true) (t : SplType) (attr0 : t.Value)
    (path : String) (nonempty : path ≠ "") :
    queryDocumentField rt lib x (some path) t obj attr0 =
      queryDocumentMultipleFields rt lib x (some (path ++ "." ++ x.chars)) t obj attr0 := by
  have longer : path ++ "." ++ x.chars ≠ "" := by simp
  have same : sought lib x false (some path) obj =
      sought lib x true (some (path ++ "." ++ x.chars)) obj := by
    rw [sought_path, sought_wrapped_path, descends obj path undotted nonempty,
      descends obj _ undotted longer, components_dotted path x identifier,
      BSONValue.descend_append]
    cases found : (BSONValue.object obj).descend (components path) with
    | none => rfl
    | some e =>
      have within := BSONValue.descend_within _ _ e _ .self found
      simp only [Option.bind_some]
      rw [BSONValue.descend_field]
      exact (indexed.getField_identifier obj e within x identifier).symm
  rw [queryDocumentField, queryDocumentMultipleFields, readAttribute_sought, readAttribute_sought,
    same]

theorem Attributes.Has.get_refDecode (rt : SplRuntime) {attrs : Attributes} {name : FieldName}
    {t : SplType} (position : attrs.Has name t) (obj : BSONObj) :
    position.get (refDecodeAttributes rt attrs obj) =
      ((obj.getField name).bind (refDecode rt t)).getD t.cleared := by
  induction position with
  | @head name t rest =>
    simp only [Attributes.Has.get, refDecodeAttributes]
    cases obj.getField name <;> rfl
  | tail position ih => exact ih

theorem component_eq_field (rt : SplRuntime) (lib : DriverLibrary) (obj : BSONObj) (x : FieldName)
    {attrs : Attributes} {name : FieldName} {t : SplType} (position : attrs.Has name t) :
    position.get (queryDocumentMultipleFields rt lib x none (.tuple attrs) obj attrs.cleared).attr =
      (queryDocumentField rt lib name none t obj t.cleared).attr := by
  have whole : (queryDocumentMultipleFields rt lib x none (.tuple attrs) obj attrs.cleared).attr =
      refDecodeAttributes rt attrs obj :=
    queryDocumentMultipleFields_attr rt lib x (.tuple attrs) obj
  rw [whole, position.get_refDecode, queryDocumentField, readAttribute_cleared,
    Target.ofOption_attr]
  rfl

theorem access_paths_agree (rt : SplRuntime) (lib : DriverLibrary) (descends : lib.Descends)
    (obj : BSONObj) (undotted : obj.Undotted) (indexed : obj.Indexed) (x : FieldName)
    (identifier : x.isIdentifier = true) (t : SplType) :
    queryDocumentField rt lib x none t obj t.cleared =
      queryDocumentMultipleFields rt lib x (some x.chars) t obj t.cleared ∧
    (∀ path, path ≠ "" → queryDocumentField rt lib x (some path) t obj t.cleared =
      queryDocumentMultipleFields rt lib x (some (path ++ "." ++ x.chars)) t obj t.cleared) ∧
    ∀ (attrs : Attributes) (name : FieldName) (u : SplType) (position : attrs.Has name u),
      position.get
          (queryDocumentMultipleFields rt lib x none (.tuple attrs) obj attrs.cleared).attr =
        (queryDocumentField rt lib name none u obj u.cleared).attr :=
  ⟨field_eq_multipleFields rt lib descends obj undotted x identifier t t.cleared,
    field_eq_multipleFields_path rt lib descends obj undotted indexed x identifier t t.cleared,
    fun _ _ _ position => component_eq_field rt lib obj x position⟩

def DriverLibrary.descending : DriverLibrary where
  fromjson := DriverLibrary.plain.fromjson
  jsonString := DriverLibrary.plain.jsonString
  getFieldDotted obj path := (BSONValue.object obj).descend (components path)

def nestedDocument : BSONObj :=
  [(⟨"position", by decide⟩, .object [(⟨"x", by decide⟩, .numberInt 5#32)])]

theorem nestedDocument_within (e : BSONValue)
    (within : (BSONValue.object nestedDocument).Within e) :
    e = .object nestedDocument ∨ e = .object [(⟨"x", by decide⟩, .numberInt 5#32)] ∨
      e = .numberInt 5#32 := by
  rcases (BSONValue.within_iff _ e).mp within with same | ⟨be, member, inner⟩
  · exact Or.inl same
  rw [List.mem_singleton.mp member] at inner
  rcases (BSONValue.within_iff _ e).mp inner with same | ⟨be', member', leaf⟩
  · exact Or.inr (Or.inl same)
  rw [List.mem_singleton.mp member'] at leaf
  rcases (BSONValue.within_iff _ e).mp leaf with same | ⟨_, none, _⟩
  · exact Or.inr (Or.inr same)
  · cases none

theorem access_paths_agree_nested :
    queryDocumentField .plain .descending ⟨"x", by decide⟩ (some "position") (.prim (.int .int32))
        nestedDocument 0#32 =
      queryDocumentMultipleFields .plain .descending ⟨"x", by decide⟩
        (some ("position" ++ "." ++ "x")) (.prim (.int .int32)) nestedDocument 0#32 := by
  have undotted : nestedDocument.Undotted := by
    intro e within be member
    rcases nestedDocument_within e within with rfl | rfl | rfl
    · rw [List.mem_singleton.mp member]
      decide
    · rw [List.mem_singleton.mp member]
      decide
    · cases member
  have indexed : nestedDocument.Indexed := by
    intro e within array
    rcases nestedDocument_within e within with rfl | rfl | rfl <;> cases array
  exact (access_paths_agree .plain .descending (fun _ _ _ _ => rfl) nestedDocument undotted indexed
    ⟨"x", by decide⟩ (by decide) (.prim (.int .int32))).2.1 "position" (by decide)

end StreamsMongo
