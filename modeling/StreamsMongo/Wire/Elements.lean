import StreamsMongo.Wire.Access

set_option autoImplicit false

namespace StreamsMongo.Wire

open Bytes

-- Elements measured and found by their layout, as the headers describe it.
section Layout

variable (e : BSONElement)

def valuesize : Option Nat := do
  match ← e.type with
  | .minKey | .eoo | .undefined | .jstNULL | .maxKey => return 0
  | .bool => return 1
  | .numberInt => return 4
  | .numberDouble | .date | .timestamp | .numberLong => return 8
  | .jstOID => return 12
  | .string | .code | .symbol => return 4 + (← e.valuestrsize).toNat
  | .object | .array | .codeWScope => return (← e.valuestrsize).toNat
  | .binData => return 4 + 1 + (← e.valuestrsize).toNat
  | .dbRef => return 4 + (← e.valuestrsize).toNat + 12
  | .regEx => return (← e.regex).length + 1 + ((← e.regexFlags).length + 1)

def valuedata : Option (List UInt8) := do readBytes (← valuesize e) (← e.value)

def measured : Option Nat := do return 1 + (← e.fieldNameSize) + (← valuesize e)

-- The search as `getField` does it: from the first element on.
def findField (name : FieldName) (lib : ElementLibrary) :
    (rounds : Nat) → BSONObjIterator → Option BSONElement
  | 0, _ => none
  | rounds + 1, it =>
      if it.more then
        let (e, it) := it.next lib
        if fieldName? e = some name then some e else findField name lib rounds it
      else none

end Layout

def ElementLibrary.plain : ElementLibrary :=
  let size e := (measured e).getD 0
  let assertInvalid _ := .uassert "Invalid BSONObj size"
  let layout : ElementLibrary := ⟨size, assertInvalid, fun _ => .ok [], fun _ _ => none⟩
  { size
    assertInvalid
    embeddedObject e := layout.init (e.value.getD [])
    getField pointer name :=
      match BSONObjIterator.start pointer with
      | .ok it => findField name layout pointer.length it
      | .error _ => none }

section Plain

theorem valuesize_element (name : FieldName) (value : BSONValue) (rest : List UInt8)
    (terminated : Terminated value) (short : (data value).length < 2 ^ 32) :
    valuesize ⟨element (name, value) ++ rest⟩ = some (data value).length := by
  have known := value_element (name, value) rest
  have typed := type_element (name, value) rest
  rw [valuesize, typed]
  cases value with
  | minKey | undefined | jstNULL | maxKey => rfl
  | numberDouble word | jstOID word | date word | numberInt word | numberLong word =>
    simp [BSONValue.type, data]
  | timestamp seconds increment => simp [BSONValue.type, data]
  | bool boolean => rfl
  | string str | code str | symbol str =>
    have layout := known
    simp only [data, text, List.append_assoc] at layout
    obtain ⟨size, sized, exact⟩ := read_valuestrsize _ layout (text_counted str short)
    simp [BSONValue.type, sized, exact, data, text]
  | object fields | array fields =>
    have layout := known
    simp only [data, enclose, List.append_assoc] at layout
    have whole : (data (.object fields)).length = 4 + (elements fields).length + 1 :=
      length_objdata fields
    have counted : 4 + (elements fields).length + 1 < 2 ^ 32 := whole ▸ short
    obtain ⟨size, sized, exact⟩ := read_valuestrsize _ layout counted
    simp only [BSONValue.type, sized, exact, Option.bind_eq_bind, Option.bind_some, Option.pure_def]
    exact congrArg some whole.symm
  | binData subtype bytes =>
    have counted : bytes.length < 2 ^ 32 := by
      simp only [data, List.length_append] at short
      omega
    have layout := known
    simp only [data, List.append_assoc] at layout
    obtain ⟨size, sized, exact⟩ := read_valuestrsize _ layout counted
    simp [BSONValue.type, sized, exact, data]
    omega
  | regEx regex flags =>
    have read := read_regEx (utf8 regex) (utf8 flags) (mt (zero_mem_utf8 regex).mp terminated.1)
      (mt (zero_mem_utf8 flags).mp terminated.2) (by simpa [data] using known)
    simp [BSONValue.type, read, data]
  | dbRef ns oid =>
    have counted : (text ns).length < 2 ^ 32 := by
      simp only [data, List.length_append] at short
      omega
    have layout := known
    simp only [data, text, List.append_assoc] at layout
    obtain ⟨size, sized, exact⟩ := read_valuestrsize _ layout (text_counted ns counted)
    simp [BSONValue.type, sized, exact, data, text, Nat.add_assoc]
  | codeWScope code scope =>
    have layout := known
    simp only [data, List.append_assoc] at layout
    have whole : (data (.codeWScope code scope)).length =
        4 + (text code ++ enclose (elements scope)).length := by
      simp [data]
    obtain ⟨size, sized, exact⟩ := read_valuestrsize _ layout (whole ▸ short)
    simp only [BSONValue.type, sized, exact, Option.bind_eq_bind, Option.bind_some, Option.pure_def]
    exact congrArg some whole.symm

theorem measured_element (be : StreamsMongo.BSONElement) (rest : List UInt8)
    (terminated : Terminated be.2) (short : (element be).length < 2 ^ 31) :
    measured ⟨element be ++ rest⟩ = some (element be).length := by
  have value := valuesize_element be.1 be.2 rest terminated (data_small be short)
  rw [measured, fieldNameSize_element, value]
  simp [element, name]
  omega

theorem size_plain (be : StreamsMongo.BSONElement) (rest : List UInt8)
    (terminated : Terminated be.2) (short : (element be).length < 2 ^ 31) :
    ElementLibrary.plain.size ⟨element be ++ rest⟩ = (element be).length := by
  simp [ElementLibrary.plain, measured_element be rest terminated short]

theorem findField_ahead (lib : ElementLibrary) (name : FieldName) (fields : BSONObj)
    (size : ∀ be ∈ fields, ∀ rest, lib.size ⟨element be ++ rest⟩ = (element be).length)
    (front behind : List UInt8) (rounds : Nat) (enough : fields.length < rounds) :
    match BSONObj.getField fields name with
    | some value => ∃ after, findField name lib rounds (ahead front fields behind) =
        some ⟨element (name, value) ++ after⟩
    | none => findField name lib rounds (ahead front fields behind) = none := by
  induction fields generalizing front rounds with
  | nil =>
    cases rounds with
    | zero => cases enough
    | succ rounds => simp [findField, ahead_nil]
  | cons be fields ih =>
    cases rounds with
    | zero => cases enough
    | succ rounds =>
      have next := ahead_next front behind be fields lib (size be List.mem_cons_self)
      have later := ih (fun be member => size be (by simp [member])) (front ++ element be) rounds
        (by simpa using enough)
      have round : findField name lib (rounds + 1) (ahead front (be :: fields) behind) =
          if be.1 = name then some ⟨element be ++ (elements fields ++ behind)⟩
          else findField name lib rounds (ahead (front ++ element be) fields behind) := by
        rw [findField, if_pos (ahead_more front behind be fields)]
        simp only [next, fieldName?_element, Option.some.injEq]
      rw [BSONObj.getField_cons, round]
      split_ifs with same
      · subst same
        exact ⟨_, rfl⟩
      · exact later

theorem ElementLibrary.plain_documented : ElementLibrary.plain.Documented where
  size := size_plain
  embeddedObject name value fields rest object := by
    have known := value_element (name, value) rest
    refine ⟨rest, ?_⟩
    simp only [ElementLibrary.plain, known, Option.getD_some]
    rcases object with rfl | rfl <;> rfl
  getField fields rest name terminated short := by
    have size := length_objdata fields
    have counted := length_le_elements fields
    have sizes : ∀ be ∈ fields, ∀ rest,
        ElementLibrary.plain.size ⟨element be ++ rest⟩ = (element be).length := by
      intro be member rest
      exact size_plain be rest (terminated.of_mem be member) (element_short fields short be member)
    have found := findField_ahead ⟨ElementLibrary.plain.size, ElementLibrary.plain.assertInvalid,
        fun _ => .ok [], fun _ _ => none⟩ name fields sizes (length (objdata fields).length)
      (BSONType.eoo.typeByte :: rest) (objdata fields ++ rest).length
      (by rw [List.length_append]; omega)
    simp only [ElementLibrary.plain, start_objdata fields rest short]
    exact found

def DocumentLibrary.plain : DocumentLibrary where
  toElementLibrary := .plain
  getFieldDotted pointer path :=
    if h : nul ∈ path.toList then none else ElementLibrary.plain.getField pointer ⟨path, h⟩
  wrap e newName := do
    let b ← BSONObjBuilder.start
    let type ← inMemory e.type
    let value ← inMemory (valuedata e)
    let b ← b.appendElement type newName.chars [value]
    b.obj
  jsonString _ := DriverLibrary.plain.jsonString []

theorem wrap_plain (be : StreamsMongo.BSONElement) (rest : List UInt8) (newName : FieldName)
    (terminated : Terminated be.2) (short : (element be).length < 2 ^ 31)
    (fits : Fits [(newName, be.2)]) :
    DocumentLibrary.plain.wrap ⟨element be ++ rest⟩ newName = .ok (objdata [(newName, be.2)]) := by
  obtain ⟨start, b, begun, wrote, ended⟩ := built_alone newName be.2 [data be.2]
    List.flatten_singleton fits
  have typed := type_element be rest
  have known := value_element be rest
  have sized := valuesize_element be.1 be.2 rest terminated (data_small be short)
  have value : valuedata ⟨element be ++ rest⟩ = some (data be.2) := by
    simp only [valuedata, sized, known, Option.bind_eq_bind, Option.bind_some]
    exact readBytes_append _ _
  simp only [DocumentLibrary.plain, begun, typed, value, inMemory, wrote, ended, bind, Except.bind]

theorem DocumentLibrary.plain_documented :
    DocumentLibrary.plain.Documented DriverLibrary.plain where
  toDocumented := ElementLibrary.plain_documented
  getFieldDotted fields rest path terminated bounded := by
    have short := short_of_bounded bounded
    simp only [DriverLibrary.plain, DocumentLibrary.plain]
    split_ifs with dirty
    · rfl
    · have found := ElementLibrary.plain_documented.getField fields rest ⟨path, dirty⟩ terminated
        short
      cases held : BSONObj.getField fields ⟨path, dirty⟩ with
      | none => rwa [held] at found
      | some value =>
        rw [held] at found
        obtain ⟨after, found⟩ := found
        exact ⟨.object fields, ⟨path, dirty⟩, after, .self, getField_mem fields _ value held, found⟩
  wrap := wrap_plain
  jsonString fields rest _ _ := rfl

end Plain

theorem document_read_back {lib : ElementLibrary} (documented : lib.Documented) (fields : BSONObj)
    (terminated : AllTerminated fields) (short : (objdata fields).length < 2 ^ 31) :
    (∀ behind : List UInt8, readDocument lib (objdata fields ++ behind) =
      if (objdata fields).length ≤ BSONObjMaxInternalSize then .ok fields
      else .error (.raised (lib.assertInvalid (objdata fields ++ behind)))) ∧
    ((objdata fields).length ≤ BSONObjMaxInternalSize →
      ∀ other : BSONObj, AllTerminated other → (objdata other).length < 2 ^ 31 →
        ∀ behind behind' : List UInt8, objdata fields ++ behind = objdata other ++ behind' →
          fields = other) := by
  have read (fields : BSONObj) (terminated : AllTerminated fields)
      (short : (objdata fields).length < 2 ^ 31) (behind : List UInt8) :
      readDocument lib (objdata fields ++ behind) =
        if (objdata fields).length ≤ BSONObjMaxInternalSize then .ok fields
        else .error (.raised (lib.assertInvalid (objdata fields ++ behind))) := by
    rw [readDocument, init_objdata fields behind short]
    split_ifs with bounded
    · rw [ok_bind]
      exact readFields_objdata documented _ fields terminated bounded
        (by rw [List.length_append]; omega) _ (List.prefix_append _ _)
    · rfl
  refine ⟨read fields terminated short, ?_⟩
  intro bounded other terminated' short' behind behind' same
  have here := read fields terminated short behind
  rw [same, read other terminated' short', if_pos bounded] at here
  split_ifs at here
  exact (Except.ok.inj here).symm

def patternFields : BSONObj :=
  [(⟨"pattern", by decide⟩, .regEx "a+" "i"),
    (⟨"action", by decide⟩, .object [(⟨"code", by decide⟩, .codeWScope "f" [])])]

theorem document_read_back_pattern :
    readDocument ElementLibrary.plain (objdata patternFields ++ [7]) = .ok patternFields :=
  ((document_read_back ElementLibrary.plain_documented patternFields
    ⟨⟨by decide, by decide⟩, ⟨trivial, trivial⟩, trivial⟩ (by decide)).1 [7]).trans
      (if_pos (by decide))

end StreamsMongo.Wire
