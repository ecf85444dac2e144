import StreamsMongo.Wire.Building
import StreamsMongo.Wire.Iterator

set_option autoImplicit false

namespace StreamsMongo.Wire

open Bytes

section Reading

variable (lib : ElementLibrary)

def fieldName? (e : BSONElement) : Option FieldName := do
  let chars ← text? (← readCString e.fieldName)
  if h : nul ∈ chars.toList then none else return ⟨chars, h⟩

variable (embedded : Pointer → Except Stopped BSONObj)

def readValue (e : BSONElement) : Except Stopped BSONValue := do
  match ← inMemory e.type with
  | .minKey => return .minKey
  | .eoo => throw .outside
  | .numberDouble => return .numberDouble (← inMemory (e.read 64))
  | .string => return .string (← inMemory e.valueStringData)
  | .object => return .object (← embedded (← lib.embeddedObject e))
  | .array => return .array (← embedded (← lib.embeddedObject e))
  | .binData => return .binData (← inMemory e.binDataType) (← inMemory e.binData)
  | .undefined => return .undefined
  | .jstOID => return .jstOID (← inMemory (e.read 96))
  | .bool => return .bool (← inMemory e.boolean)
  | .date => return .date (← inMemory (e.read 64))
  | .jstNULL => return .jstNULL
  | .regEx => inMemory do return .regEx (← text? (← e.regex)) (← text? (← e.regexFlags))
  | .dbRef => inMemory do return .dbRef (← text? (← e.dbrefNS)) (← e.dbrefOID)
  | .code => return .code (← inMemory e.valueStringData)
  | .symbol => return .symbol (← inMemory e.valueStringData)
  | .codeWScope => do
      let code ← inMemory do
        text? (← readBytes ((← e.codeWScopeCodeLen) - 1) (← e.codeWScopeCode))
      return .codeWScope code (← embedded (← inMemory e.codeWScopeScopeData))
  | .numberInt => return .numberInt (← inMemory (e.read 32))
  | .timestamp => do
      let (seconds, increment) ← inMemory e.timestamp
      return .timestamp seconds increment
  | .numberLong => return .numberLong (← inMemory (e.read 64))
  | .maxKey => return .maxKey

def readElement (fields : BSONObj) (e : BSONElement) : Except Stopped BSONObj := do
  return fields ++ [(← inMemory (fieldName? e), ← readValue lib embedded e)]

end Reading

def readFields (lib : ElementLibrary) : (depth : Nat) → Pointer → Except Stopped BSONObj
  | 0, _ => .error .outside
  | depth + 1, objdata => do
      BSONObjIterator.forEach lib (readElement lib (readFields lib depth)) objdata.length
        (← BSONObjIterator.start objdata) []

/-- An object over memory, and all that is in it. -/
def readDocument (lib : ElementLibrary) (bsonData : Pointer) : Except Stopped BSONObj := do
  let obj ← lib.init bsonData
  readFields lib (obj.length + 1) obj

section Readable

mutual

def Terminated : BSONValue → Prop
  | .regEx regex flags => nul ∉ regex.toList ∧ nul ∉ flags.toList
  | .dbRef ns _ => nul ∉ ns.toList
  | .object fields | .array fields | .codeWScope _ fields => AllTerminated fields
  | .minKey | .numberDouble _ | .string _ | .binData _ _ | .undefined | .jstOID _ | .bool _
  | .date _ | .jstNULL | .code _ | .symbol _ | .numberInt _ | .timestamp _ _ | .numberLong _
  | .maxKey => True

def AllTerminated : List (FieldName × BSONValue) → Prop
  | [] => True
  | (_, value) :: rest => Terminated value ∧ AllTerminated rest

end

theorem AllTerminated.of_mem {fields : BSONObj} (all : AllTerminated fields)
    (be : StreamsMongo.BSONElement) (member : be ∈ fields) : Terminated be.2 := by
  induction fields with
  | nil => cases member
  | cons head fields ih =>
    rcases List.mem_cons.mp member with rfl | later
    · exact all.1
    · exact ih all.2 later

/-- Where what an element or an object holds begins and ends in the memory. -/
structure ElementLibrary.Documented (lib : ElementLibrary) : Prop where
  size (be : StreamsMongo.BSONElement) (rest : List UInt8) : Terminated be.2 →
    (element be).length < 2 ^ 31 → lib.size ⟨element be ++ rest⟩ = (element be).length
  embeddedObject (name : FieldName) (value : BSONValue) (fields : BSONObj) (rest : List UInt8) :
    value = .object fields ∨ value = .array fields → ∃ behind,
      lib.embeddedObject ⟨element (name, value) ++ rest⟩ = lib.init (objdata fields ++ behind)
  getField (fields : BSONObj) (rest : List UInt8) (name : FieldName) : AllTerminated fields →
    (objdata fields).length < 2 ^ 31 →
    match BSONObj.getField fields name with
    | some value => ∃ after, lib.getField (objdata fields ++ rest) name =
        some ⟨element (name, value) ++ after⟩
    | none => lib.getField (objdata fields ++ rest) name = none

end Readable

section Accessors

theorem typeOf_typeByte (type : BSONType) :
    enumerators.find? (fun other => other.typeByte = type.typeByte) = some type := by
  cases type <;> rfl

theorem type_element (be : StreamsMongo.BSONElement) (rest : List UInt8) :
    (BSONElement.mk (element be ++ rest)).type = some be.2.type :=
  typeOf_typeByte be.2.type

theorem fieldName_element (be : StreamsMongo.BSONElement) (rest : List UInt8) :
    (BSONElement.mk (element be ++ rest)).fieldName = name be.1 ++ (data be.2 ++ rest) := by
  simp [BSONElement.fieldName, element]

theorem type_noEoo (value : BSONValue) : value.type ≠ .eoo := by
  cases value <;> simp [BSONValue.type]

theorem name_clean (fieldName : FieldName) : 0 ∉ utf8 fieldName.chars :=
  mt (zero_mem_utf8 fieldName.chars).mp fieldName.noNul

theorem fieldName?_element (be : StreamsMongo.BSONElement) (rest : List UInt8) :
    fieldName? ⟨element be ++ rest⟩ = some be.1 := by
  have chars := readCString_cstring (utf8 be.1.chars) (data be.2 ++ rest) (name_clean be.1)
  rw [fieldName?, fieldName_element, name, chars]
  simp [text?_utf8, be.1.noNul]

theorem fieldNameSize_element (be : StreamsMongo.BSONElement) (rest : List UInt8) :
    (BSONElement.mk (element be ++ rest)).fieldNameSize =
      some ((utf8 be.1.chars).length + 1) := by
  have size := strlen_cstring (utf8 be.1.chars) (data be.2 ++ rest) (name_clean be.1)
  simp [BSONElement.fieldNameSize, type_element, type_noEoo, fieldName_element, name, size]

theorem value_element (be : StreamsMongo.BSONElement) (rest : List UInt8) :
    (BSONElement.mk (element be ++ rest)).value = some (data be.2 ++ rest) := by
  have front : (be.2.type.typeByte :: name be.1).length = (utf8 be.1.chars).length + 1 + 1 := by
    simp [name]
  have split : element be ++ rest =
      (be.2.type.typeByte :: name be.1) ++ (data be.2 ++ rest) := by
    rw [element, List.append_assoc]
  rw [BSONElement.value, fieldNameSize_element]
  simp only [Option.pure_def, Option.bind_eq_bind, Option.bind_some]
  rw [split, ← front, List.drop_left]

variable {e : BSONElement} {rest : List UInt8}

theorem read_word {w : Nat} (whole : 8 ∣ w) (x : BitVec w)
    (known : e.value = some (writeLE x ++ rest)) : e.read w = some x := by
  simp [BSONElement.read, known, readLE_writeLE w whole x rest]

theorem read_valuestrsize (n : Nat) (known : e.value = some (length n ++ rest))
    (short : n < 2 ^ 32) : ∃ size, e.valuestrsize = some size ∧ size.toNat = n :=
  ⟨_, read_word (by decide) _ known, by rw [BitVec.toNat_ofNat, Nat.mod_eq_of_lt short]⟩

theorem drop_length (n k : Nat) (bytes : List UInt8) :
    (length n ++ bytes).drop (4 + k) = bytes.drop k := by
  rw [← length_length n, List.drop_append]
  simp

theorem text_counted (str : String) (short : (text str).length < 2 ^ 32) :
    (utf8 str).length + 1 < 2 ^ 32 := by
  simp only [text, List.length_append, length_length, length_cstring] at short
  omega

theorem read_text (str : String) (known : e.value = some (text str ++ rest))
    (short : (text str).length < 2 ^ 32) : e.valueStringData = some str := by
  have counted := text_counted str short
  rw [text, List.append_assoc] at known
  obtain ⟨size, sized, exact⟩ := read_valuestrsize _ known counted
  have front := readBytes_append (utf8 str) (0 :: rest)
  simp [BSONElement.valueStringData, BSONElement.valuestr, known, sized, exact, cstring, front,
    text?_utf8]

theorem read_binData (subtype : UInt8) (bytes : List UInt8)
    (known : e.value = some (length bytes.length ++ (subtype :: (bytes ++ rest))))
    (short : bytes.length < 2 ^ 32) :
    e.binDataType = some subtype ∧ e.binData = some bytes := by
  obtain ⟨size, sized, exact⟩ := read_valuestrsize _ known short
  have behind := drop_length bytes.length 1 (subtype :: (bytes ++ rest))
  constructor
  · simp [BSONElement.binDataType, BSONElement.valuestr, known]
  · simp only [BSONElement.binData, known, sized, Option.bind_eq_bind, Option.bind_some, exact]
    rw [behind]
    exact readBytes_append bytes rest

theorem read_regEx (regex flags : List UInt8) (plain : 0 ∉ regex) (plainFlags : 0 ∉ flags)
    (known : e.value = some (cstring regex ++ (cstring flags ++ rest))) :
    e.regex = some regex ∧ e.regexFlags = some flags := by
  have first : e.regex = some regex := by
    simp [BSONElement.regex, known, readCString_cstring _ _ plain]
  have behind : (cstring regex ++ (cstring flags ++ rest)).drop (regex.length + 1) =
      cstring flags ++ rest := by
    rw [← length_cstring, List.drop_left]
  refine ⟨first, ?_⟩
  simp only [BSONElement.regexFlags, known, first, Option.bind_eq_bind, Option.bind_some, behind]
  exact readCString_cstring _ _ plainFlags

theorem read_dbRef (ns : String) (oid : BitVec 96) (plain : nul ∉ ns.toList)
    (known : e.value = some (text ns ++ (writeLE oid ++ rest)))
    (short : (text ns).length < 2 ^ 32) :
    e.dbrefNS = some (utf8 ns) ∧ e.dbrefOID = some oid := by
  have counted := text_counted ns short
  have clean : 0 ∉ utf8 ns := mt (zero_mem_utf8 ns).mp plain
  rw [text, List.append_assoc] at known
  obtain ⟨size, sized, exact⟩ := read_valuestrsize _ known counted
  have behind : (length ((utf8 ns).length + 1) ++ (cstring (utf8 ns) ++ (writeLE oid ++ rest))).drop
      (4 + ((utf8 ns).length + 1)) = writeLE oid ++ rest := by
    rw [drop_length, ← length_cstring, List.drop_left]
  constructor
  · simp [BSONElement.dbrefNS, BSONElement.valuestr, known, readCString_cstring _ _ clean]
  · simp only [BSONElement.dbrefOID, known, sized, exact, Option.bind_eq_bind, Option.bind_some,
      behind]
    exact readLE_writeLE 96 (by decide) oid rest

theorem read_codeWScope (n : Nat) (code : String) (scope : List UInt8)
    (known : e.value = some (length n ++ (text code ++ (scope ++ rest))))
    (short : (text code).length < 2 ^ 32) :
    e.codeWScopeCodeLen = some ((utf8 code).length + 1) ∧
      e.codeWScopeCode = some (cstring (utf8 code) ++ (scope ++ rest)) ∧
      e.codeWScopeScopeData = some (scope ++ rest) := by
  have counted := text_counted code short
  rw [text, List.append_assoc] at known
  have start : e.codeWScopeCode = some (cstring (utf8 code) ++ (scope ++ rest)) := by
    have behind := drop_length n 4
      (length ((utf8 code).length + 1) ++ (cstring (utf8 code) ++ (scope ++ rest)))
    simp only [BSONElement.codeWScopeCode, known, Option.bind_eq_bind, Option.bind_some, behind]
    simp
  have sized : e.codeWScopeCodeLen = some ((utf8 code).length + 1) := by
    simpa [BSONElement.codeWScopeCodeLen, BSONElement.valuestr, known, read_length] using counted
  refine ⟨sized, start, ?_⟩
  simp only [BSONElement.codeWScopeScopeData, start, sized, Option.bind_eq_bind, Option.bind_some]
  rw [← length_cstring, List.drop_left]
  rfl

theorem read_timestamp (seconds increment : BitVec 32)
    (known : e.value = some (writeLE increment ++ (writeLE seconds ++ rest))) :
    e.timestamp = some (seconds, increment) := by
  have behind : (writeLE increment ++ (writeLE seconds ++ rest)).drop 4 = writeLE seconds ++ rest :=
    List.drop_left' (length_writeLE increment)
  simp only [BSONElement.timestamp, known, Option.bind_eq_bind, Option.bind_some, behind]
  rw [readLE_writeLE 32 (by decide) seconds rest, readLE_writeLE 32 (by decide) increment]
  rfl

end Accessors

section Documents

variable {lib : ElementLibrary} (documented : lib.Documented)
  (embedded : Pointer → Except Stopped BSONObj)

inductive Holds (fields : BSONObj) : BSONValue → Prop where
  | object : Holds fields (.object fields)
  | array : Holds fields (.array fields)
  | codeWScope (code : String) : Holds fields (.codeWScope code fields)

theorem Holds.terminated {fields : BSONObj} {value : BSONValue} (holds : Holds fields value)
    (terminated : Terminated value) : AllTerminated fields := by
  cases holds <;> exact terminated

theorem Holds.shorter {fields : BSONObj} {value : BSONValue} (holds : Holds fields value) :
    (objdata fields).length ≤ (data value).length := by
  cases holds with
  | object | array => exact Nat.le_refl _
  | codeWScope code =>
    simp only [data, objdata, List.length_append]
    omega

theorem toInt_objdata (fields : BSONObj) (short : (objdata fields).length < 2 ^ 31) :
    (BitVec.ofNat 32 (objdata fields).length).toInt = (objdata fields).length := by
  have number : (BitVec.ofNat 32 (objdata fields).length).toNat = (objdata fields).length := by
    rw [BitVec.toNat_ofNat, Nat.mod_eq_of_lt (by omega)]
  rw [BitVec.toInt_eq_toNat_of_lt (by omega), number]

theorem isValid_objdata (fields : BSONObj) (rest : List UInt8)
    (short : (objdata fields).length < 2 ^ 31) :
    isValid (objdata fields ++ rest) =
      some (decide ((objdata fields).length ≤ BSONObjMaxInternalSize)) := by
  have size := length_objdata fields
  have known := read_objdata fields rest
  have int := toInt_objdata fields short
  have positive : 0 < (objdata fields).length := by omega
  simp [isValid, known, int, positive]

theorem init_objdata (fields : BSONObj) (rest : List UInt8)
    (short : (objdata fields).length < 2 ^ 31) :
    lib.init (objdata fields ++ rest) =
      if (objdata fields).length ≤ BSONObjMaxInternalSize then .ok (objdata fields ++ rest)
      else .error (.raised (lib.assertInvalid (objdata fields ++ rest))) := by
  rw [ElementLibrary.init, isValid_objdata fields rest short]
  by_cases bounded : (objdata fields).length ≤ BSONObjMaxInternalSize
  · simp only [bounded, decide_true, inMemory_some, ok_bind, if_true]
    rfl
  · simp only [bounded, decide_false, inMemory_some, ok_bind, if_false]
    rfl

theorem init_bounded (fields : BSONObj) (rest : List UInt8)
    (bounded : (objdata fields).length ≤ BSONObjMaxInternalSize) :
    lib.init (objdata fields ++ rest) = .ok (objdata fields ++ rest) := by
  rw [init_objdata fields rest (short_of_bounded bounded), if_pos bounded]

include documented

theorem ElementLibrary.Documented.opened (name : FieldName) (value : BSONValue) (fields : BSONObj)
    (rest : List UInt8) (object : value = .object fields ∨ value = .array fields)
    (bounded : (objdata fields).length ≤ BSONObjMaxInternalSize) :
    ∃ pointer, lib.embeddedObject ⟨element (name, value) ++ rest⟩ = .ok pointer ∧
      objdata fields <+: pointer := by
  obtain ⟨behind, opened⟩ := documented.embeddedObject name value fields rest object
  exact ⟨_, opened.trans (init_bounded fields behind bounded), List.prefix_append _ _⟩

theorem readValue_element (name : FieldName) (value : BSONValue) (rest : List UInt8)
    (terminated : Terminated value) (bounded : (data value).length ≤ BSONObjMaxInternalSize)
    (within : ∀ fields, Holds fields value → ∀ pointer, objdata fields <+: pointer →
      embedded pointer = .ok fields) :
    readValue lib embedded ⟨element (name, value) ++ rest⟩ = .ok value := by
  have limit : BSONObjMaxInternalSize < 2 ^ 32 := by decide
  have short : (data value).length < 2 ^ 32 := Nat.lt_of_le_of_lt bounded limit
  have known := value_element (name, value) rest
  have typed := type_element (name, value) rest
  rw [readValue, typed]
  cases value with
  | minKey | undefined | jstNULL | maxKey => rfl
  | numberDouble word | jstOID word | date word | numberInt word | numberLong word =>
    have read := read_word (by decide) word known
    simp [BSONValue.type, read]
  | string str | code str | symbol str =>
    have read := read_text str known short
    simp [BSONValue.type, read]
  | object fields =>
    obtain ⟨pointer, opened, begins⟩ :=
      documented.opened name (.object fields) fields rest (.inl rfl) bounded
    have read := within fields .object _ begins
    simp [BSONValue.type, opened, read]
  | array fields =>
    obtain ⟨pointer, opened, begins⟩ :=
      documented.opened name (.array fields) fields rest (.inr rfl) bounded
    have read := within fields .array _ begins
    simp [BSONValue.type, opened, read]
  | binData subtype bytes =>
    have counted : bytes.length < 2 ^ 32 := by
      simp only [data, List.length_append] at short
      omega
    have read := read_binData subtype bytes (by simpa [data] using known) counted
    simp [BSONValue.type, read]
  | bool boolean =>
    cases boolean <;> simp [BSONValue.type, BSONElement.boolean, known, data]
  | regEx regex flags =>
    have read := read_regEx (utf8 regex) (utf8 flags) (mt (zero_mem_utf8 regex).mp terminated.1)
      (mt (zero_mem_utf8 flags).mp terminated.2) (by simpa [data] using known)
    simp [BSONValue.type, read, text?_utf8]
  | dbRef ns oid =>
    have counted : (text ns).length < 2 ^ 32 := by
      simp only [data, List.length_append] at short
      omega
    have read := read_dbRef ns oid terminated (by simpa [data] using known) counted
    simp [BSONValue.type, read, text?_utf8]
  | codeWScope code scope =>
    have counted : (text code).length < 2 ^ 32 := by
      simp only [data, List.length_append] at short
      omega
    have layout := known
    simp only [data, List.append_assoc] at layout
    obtain ⟨sized, start, scope'⟩ := read_codeWScope _ code (objdata scope) layout counted
    have chars : readBytes ((utf8 code).length + 1 - 1)
        (cstring (utf8 code) ++ (objdata scope ++ rest)) = some (utf8 code) := by
      rw [Nat.add_sub_cancel, cstring, List.append_assoc]
      exact readBytes_append _ _
    have read := within scope (.codeWScope code) _ (List.prefix_append (objdata scope) rest)
    simp only [BSONValue.type, sized, start, scope', chars, read, text?_utf8,
      Option.bind_eq_bind, Option.bind_some, inMemory_some, ok_bind]
    rfl
  | timestamp seconds increment =>
    have read := read_timestamp seconds increment (by simpa [data] using known)
    simp [BSONValue.type, read]

end Documents

section Loop

/-- The iterator stands behind `front`, with the elements `fields` still to come. -/
def ahead (front : List UInt8) (fields : BSONObj) (behind : List UInt8) : BSONObjIterator :=
  ⟨front ++ (elements fields ++ behind), front.length,
    (front.length + (elements fields).length : Nat)⟩

variable (front behind : List UInt8) (be : StreamsMongo.BSONElement) (fields : BSONObj)

theorem ahead_nil : (ahead front [] behind).more = false := by
  simp [ahead, BSONObjIterator.more, elements]

theorem ahead_more : (ahead front (be :: fields) behind).more = true := by
  have positive : 0 < (element be).length := by simp [element]
  rw [ahead, elements_cons, List.length_append]
  simp only [BSONObjIterator.more, decide_eq_true_eq, Int.ofNat_lt]
  omega

theorem ahead_next (lib : ElementLibrary) (size : ∀ rest : List UInt8,
    lib.size ⟨element be ++ rest⟩ = (element be).length) :
    (ahead front (be :: fields) behind).next lib =
      (⟨element be ++ (elements fields ++ behind)⟩, ahead (front ++ element be) fields behind) := by
  have here : (front ++ (elements (be :: fields) ++ behind)).drop front.length =
      element be ++ (elements fields ++ behind) := by
    rw [List.drop_left, elements_cons, List.append_assoc]
  rw [ahead, BSONObjIterator.next, here, size, ahead, elements_cons]
  simp only [List.append_assoc, List.length_append, Nat.add_assoc]

variable {C : Type} {lib : ElementLibrary} (documented : lib.Documented)
  (round : C → BSONElement → Except Stopped C) (step : C → StreamsMongo.BSONElement → C)

include documented

theorem forEach_ahead (terminated : AllTerminated fields)
    (short : (elements fields).length < 2 ^ 31)
    (agree : ∀ be ∈ fields, ∀ c rest, round c ⟨element be ++ rest⟩ = .ok (step c be))
    (rounds : Nat) (enough : fields.length < rounds) (c : C) :
    BSONObjIterator.forEach lib round rounds (ahead front fields behind) c =
      .ok (fields.foldl step c) := by
  induction fields generalizing front rounds c with
  | nil =>
    cases rounds with
    | zero => cases enough
    | succ rounds =>
      simp only [BSONObjIterator.forEach, ahead_nil]
      rfl
  | cons be fields ih =>
    cases rounds with
    | zero => cases enough
    | succ rounds =>
      rw [elements_cons, List.length_append] at short
      have next := ahead_next front behind be fields lib fun rest =>
        documented.size be rest terminated.1 (by omega)
      have first := agree be List.mem_cons_self c (elements fields ++ behind)
      have later := ih (front ++ element be) terminated.2 (by omega)
        (fun be member => agree be (by simp [member])) rounds (by simpa using enough) (step c be)
      rw [BSONObjIterator.forEach, if_pos (ahead_more front behind be fields)]
      simp only [next, first, later, ok_bind]
      rfl

end Loop

section Documents

theorem length_le_elements (fields : BSONObj) : fields.length ≤ (elements fields).length := by
  induction fields with
  | nil => exact Nat.le_refl 0
  | cons be fields ih =>
    rw [elements_cons, List.length_append, List.length_cons]
    have positive : 0 < (element be).length := by simp [element]
    omega

theorem element_le_elements (fields : BSONObj) (be : StreamsMongo.BSONElement)
    (member : be ∈ fields) : (element be).length ≤ (elements fields).length := by
  induction fields with
  | nil => cases member
  | cons head fields ih =>
    rw [elements_cons, List.length_append]
    rcases List.mem_cons.mp member with rfl | later
    · exact Nat.le_add_right _ _
    · have inner := ih later
      omega

theorem data_lt_element (be : StreamsMongo.BSONElement) :
    (data be.2).length < (element be).length := by
  simp only [element, List.length_append, List.length_cons]
  omega

theorem data_small (be : StreamsMongo.BSONElement) (short : (element be).length < 2 ^ 31) :
    (data be.2).length < 2 ^ 32 := by
  have inside := data_lt_element be
  omega

theorem data_lt_elements (fields : BSONObj) (be : StreamsMongo.BSONElement)
    (member : be ∈ fields) : (data be.2).length < (elements fields).length :=
  Nat.lt_of_lt_of_le (data_lt_element be) (element_le_elements fields be member)

structure Readable (be : StreamsMongo.BSONElement) : Prop where
  terminated : Terminated be.2
  short : (element be).length < 2 ^ 31
  bounded : (data be.2).length ≤ BSONObjMaxInternalSize

theorem element_short (fields : BSONObj) (short : (objdata fields).length < 2 ^ 31)
    (be : StreamsMongo.BSONElement) (member : be ∈ fields) : (element be).length < 2 ^ 31 := by
  have part := element_le_elements fields be member
  have size := length_objdata fields
  omega

theorem readable_of_mem (fields : BSONObj) (terminated : AllTerminated fields)
    (bounded : (objdata fields).length ≤ BSONObjMaxInternalSize) (be : StreamsMongo.BSONElement)
    (member : be ∈ fields) : Readable be := by
  have short := short_of_bounded bounded
  have part := element_le_elements fields be member
  have inside := data_lt_element be
  have size := length_objdata fields
  exact ⟨terminated.of_mem be member, by omega, by omega⟩

theorem start_objdata (fields : BSONObj) (rest : List UInt8)
    (short : (objdata fields).length < 2 ^ 31) :
    BSONObjIterator.start (objdata fields ++ rest) =
      .ok (ahead (length (objdata fields).length) fields (BSONType.eoo.typeByte :: rest)) := by
  have size := length_objdata fields
  have known := read_objdata fields rest
  have int := toInt_objdata fields short
  have positive : BitVec.ofNat 32 (objdata fields).length ≠ 0 := by
    intro zero
    rw [zero] at int
    have none : (0 : Int) = (objdata fields).length := int
    omega
  have last : ((objdata fields).length : Int) - 1 = (4 + (elements fields).length : Nat) := by
    omega
  rw [BSONObjIterator.start, known, objdata_append, ahead]
  simp only [inMemory_some, ok_bind, if_neg positive, int, last, length_length]
  rfl

theorem forEach_objdata {C : Type} {lib : ElementLibrary} (documented : lib.Documented)
    (round : C → BSONElement → Except Stopped C) (step : C → StreamsMongo.BSONElement → C)
    (fields : BSONObj) (terminated : AllTerminated fields)
    (short : (objdata fields).length < 2 ^ 31)
    (agree : ∀ be ∈ fields, ∀ c rest, round c ⟨element be ++ rest⟩ = .ok (step c be))
    (pointer : Pointer) (begins : objdata fields <+: pointer) (c : C) :
    (do BSONObjIterator.forEach lib round pointer.length (← BSONObjIterator.start pointer) c) =
      .ok (fields.foldl step c) := by
  obtain ⟨rest, rfl⟩ := begins
  have size := length_objdata fields
  have counted := length_le_elements fields
  rw [start_objdata fields rest short]
  exact forEach_ahead _ _ fields documented round step terminated (by omega) agree _
    (by rw [List.length_append]; omega) c

theorem foldl_concat_elements (fields start : BSONObj) :
    fields.foldl (fun fields be => fields ++ [be]) start = start ++ fields := by
  induction fields generalizing start with
  | nil => simp
  | cons be fields ih => simp [ih]

theorem readFields_objdata {lib : ElementLibrary} (documented : lib.Documented) (depth : Nat)
    (fields : BSONObj) (terminated : AllTerminated fields)
    (bounded : (objdata fields).length ≤ BSONObjMaxInternalSize)
    (deep : (objdata fields).length < depth) (pointer : Pointer)
    (begins : objdata fields <+: pointer) : readFields lib depth pointer = .ok fields := by
  induction depth generalizing fields pointer with
  | zero => cases deep
  | succ depth ih =>
    have short := short_of_bounded bounded
    have size := length_objdata fields
    have agree : ∀ be ∈ fields, ∀ (c : BSONObj) rest,
        readElement lib (readFields lib depth) c ⟨element be ++ rest⟩ = .ok (c ++ [be]) := by
      intro be member c rest
      have smaller := data_lt_elements fields be member
      have value := readValue_element documented (readFields lib depth) be.1 be.2 rest
        (terminated.of_mem be member) (by omega) fun inner holds pointer' => by
          have part := holds.shorter
          exact ih inner (holds.terminated (terminated.of_mem be member)) (by omega) (by omega)
            pointer'
      simp only [readElement, fieldName?_element, value, inMemory_some, ok_bind]
      rfl
    rw [readFields, forEach_objdata documented _ _ fields terminated (by omega) agree pointer
      begins, foldl_concat_elements]
    rfl

end Documents

end StreamsMongo.Wire
