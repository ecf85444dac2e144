import Mathlib.Data.BitVec
import Mathlib.Data.List.Basic
import StreamsMongo.Library.Numerals

set_option autoImplicit false

namespace StreamsMongo

def nul : Char := Char.ofNat 0

-- A BSON field name is a C string, so it holds no null byte.
structure FieldName where
  chars : String
  noNul : nul ∉ chars.toList
  deriving DecidableEq

theorem FieldName.eq_of_chars : {name other : FieldName} → name.chars = other.chars → name = other
  | ⟨_, _⟩, ⟨_, _⟩, rfl => rfl

inductive Raised where
  | uassert (msg : String)
  | msgassert (msg : String)
  | dbException (msg : String)
  | splRuntime (msg : String)
  -- Code generation reports an error, so no code runs at all.
  | notGenerated (msg : String)
  deriving DecidableEq

inductive BSONType where
  | minKey | eoo | numberDouble | string | object | array | binData | undefined | jstOID | bool
  | date | jstNULL | regEx | dbRef | code | symbol | codeWScope | numberInt | timestamp
  | numberLong | maxKey
  deriving DecidableEq

inductive BSONValue where
  | minKey
  | numberDouble (bits : BitVec 64)
  | string (str : String)
  | object (fields : List (FieldName × BSONValue))
  | array (fields : List (FieldName × BSONValue))
  | binData (subtype : UInt8) (bytes : List UInt8)
  | undefined
  | jstOID (oid : BitVec 96)
  | bool (boolean : Bool)
  | date (millis : BitVec 64)
  | jstNULL
  | regEx (regex flags : String)
  | dbRef (ns : String) (oid : BitVec 96)
  | code (code : String)
  | symbol (symbol : String)
  | codeWScope (code : String) (scope : List (FieldName × BSONValue))
  | numberInt (int : BitVec 32)
  | timestamp (seconds increment : BitVec 32)
  | numberLong (long : BitVec 64)
  | maxKey

abbrev BSONElement := FieldName × BSONValue
abbrev BSONObj := List BSONElement

namespace BSONValue

def type : BSONValue → BSONType
  | .minKey => .minKey
  | .numberDouble _ => .numberDouble
  | .string _ => .string
  | .object _ => .object
  | .array _ => .array
  | .binData _ _ => .binData
  | .undefined => .undefined
  | .jstOID _ => .jstOID
  | .bool _ => .bool
  | .date _ => .date
  | .jstNULL => .jstNULL
  | .regEx _ _ => .regEx
  | .dbRef _ _ => .dbRef
  | .code _ => .code
  | .symbol _ => .symbol
  | .codeWScope _ _ => .codeWScope
  | .numberInt _ => .numberInt
  | .timestamp _ _ => .timestamp
  | .numberLong _ => .numberLong
  | .maxKey => .maxKey

def isNumber (be : BSONValue) : Bool :=
  match be.type with
  | .numberLong | .numberDouble | .numberInt => true
  | _ => false

def isSimpleType (be : BSONValue) : Bool :=
  match be.type with
  | .numberLong | .numberDouble | .numberInt | .string | .bool | .date | .jstOID => true
  | _ => false

def str : BSONValue → String
  | .string str => str
  | _ => ""

def embeddedObject : BSONValue → BSONObj
  | .object fields | .array fields => fields
  | _ => []

inductive Within (root : BSONValue) : BSONValue → Prop where
  | self : Within root root
  | field (e : BSONValue) (be : BSONElement) : Within root e → be ∈ e.embeddedObject →
      Within root be.2

theorem Within.of_field (root inner : BSONValue) (be : BSONElement)
    (member : be ∈ root.embeddedObject) (within : be.2.Within inner) : root.Within inner := by
  induction within with
  | self => exact .field root be .self member
  | field e be' _ member' ih => exact .field e be' ih member'

theorem within_iff (root inner : BSONValue) :
    root.Within inner ↔ inner = root ∨ ∃ be ∈ root.embeddedObject, be.2.Within inner := by
  constructor
  · intro within
    induction within with
    | self => exact Or.inl rfl
    | field e be _ member ih =>
      rcases ih with same | below
      · rw [same] at member
        exact Or.inr ⟨be, member, .self⟩
      · obtain ⟨be', member', within⟩ := below
        exact Or.inr ⟨be', member', .field e be within member⟩
  · intro either
    rcases either with rfl | below
    · exact .self
    · obtain ⟨be, member, within⟩ := below
      exact within.of_field root inner be member

-- The deprecated subtype 2 repeats its length in the first four bytes.
def binDataClean : BSONValue → List UInt8
  | .binData subtype bytes => if subtype = 2 then bytes.drop 4 else bytes
  | _ => []

end BSONValue

namespace BSONObj

-- The first field of that name; `none` stands for the `eoo` element.
def getField (obj : BSONObj) (name : FieldName) : Option BSONValue :=
  (obj.find? fun be => be.1 = name).map Prod.snd

def hasElement (obj : BSONObj) (name : FieldName) : Bool := (getField obj name).isSome

@[simp] theorem getField_nil (name : FieldName) : getField [] name = none := rfl

@[simp] theorem getField_cons (be : BSONElement) (rest : BSONObj) (name : FieldName) :
    getField (be :: rest) name = if be.1 = name then some be.2 else getField rest name := by
  by_cases same : be.1 = name <;> simp [getField, same]

end BSONObj

def checkFieldName (name : String) : Except Raised FieldName :=
  if h : nul ∈ name.toList then .error (.uassert "field name cannot contain null bytes")
  else .ok ⟨name, h⟩

theorem checkFieldName_ok (name : String) (clean : nul ∉ name.toList) :
    checkFieldName name = .ok ⟨name, clean⟩ := by
  simp [checkFieldName, clean]

@[simp] theorem checkFieldName_chars (name : FieldName) : checkFieldName name.chars = .ok name :=
  checkFieldName_ok name.chars name.noNul

theorem checkFieldName_error (name : String) (dirty : nul ∈ name.toList) :
    checkFieldName name = .error (.uassert "field name cannot contain null bytes") := by
  simp [checkFieldName, dirty]

inductive CppValue where
  | bool (val : Bool)
  | int (n : BitVec 32)
  | unsigned (n : BitVec 32)
  | longLong (n : BitVec 64)
  | double (n : BitVec 64)
  | stdString (str : String)
  | date (dt : BitVec 64)
  | binData (subtype : UInt8) (bytes : List UInt8)
  | bsonObj (obj : BSONObj)
  | bsonArray (arr : BSONObj)

def CppValue.appended : CppValue → BSONValue
  | .bool val => .bool val
  | .int n => .numberInt n
  | .unsigned n => .numberInt n
  | .longLong n => .numberLong n
  | .double n => .numberDouble n
  | .stdString str => .string str
  | .date dt => .date dt
  | .binData subtype bytes => .binData subtype bytes
  | .bsonObj obj => .object obj
  | .bsonArray arr => .array arr

def CppValue.asBSONObj : CppValue → BSONObj
  | .bsonObj obj | .bsonArray obj => obj
  | _ => []

inductive AppendFunction where
  | append
  | appendArray
  deriving DecidableEq

def AppendFunction.element : AppendFunction → CppValue → BSONValue
  | .append, value => value.appended
  | .appendArray, value => .array value.asBSONObj

def BSONObjBuilder.append (b : BSONObj) (function : AppendFunction) (fieldName : String)
    (value : CppValue) : Except Raised BSONObj := do
  let name ← checkFieldName fieldName
  return b ++ [(name, function.element value)]

theorem digits_noNul (i : Nat) : nul ∉ (toString i).toList := by
  rw [Numerals.toList_toString]
  intro member
  have digit := Numerals.isDigit_of_mem i nul member
  revert digit
  decide

structure BSONArrayBuilder where
  i : Nat := 0
  b : BSONObj := []

def BSONArrayBuilder.append (builder : BSONArrayBuilder) (value : CppValue) :
    Except Raised BSONArrayBuilder := do
  let b ← BSONObjBuilder.append builder.b .append (toString builder.i) value
  return { i := builder.i + 1, b }

structure DriverLibrary where
  fromjson : String → Except Raised BSONObj
  jsonString : BSONObj → String
  getFieldDotted : BSONObj → String → Option BSONValue

def DriverLibrary.plain : DriverLibrary where
  fromjson text := if text = "{}" then .ok [] else .error (.msgassert "code FailedToParse")
  jsonString _ := "{}"
  getFieldDotted obj path :=
    if h : nul ∈ path.toList then none else obj.getField ⟨path, h⟩

end StreamsMongo
