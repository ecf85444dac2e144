import StreamsMongo.Wire.Builders

set_option autoImplicit false

namespace StreamsMongo.Wire

open Bytes

def enumerators : List BSONType :=
  [.minKey, .eoo, .numberDouble, .string, .object, .array, .binData, .undefined, .jstOID, .bool,
    .date, .jstNULL, .regEx, .dbRef, .code, .symbol, .codeWScope, .numberInt, .timestamp,
    .numberLong, .maxKey]

/-- A pointer to an element. Reading outside the memory gives nothing. -/
structure BSONElement where
  rawdata : Pointer

structure ElementLibrary where
  size : BSONElement → Nat
  assertInvalid : Pointer → Raised
  embeddedObject : BSONElement → Except Stopped Pointer
  getField : Pointer → FieldName → Option BSONElement

def BSONObjMaxUserSize : Nat := 16 * 1024 * 1024

def BSONObjMaxInternalSize : Nat := BSONObjMaxUserSize + 16 * 1024

theorem short_of_bounded {size : Nat} (bounded : size ≤ BSONObjMaxInternalSize) :
    size < 2 ^ 31 :=
  Nat.lt_of_le_of_lt bounded (by decide)

def isValid (objdata : Pointer) : Option Bool := do
  let x := (← readLE 32 objdata).toInt
  return 0 < x ∧ x ≤ BSONObjMaxInternalSize

/-- `BSONObj(bsonData)`, an object over memory that it does not own. -/
def ElementLibrary.init (lib : ElementLibrary) (data : Pointer) : Except Stopped Pointer := do
  if ← inMemory (isValid data) then return data
  else throw (.raised (lib.assertInvalid data))

namespace BSONElement

variable (e : BSONElement)

def type : Option BSONType := do
  let typeByte ← e.rawdata.head?
  enumerators.find? fun type => type.typeByte = typeByte

def fieldName : Pointer := e.rawdata.drop 1

def fieldNameSize : Option Nat := do
  if (← e.type) = .eoo then return 0
  return (← strlen e.fieldName) + 1

def value : Option Pointer := do return e.rawdata.drop ((← e.fieldNameSize) + 1)

def boolean : Option Bool := do return (← (← e.value).head?) ≠ 0

def read (w : Nat) : Option (BitVec w) := do readLE w (← e.value)

def valuestrsize : Option (BitVec 32) := e.read 32

def valuestr : Option Pointer := do return (← e.value).drop 4

def valueStringData : Option String := do
  text? (← readBytes ((← e.valuestrsize).toNat - 1) (← e.valuestr))

def binDataType : Option UInt8 := do (← e.valuestr).head?

def binData : Option (List UInt8) := do
  readBytes (← e.valuestrsize).toNat ((← e.value).drop 5)

def regex : Option (List UInt8) := do readCString (← e.value)

def regexFlags : Option (List UInt8) := do
  readCString ((← e.value).drop ((← e.regex).length + 1))

def dbrefNS : Option (List UInt8) := do readCString (← e.valuestr)

def dbrefOID : Option (BitVec 96) := do
  readLE 96 ((← e.value).drop (4 + (← e.valuestrsize).toNat))

def codeWScopeCode : Option Pointer := do return (← e.value).drop (4 + 4)

def codeWScopeCodeLen : Option Nat := do return (← readLE 32 (← e.valuestr)).toNat

def codeWScopeScopeData : Option Pointer := do
  return (← e.codeWScopeCode).drop (← e.codeWScopeCodeLen)

-- The increment comes first.
def timestamp : Option (BitVec 32 × BitVec 32) := do
  let value ← e.value
  return (← readLE 32 (value.drop 4), ← readLE 32 value)

end BSONElement

structure BSONObjIterator where
  objdata : Pointer
  pos : Nat
  theend : Int

namespace BSONObjIterator

def start (objdata : Pointer) : Except Stopped BSONObjIterator := do
  let sz ← inMemory (readLE 32 objdata)
  if sz = 0 then return ⟨objdata, 0, 0⟩
  return ⟨objdata, 4, sz.toInt - 1⟩

def more (it : BSONObjIterator) : Bool := it.pos < it.theend

def next (lib : ElementLibrary) (it : BSONObjIterator) : BSONElement × BSONObjIterator :=
  let e : BSONElement := ⟨it.objdata.drop it.pos⟩
  (e, { it with pos := it.pos + lib.size e })

def forEach {C : Type} (lib : ElementLibrary) (round : C → BSONElement → Except Stopped C) :
    (rounds : Nat) → BSONObjIterator → C → Except Stopped C
  | 0, _, _ => .error .outside
  | rounds + 1, it, c =>
      if it.more then do
        let (e, it) := it.next lib
        forEach lib round rounds it (← round c e)
      else return c

end BSONObjIterator

end StreamsMongo.Wire
