import Mathlib.Data.Nat.Prime.Basic
import StreamsMongo.Library.Limits
import StreamsMongo.Wire.Format

set_option autoImplicit false

namespace StreamsMongo.Wire

open Bytes

inductive Stopped where
  | raised (e : Raised)
  -- A length does not fit in an `int`, or a read leaves the memory; what comes then is left open.
  | noInt
  | outside
  deriving DecidableEq

def lift {A : Type} : Except Raised A → Except Stopped A := Except.mapError .raised

def inMemory {A : Type} : Option A → Except Stopped A
  | some a => .ok a
  | none => .error .outside

@[simp] theorem inMemory_some {A : Type} (a : A) : inMemory (some a) = .ok a := rfl

@[simp] theorem ok_bind {A B : Type} (a : A) (next : A → Except Stopped B) :
    (Except.ok a >>= next) = next a := rfl

def toInt (n : Nat) : Except Stopped Nat := if n < 2 ^ 31 then .ok n else .error .noInt

def BufferMaxSize : Nat := 64 * 1024 * 1024

def attemptedToGrow (a : Nat) : Stopped :=
  .raised (.msgassert ("BufBuilder attempted to grow() to " ++ toString a ++
    " bytes, past the 64MB limit."))

structure BufBuilder (reservedBytes : Nat) where
  data : List UInt8
  size : Nat
  fits : data.length + reservedBytes ≤ size
  bounded : size ≤ BufferMaxSize

-- `while (a < minSize) a = a * 2` from 64 on; an `int` stands 24 rounds of it.
def doubled (minSize : Nat) : (rounds : Nat) → (a : Nat) → Except Stopped Nat
  | 0, _ => .error .noInt
  | rounds + 1, a => if a < minSize then doubled minSize rounds (a * 2) else .ok a

theorem doubled_le (minSize : Nat) : (rounds a size : Nat) →
    doubled minSize rounds a = .ok size → minSize ≤ size
  | 0, _, _, grown => by cases grown
  | rounds + 1, a, size, grown => by
    rw [doubled] at grown
    split_ifs at grown with short
    · exact doubled_le minSize rounds (a * 2) size grown
    · cases grown
      exact Nat.le_of_not_lt short

theorem double_le_limit (a : Nat) (power : a ∣ 2 ^ 31) (below : a < BufferMaxSize) :
    a * 2 ≤ BufferMaxSize := by
  obtain ⟨k, _, rfl⟩ := (Nat.dvd_prime_pow Nat.prime_two).mp power
  have limit : BufferMaxSize = 2 ^ 26 := rfl
  rw [limit] at below
  rw [limit, ← Nat.pow_succ]
  have small : k < 26 := (Nat.pow_lt_pow_iff_right Nat.one_lt_two).mp below
  exact Nat.pow_le_pow_right (by decide) small

theorem doubled_bounded (minSize : Nat) (within : minSize ≤ BufferMaxSize) : (rounds a : Nat) →
    a * 2 ^ rounds = 2 ^ 31 → a ≤ BufferMaxSize →
    ∃ size, doubled minSize rounds a = .ok size ∧ size ≤ BufferMaxSize
  | 0, a, whole, start => by
    rw [Nat.pow_zero, Nat.mul_one] at whole
    rw [whole] at start
    exact absurd start (by decide)
  | rounds + 1, a, whole, start => by
    rw [doubled]
    split_ifs with short
    · refine doubled_bounded minSize within rounds (a * 2) ?_ ?_
      · rw [Nat.mul_assoc, ← Nat.pow_succ', whole]
      · exact double_le_limit a ⟨_, whole.symm⟩ (Nat.lt_of_lt_of_le short within)
    · exact ⟨a, rfl, start⟩

theorem doubled_stopped (minSize : Nat) : (rounds a : Nat) → (e : Stopped) →
    doubled minSize rounds a = .error e → e = .noInt
  | 0, _, _, stopped => by
    cases stopped
    rfl
  | rounds + 1, a, e, stopped => by
    rw [doubled] at stopped
    split_ifs at stopped
    exact doubled_stopped minSize rounds (a * 2) e stopped

namespace BufBuilder

variable {r : Nat}

abbrev Capacity (minSize : Nat) := { size : Nat // minSize ≤ size ∧ size ≤ BufferMaxSize }

def grow_reallocate (minSize : Nat) : Except Stopped (Capacity minSize) :=
  match grown : doubled minSize 25 64 with
  | .error e => .error e
  | .ok a =>
      if past : a > BufferMaxSize then .error (attemptedToGrow a)
      else .ok ⟨a, doubled_le minSize 25 64 a grown, Nat.le_of_not_gt past⟩

def ensure (b : BufBuilder r) (minSize : Nat) : Except Stopped (Capacity minSize) :=
  if 2 ^ 31 ≤ minSize then .error .noInt
  else if room : minSize > b.size then grow_reallocate minSize
  else .ok ⟨b.size, Nat.le_of_not_gt room, b.bounded⟩

def appendBuf (b : BufBuilder r) (src : List UInt8) : Except Stopped (BufBuilder r) := do
  let size ← b.ensure (b.data.length + src.length + r)
  return ⟨b.data ++ src, size.val, by simpa using size.property.1, size.property.2⟩

def reserveBytes (b : BufBuilder r) (bytes : Nat) : Except Stopped (BufBuilder (r + bytes)) := do
  let size ← b.ensure (b.data.length + r + bytes)
  return ⟨b.data, size.val, by simpa [Nat.add_assoc] using size.property.1, size.property.2⟩

def claimReservedBytes (bytes : Nat) (b : BufBuilder (r + bytes)) : BufBuilder r :=
  ⟨b.data, b.size, by have held := b.fits; omega, b.bounded⟩

end BufBuilder

inductive Full : Stopped → Prop where
  | limit (a : Nat) (past : BufferMaxSize < a) : Full (attemptedToGrow a)
  | noInt : Full .noInt

section Capacities

variable {r : Nat} (b : BufBuilder r)

theorem ensure_ok (minSize : Nat) (within : minSize ≤ BufferMaxSize) :
    ∃ size, b.ensure minSize = .ok size := by
  have int : ¬ 2 ^ 31 ≤ minSize := Nat.not_le.mpr (Nat.lt_of_le_of_lt within (by decide))
  obtain ⟨a, grown, bounded⟩ := doubled_bounded minSize within 25 64 (by decide) (by decide)
  rw [BufBuilder.ensure, if_neg int]
  split_ifs with room
  · rw [BufBuilder.grow_reallocate]
    split
    next e stopped => cases grown.symm.trans stopped
    next a' grown' =>
      cases grown.symm.trans grown'
      exact ⟨_, dif_neg (Nat.not_lt.mpr bounded)⟩
  · exact ⟨_, rfl⟩

theorem ensure_full (minSize : Nat) (past : BufferMaxSize < minSize) :
    ∃ e, b.ensure minSize = .error e ∧ Full e := by
  have room : minSize > b.size := Nat.lt_of_le_of_lt b.bounded past
  rw [BufBuilder.ensure]
  split_ifs with int
  · exact ⟨_, rfl, .noInt⟩
  · rw [BufBuilder.grow_reallocate]
    split
    next e stopped =>
      rw [doubled_stopped minSize 25 64 e stopped]
      exact ⟨_, rfl, .noInt⟩
    next a grown =>
      have beyond : BufferMaxSize < a := Nat.lt_of_lt_of_le past (doubled_le minSize 25 64 a grown)
      exact ⟨_, dif_pos beyond, .limit a beyond⟩

theorem appendBuf_keeps (src : List UInt8) :
    (b.data.length + src.length + r ≤ BufferMaxSize →
      ∃ b', b.appendBuf src = .ok b' ∧ b'.data = b.data ++ src) ∧
    (BufferMaxSize < b.data.length + src.length + r →
      ∃ e, b.appendBuf src = .error e ∧ Full e) := by
  constructor
  · intro within
    obtain ⟨size, grown⟩ := ensure_ok b _ within
    exact ⟨_, by rw [BufBuilder.appendBuf, grown]; rfl, rfl⟩
  · intro past
    obtain ⟨e, stopped, full⟩ := ensure_full b _ past
    exact ⟨e, by rw [BufBuilder.appendBuf, stopped]; rfl, full⟩

end Capacities

def sizeofHolder : Nat := 4

structure BSONObjBuilder where
  b : BufBuilder 1

inductive CppValue where
  | bool (val : Bool)
  | int (n : BitVec 32)
  | unsigned (n : BitVec 32)
  | longLong (n : BitVec 64)
  | double (n : BitVec 64)
  | stdString (str : String)
  | date (dt : BitVec 64)
  | binData (subtype : UInt8) (bytes : List UInt8)
  | bsonObj (objdata : List UInt8)
  | bsonArray (objdata : List UInt8)

def CppValue.asBSONObj : CppValue → List UInt8
  | .bsonObj objdata | .bsonArray objdata => objdata
  | _ => objdata []

-- `appendBuf(objdata(), objsize())` copies as many bytes as the document says it has.
def copied (objdata : List UInt8) : List UInt8 :=
  objdata.take ((readLE 32 objdata).getD 0).toNat

namespace BSONObjBuilder

-- `skip` leaves a gap, which is written to before it is read.
def skip {r : Nat} (b : BufBuilder r) (n : Nat) : Except Stopped (BufBuilder r) :=
  b.appendBuf (List.replicate n 0)

def start : Except Stopped BSONObjBuilder := do
  let b : BufBuilder 0 := ⟨[], sizeofHolder + 512, by decide, by decide⟩
  let b ← skip b sizeofHolder
  let b ← skip b 4
  return ⟨← b.reserveBytes 1⟩

def checkFieldName (fieldName : String) : Except Stopped Unit :=
  if 0 ∈ utf8 fieldName then .error (.raised (.uassert "field name cannot contain null bytes"))
  else .ok ()

def appendElement (builder : BSONObjBuilder) (type : BSONType) (fieldName : String)
    (data : List (List UInt8)) : Except Stopped BSONObjBuilder := do
  checkFieldName fieldName
  let b ← ([type.typeByte] :: cstring (utf8 fieldName) :: data).foldlM BufBuilder.appendBuf
    builder.b
  return ⟨b⟩

end BSONObjBuilder

abbrev AppendDate := BSONObjBuilder → String → BitVec 64 → Except Stopped BSONObjBuilder

def AppendDate.Documented (appendDate : AppendDate) : Prop :=
  ∀ builder fieldName dt, appendDate builder fieldName dt =
    BSONObjBuilder.appendElement builder .date fieldName [writeLE dt]

def AppendDate.plain : AppendDate := fun builder fieldName dt =>
  builder.appendElement .date fieldName [writeLE dt]

theorem AppendDate.plain_documented : AppendDate.plain.Documented := fun _ _ _ => rfl

namespace BSONObjBuilder

variable (appendDate : AppendDate)

def append (builder : BSONObjBuilder) (function : AppendFunction) (fieldName : String)
    (value : CppValue) : Except Stopped BSONObjBuilder :=
  match function, value with
  | .appendArray, value => builder.appendElement .array fieldName [copied value.asBSONObj]
  | .append, .bool val => builder.appendElement .bool fieldName [[if val then 1 else 0]]
  | .append, .int n | .append, .unsigned n =>
      builder.appendElement .numberInt fieldName [writeLE n]
  | .append, .longLong n => builder.appendElement .numberLong fieldName [writeLE n]
  | .append, .double n => builder.appendElement .numberDouble fieldName [writeLE n]
  | .append, .stdString str => do
      let sz ← toInt ((utf8 str).length + 1)
      builder.appendElement .string fieldName [length sz, cstring (utf8 str)]
  | .append, .date dt => appendDate builder fieldName dt
  | .append, .binData subtype bytes => do
      let len ← toInt bytes.length
      builder.appendElement .binData fieldName [length len, [subtype], bytes]
  | .append, .bsonObj objdata => builder.appendElement .object fieldName [copied objdata]
  | .append, .bsonArray objdata => builder.appendElement .array fieldName [copied objdata]

def obj (builder : BSONObjBuilder) : Except Stopped (List UInt8) := do
  let b ← (BufBuilder.claimReservedBytes (r := 0) 1 builder.b).appendBuf [BSONType.eoo.typeByte]
  return length (b.data.length - sizeofHolder) ++ b.data.drop (sizeofHolder + 4)

end BSONObjBuilder

structure BSONArrayBuilder where
  i : Nat := 0
  b : BSONObjBuilder

def BSONArrayBuilder.append (appendDate : AppendDate) (builder : BSONArrayBuilder)
    (value : CppValue) : Except Stopped BSONArrayBuilder := do
  let b ← builder.b.append appendDate .append (toString builder.i) value
  return { i := builder.i + 1, b }

end StreamsMongo.Wire
