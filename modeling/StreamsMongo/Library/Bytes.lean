import Mathlib.Data.BitVec
import Mathlib.Data.Nat.Digits.Lemmas

set_option autoImplicit false

-- What is written to memory byte by byte, and read back from a pointer into it.
namespace Bytes

abbrev Pointer := List UInt8

variable {A : Type}

def Reads (write : A → List UInt8) (read : Pointer → Option A) : Prop :=
  ∀ (x : A) (rest : List UInt8), read (write x ++ rest) = some x

-- Reading past the end of the memory gives nothing.
def readBytes (n : Nat) (memory : Pointer) : Option (List UInt8) :=
  if n ≤ memory.length then some (memory.take n) else none

theorem readBytes_append (bytes rest : List UInt8) :
    readBytes bytes.length (bytes ++ rest) = some bytes := by
  simp [readBytes]

section Words

def little : Nat → Nat → List UInt8
  | 0, _ => []
  | n + 1, value => UInt8.ofNat value :: little n (value / 256)

def value (bytes : List UInt8) : Nat := Nat.ofDigits 256 (bytes.map UInt8.toNat)

@[simp] theorem length_little (n v : Nat) : (little n v).length = n := by
  induction n generalizing v with
  | zero => rfl
  | succ n ih => simp [little, ih]

theorem value_little (n v : Nat) : value (little n v) = v % 256 ^ n := by
  induction n generalizing v with
  | zero => simp [value, little, Nat.mod_one]
  | succ n ih =>
    have later : Nat.ofDigits 256 ((little n (v / 256)).map UInt8.toNat) = v / 256 % 256 ^ n := ih _
    have first : (UInt8.ofNat v).toNat = v % 256 := UInt8.toNat_ofNat'
    rw [value, little, List.map_cons, Nat.ofDigits_cons, first, later, Nat.pow_succ', Nat.mod_mul]

def writeLE {w : Nat} (x : BitVec w) : List UInt8 := little (w / 8) x.toNat

def readLE (w : Nat) (memory : Pointer) : Option (BitVec w) :=
  (readBytes (w / 8) memory).map fun bytes => BitVec.ofNat w (value bytes)

@[simp] theorem length_writeLE {w : Nat} (x : BitVec w) : (writeLE x).length = w / 8 :=
  length_little _ _

theorem readLE_writeLE (w : Nat) (whole : 8 ∣ w) :
    Reads (writeLE : BitVec w → List UInt8) (readLE w) := by
  intro x rest
  have width : 256 ^ (w / 8) = 2 ^ w := by
    rw [show 256 = 2 ^ 8 from rfl, ← Nat.pow_mul, Nat.mul_div_cancel' whole]
  have front := readBytes_append (writeLE x) rest
  rw [length_writeLE] at front
  have known : value (writeLE x) = x.toNat := by
    rw [writeLE, value_little, width, Nat.mod_eq_of_lt x.isLt]
  rw [readLE, front, Option.map_some, known, BitVec.ofNat_toNat, BitVec.setWidth_eq]

end Words

section Strings

def strlen (memory : Pointer) : Option Nat := memory.findIdx? (· = 0)

def cstring (chars : List UInt8) : List UInt8 := chars ++ [0]

def readCString (memory : Pointer) : Option (List UInt8) := (strlen memory).map memory.take

@[simp] theorem length_cstring (chars : List UInt8) :
    (cstring chars).length = chars.length + 1 := by
  simp [cstring]

theorem strlen_cstring (chars rest : List UInt8) (clean : 0 ∉ chars) :
    strlen (cstring chars ++ rest) = some chars.length := by
  have absent : chars.findIdx? (· = 0) = none := by
    rw [List.findIdx?_eq_none_iff]
    intro byte member
    have differs : byte ≠ 0 := fun same => clean (same ▸ member)
    simpa using differs
  simp [strlen, cstring, List.findIdx?_append, absent, List.findIdx?_cons]

theorem readCString_cstring (chars rest : List UInt8) (clean : 0 ∉ chars) :
    readCString (cstring chars ++ rest) = some chars := by
  rw [readCString, strlen_cstring chars rest clean, Option.map_some, cstring, List.append_assoc,
    List.take_left]

end Strings

section Texts

def utf8 (text : String) : List UInt8 := text.toList.flatMap String.utf8EncodeChar

def text? (bytes : List UInt8) : Option String :=
  bytes.toByteArray.utf8Decode?.map fun chars => String.ofList chars.toList

theorem text?_utf8 (text : String) : text? (utf8 text) = some text := by
  have decoded : (utf8 text).toByteArray.utf8Decode? = some text.toList.toArray :=
    List.utf8Decode?_utf8Encode
  rw [text?, decoded]
  simp

theorem zero_eq_ofNat (n : Nat) : 0 = UInt8.ofNat n ↔ n % 256 = 0 := by
  rw [← UInt8.toNat_inj, UInt8.toNat_ofNat']
  exact eq_comm

-- Only the null character's encoding holds a null byte: the others are ASCII or set the high bit.
theorem zero_mem_utf8EncodeChar (c : Char) : 0 ∈ String.utf8EncodeChar c ↔ c = Char.ofNat 0 := by
  constructor
  · intro member
    simp only [String.utf8EncodeChar] at member
    split_ifs at member with ascii
    next =>
      have code : c.val.toNat = 0 := by
        have zero := (zero_eq_ofNat _).mp (List.mem_singleton.mp member)
        omega
      exact Char.ext (UInt32.toNat_inj.mp code)
    all_goals
      simp only [List.mem_cons, List.not_mem_nil, or_false, zero_eq_ofNat] at member
      omega
  · rintro rfl
    decide

theorem zero_mem_utf8 (text : String) : 0 ∈ utf8 text ↔ Char.ofNat 0 ∈ text.toList := by
  simp [utf8, zero_mem_utf8EncodeChar]

end Texts

end Bytes
