import StreamsMongo.Codec.BSONCommon
import StreamsMongo.Codec.QueryCommon
import StreamsMongo.Library.Words

set_option autoImplicit false

namespace StreamsMongo

namespace IntType

def signed : IntType → Bool
  | .int8 | .int16 | .int32 | .int64 => true
  | .uint8 | .uint16 | .uint32 | .uint64 => false

def number (i : IntType) (n : BitVec i.bits) : Int := Words.value i.signed n

def Holds (i : IntType) (n : Int) : Prop := Words.InRange i.signed i.bits n

instance (i : IntType) (n : Int) : Decidable (i.Holds n) :=
  inferInstanceAs (Decidable (Words.InRange i.signed i.bits n))

theorem number_holds (i : IntType) (n : BitVec i.bits) : i.Holds (i.number n) :=
  Words.value_inRange i.signed n

theorem bits_le (i : IntType) : i.bits ≤ 64 := by
  cases i <;> decide

-- The width of the BSON integer the encoder chooses for a type.
def storedBits : IntType → Nat
  | .int64 | .uint64 => 64
  | _ => 32

theorem bits_of_wide (i : IntType) (wide : ¬ i.bits ≤ 32) : i.bits = 64 := by
  revert wide
  cases i <;> decide

end IntType

def BSONValue.storedInteger : BSONValue → Option Int
  | .numberInt int => some int.toInt
  | .numberLong long => some long.toInt
  | _ => none

theorem QueryCommon.handleInt_stored (rt : SplRuntime) (i : IntType) (be : BSONValue) (n : Int)
    (stored : be.storedInteger = some n) (target : Target (BitVec i.bits)) :
    handleInt rt i be target = .applied (BitVec.ofInt i.bits n) := by
  cases be with
  | numberInt int | numberLong long =>
    cases stored
    rfl
  | _ => cases stored

namespace BSONCommon

theorem storedInteger_plainInteger (i : IntType) (value : BitVec i.bits) :
    ∃ n, (plainInteger i value).appended.storedInteger = some n ∧
      Words.InRange true i.storedBits n ∧ n ≡ i.number value [ZMOD 2 ^ i.storedBits] := by
  cases i with
  | int8 | int16 =>
    refine ⟨_, rfl, Words.value_inRange true _, ?_⟩
    rw [BitVec.toInt_signExtend_of_le (by decide)]
    exact Int.ModEq.refl _
  | uint8 | uint16 =>
    refine ⟨_, rfl, Words.value_inRange true _, ?_⟩
    rw [BitVec.toInt_setWidth]
    exact Int.bmod_emod
  | int32 | int64 => exact ⟨_, rfl, Words.value_inRange true value, Int.ModEq.refl _⟩
  | uint32 | uint64 =>
    exact ⟨_, rfl, Words.value_inRange true value, Words.value_modEq true false value⟩

theorem storedInteger_exact (i : IntType) (value : BitVec i.bits) (n : Int)
    (stored : (plainInteger i value).appended.storedInteger = some n)
    (fits : Words.InRange true i.storedBits (i.number value)) : n = i.number value := by
  obtain ⟨kept, found, range, congruent⟩ := storedInteger_plainInteger i value
  rw [stored] at found
  cases found
  exact Words.eq_of_modEq true i.storedBits _ _ range fits congruent

-- Only the upper half of an unsigned type leaves the range of the stored integer.
theorem number_stored_or_large (i : IntType) (value : BitVec i.bits) :
    Words.InRange true i.storedBits (i.number value) ∨
      i.storedBits = 64 ∨ i = .uint32 ∧ 2 ^ 31 ≤ i.number value := by
  have holds := i.number_holds value
  cases i with
  | int64 | uint64 => exact Or.inr (Or.inl rfl)
  | uint32 =>
    by_cases large : 2 ^ 31 ≤ IntType.uint32.number value
    · exact Or.inr (Or.inr ⟨rfl, large⟩)
    · left
      have low : 0 ≤ IntType.uint32.number value := holds.1
      constructor <;> simp only [IntType.storedBits] <;> omega
  | _ =>
    obtain ⟨low, high⟩ := holds
    simp only [IntType.bits, IntType.storedBits, Words.InRange, if_true] at low high ⊢
    omega

end BSONCommon

open BSONCommon

theorem integer_across_widths_iff (rt : SplRuntime) (S R : IntType) (value : BitVec S.bits)
    (fits : R.Holds (S.number value)) (attr : BitVec R.bits) (b : BSONObj) (name : FieldName) :
    ∃ inner be n, handlePrimitive rt (.int S) value = .ok inner ∧
      BSONObjBuilder.append b .append name.chars inner = .ok (b ++ [(name, be)]) ∧
      QueryCommon.handleInt rt R be ⟨attr, false⟩ = ⟨n, true⟩ ∧
      (R.number n = S.number value ↔ ¬ (S = .uint32 ∧ 2 ^ 31 ≤ S.number value ∧ R.bits = 64)) := by
  obtain ⟨n, stored, range, congruent⟩ := storedInteger_plainInteger S value
  have reads := QueryCommon.handleInt_stored rt R _ n stored ⟨attr, false⟩
  refine ⟨_, _, _, rfl, by rw [BSONObjBuilder.append, checkFieldName_chars]; rfl, reads, ?_⟩
  have wrapped : R.number (BitVec.ofInt R.bits n) ≡ n [ZMOD 2 ^ R.bits] :=
    Words.value_ofInt R.signed R.bits n
  have same (congruent : n ≡ S.number value [ZMOD 2 ^ R.bits]) :
      R.number (BitVec.ofInt R.bits n) = S.number value :=
    Words.eq_of_modEq R.signed R.bits _ _ (R.number_holds _) fits (wrapped.trans congruent)
  constructor
  · intro kept bad
    -- The stored integer is negative, and no wrap at 64 bits brings the value back.
    obtain ⟨rfl, large, wide⟩ := bad
    rw [kept, wide] at wrapped
    obtain ⟨low, high⟩ := range
    obtain ⟨_, bound⟩ := IntType.uint32.number_holds value
    simp only [IntType.bits, IntType.storedBits, Int.ModEq] at low high bound wrapped
    omega
  · intro good
    apply same
    by_cases narrow : R.bits ≤ S.storedBits
    · exact congruent.of_dvd (pow_dvd_pow 2 narrow)
    rcases number_stored_or_large S value with exact | wide | upper
    · rw [storedInteger_exact S value n stored exact]
    · exact absurd (wide ▸ R.bits_le) narrow
    · obtain ⟨rfl, large⟩ := upper
      exact absurd ⟨rfl, large, R.bits_of_wide narrow⟩ good

theorem integer_across_widths_iff_int16 :
    ∃ inner be n, handlePrimitive .plain (.int .int16) (-5#16) = .ok inner ∧
      BSONObjBuilder.append [] .append "n" inner = .ok [(⟨"n", by decide⟩, be)] ∧
      QueryCommon.handleInt .plain .int64 be ⟨0#64, false⟩ = ⟨n, true⟩ ∧
      (IntType.int64.number n = IntType.int16.number (-5#16) ↔
        ¬ (IntType.int16 = .uint32 ∧ 2 ^ 31 ≤ IntType.int16.number (-5#16) ∧
          IntType.int64.bits = 64)) :=
  integer_across_widths_iff .plain .int16 .int64 (-5#16) (by decide) 0#64 [] ⟨"n", by decide⟩

theorem uint32_not_kept_at_int64 :
    ¬ ∀ (rt : SplRuntime) (S R : IntType) (value : BitVec S.bits) (attr : BitVec R.bits),
      R.Holds (S.number value) → ∃ inner n, handlePrimitive rt (.int S) value = .ok inner ∧
        QueryCommon.handleInt rt R inner.appended ⟨attr, false⟩ = ⟨n, true⟩ ∧
        R.number n = S.number value := by
  intro kept
  obtain ⟨inner, n, built, reads, same⟩ :=
    kept .plain .uint32 .int64 0x80000000#32 0#64 (by decide)
  cases built
  have decoded : BitVec.signExtend 64 0x80000000#32 = n := congrArg QueryCommon.Target.attr reads
  rw [← decoded] at same
  revert same
  decide

end StreamsMongo
