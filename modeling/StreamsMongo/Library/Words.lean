import Mathlib.Data.BitVec
import Mathlib.Data.Int.ModEq

set_option autoImplicit false

-- Machine words read as signed or unsigned integers.
namespace Words

def value (signed : Bool) {w : Nat} (x : BitVec w) : Int :=
  if signed then x.toInt else x.toNat

def InRange (signed : Bool) (w : Nat) (n : Int) : Prop :=
  if signed then -2 ^ w ≤ 2 * n ∧ 2 * n < 2 ^ w else 0 ≤ n ∧ n < 2 ^ w

instance (signed : Bool) (w : Nat) (n : Int) : Decidable (InRange signed w n) :=
  inferInstanceAs (Decidable (if signed then _ else _))

theorem value_inRange (signed : Bool) {w : Nat} (x : BitVec w) :
    InRange signed w (value signed x) := by
  cases signed with
  | true => exact ⟨BitVec.le_two_mul_toInt, BitVec.two_mul_toInt_lt⟩
  | false =>
    have bound : (x.toNat : Int) < 2 ^ w := by exact_mod_cast x.isLt
    exact ⟨Int.natCast_nonneg _, bound⟩

theorem value_ofInt (signed : Bool) (w : Nat) (n : Int) :
    value signed (BitVec.ofInt w n) ≡ n [ZMOD 2 ^ w] := by
  have modulus : ((2 ^ w : Nat) : Int) = 2 ^ w := by push_cast; rfl
  cases signed with
  | true =>
    simp only [value, if_true, BitVec.toInt_ofInt, Int.ModEq]
    rw [← modulus]
    exact Int.bmod_emod
  | false =>
    have positive : (0 : Int) < 2 ^ w := Int.pow_pos (by decide)
    have nonneg : 0 ≤ n % ((2 ^ w : Nat) : Int) := Int.emod_nonneg n (by omega)
    simp only [value, Bool.false_eq_true, if_false, BitVec.toNat_ofInt, Int.toNat_of_nonneg nonneg]
    rw [modulus]
    exact Int.mod_modEq n (2 ^ w)

theorem ofInt_value (signed : Bool) {w : Nat} (x : BitVec w) :
    BitVec.ofInt w (value signed x) = x := by
  cases signed with
  | true => exact BitVec.ofInt_toInt
  | false => exact (BitVec.ofInt_natCast w x.toNat).trans (BitVec.ofNat_toNat w x ▸ by simp)

theorem value_modEq (signed other : Bool) {w : Nat} (x : BitVec w) :
    value signed x ≡ value other x [ZMOD 2 ^ w] := by
  have congruent (kind : Bool) : value kind x ≡ x.toInt [ZMOD 2 ^ w] := by
    have read := value_ofInt kind w x.toInt
    rwa [BitVec.ofInt_toInt] at read
  exact (congruent signed).trans (congruent other).symm

theorem eq_of_modEq (signed : Bool) (w : Nat) (a b : Int) (ha : InRange signed w a)
    (hb : InRange signed w b) (congruent : a ≡ b [ZMOD 2 ^ w]) : a = b := by
  have close : |b - a| < 2 ^ w := by
    rw [abs_lt]
    cases signed with
    | true =>
      obtain ⟨aLow, aHigh⟩ := ha
      obtain ⟨bLow, bHigh⟩ := hb
      constructor <;> omega
    | false =>
      obtain ⟨aLow, aHigh⟩ := ha
      obtain ⟨bLow, bHigh⟩ := hb
      constructor <;> omega
  have same := Int.eq_zero_of_abs_lt_dvd congruent.dvd close
  omega

theorem value_ofInt_eq_iff (signed : Bool) (w : Nat) (n : Int) :
    value signed (BitVec.ofInt w n) = n ↔ InRange signed w n := by
  constructor
  · intro kept
    rw [← kept]
    exact value_inRange signed _
  · intro holds
    exact eq_of_modEq signed w _ n (value_inRange signed _) holds (value_ofInt signed w n)

end Words
