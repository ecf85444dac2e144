import Mathlib.Data.List.Basic
import Mathlib.Data.List.Infix

set_option autoImplicit false

namespace Numerals

def digits (n : Nat) : List Char := Nat.toDigits 10 n

theorem toList_toString (n : Nat) : (toString n).toList = digits n := by
  simp [digits]

theorem isDigit_of_mem (n : Nat) (c : Char) (member : c ∈ digits n) : c.isDigit = true :=
  Nat.isDigit_of_mem_toDigits (by decide) (Nat.le_refl 10) member

theorem digits_injective (i j : Nat) (same : digits i = digits j) : i = j := by
  have numbers := congrArg (fun cs => Nat.ofDigitChars 10 cs 0) same
  simpa [digits] using numbers

theorem div_ten_prefix (n : Nat) (long : 10 ≤ n) : digits (n / 10) <+: digits n := by
  rw [digits, digits, Nat.toDigits_of_base_le (by decide) long]
  exact List.prefix_append _ _

-- A numeral of one digit begins with no numeral but itself.
theorem eq_of_prefix (i n : Nat) (short : n < 10) (starts : digits i <+: digits n) : i = n := by
  have single : (digits n).length = 1 := by
    rw [digits, Nat.toDigits_of_lt_base short, List.length_singleton]
  have nonempty : 0 < (digits i).length := Nat.length_toDigits_pos
  exact digits_injective i n (starts.eq_of_length_le (by omega))

def NoLeadingDigit (text : List Char) : Prop := ∀ c ∈ text.head?, c.isDigit = false

theorem prefix_of_followed (i n : Nat) (rest : List Char) (ends : NoLeadingDigit rest)
    (starts : digits i <+: digits n ++ rest) : digits i <+: digits n := by
  rcases List.prefix_or_prefix_of_prefix starts (List.prefix_append (digits n) rest) with
    within | beyond
  · exact within
  · obtain ⟨more, longer⟩ := beyond
    -- What the longer numeral adds would be the beginning of `rest`.
    obtain ⟨after, split⟩ := starts
    rw [← longer, List.append_assoc, List.append_cancel_left_eq] at split
    cases more with
    | nil =>
      rw [List.append_nil] at longer
      rw [longer]
    | cons c more =>
      have digit := isDigit_of_mem i c (by simp [← longer])
      have stops := ends c (by simp [← split])
      rw [digit] at stops
      cases stops

end Numerals
