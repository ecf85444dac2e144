import StreamsMongo.Codec.BSONCommon
import StreamsMongo.Codec.QueryCommon
import StreamsMongo.Library.Words

set_option autoImplicit false

namespace StreamsMongo

open BSONCommon (dateOfTimestamp)
open QueryCommon (Target timestampOfDate)

namespace Timestamp

def millis (ts : Timestamp) : Int := ts.seconds.toInt * 1000 + ts.nanoseconds.toNat / 1000000

def Normal (ts : Timestamp) : Prop := ts.nanoseconds.toNat < 1000000000

instance (ts : Timestamp) : Decidable ts.Normal :=
  inferInstanceAs (Decidable (ts.nanoseconds.toNat < 1000000000))

def wholeMillis (ts : Timestamp) : Timestamp where
  seconds := ts.seconds
  nanoseconds := ts.nanoseconds - ts.nanoseconds % 1000000#32

end Timestamp

theorem tdiv_thousand (n : Int) :
    n = n.tdiv 1000 * 1000 + n.tmod 1000 ∧ -1000 < n.tmod 1000 ∧ n.tmod 1000 < 1000 ∧
      (0 ≤ n → 0 ≤ n.tmod 1000) ∧ (n ≤ 0 → n.tmod 1000 ≤ 0) := by
  have parts := Int.tmod_add_mul_tdiv n 1000
  have below := Int.tmod_lt_of_pos n (show (0 : Int) < 1000 by decide)
  have mirrored := Int.tmod_lt_of_pos (-n) (show (0 : Int) < 1000 by decide)
  rw [Int.neg_tmod] at mirrored
  refine ⟨by omega, by omega, below, Int.tmod_nonneg 1000, ?_⟩
  intro nonpos
  have nonneg := Int.tmod_nonneg 1000 (show 0 ≤ -n by omega)
  rw [Int.neg_tmod] at nonneg
  omega

theorem timestampOfDate_seconds (ms : BitVec 64) :
    (timestampOfDate ms).seconds.toInt = ms.toInt.tdiv 1000 := by
  have low := BitVec.le_toInt ms
  have high := BitVec.toInt_lt (x := ms)
  obtain ⟨parts, above, below, _⟩ := tdiv_thousand ms.toInt
  have thousand : (1000#64).toInt = 1000 := by decide
  simp only [timestampOfDate, BitVec.toInt_sdiv, thousand]
  apply Int.bmod_eq_of_le <;> omega

-- The signed remainder is scaled exactly; cut to an unsigned word, a negative one wraps.
theorem timestampOfDate_nanoseconds (ms : BitVec 64) :
    ((timestampOfDate ms).nanoseconds.toNat : Int) =
      if ms.toInt.tmod 1000 < 0 then ms.toInt.tmod 1000 * 1000000 + 2 ^ 32
      else ms.toInt.tmod 1000 * 1000000 := by
  obtain ⟨_, above, below, _⟩ := tdiv_thousand ms.toInt
  have thousand : (1000#64).toInt = 1000 := by decide
  have million : (1000000#64).toInt = 1000000 := by decide
  have scaled : (ms.srem 1000#64 * 1000000#64).toInt = ms.toInt.tmod 1000 * 1000000 := by
    rw [BitVec.toInt_mul, BitVec.toInt_srem, thousand, million]
    apply Int.bmod_eq_of_le <;> omega
  have word := BitVec.toInt_eq_toNat_cond (ms.srem 1000#64 * 1000000#64)
  rw [scaled] at word
  simp only [timestampOfDate, BitVec.truncate_eq_setWidth, BitVec.toNat_setWidth]
  generalize (ms.srem 1000#64 * 1000000#64).toNat = unsigned at word ⊢
  split_ifs at word ⊢ <;> omega

theorem dateOfTimestamp_toInt (ts : Timestamp) :
    (dateOfTimestamp ts).toInt = ts.millis.bmod (2 ^ 64) := by
  have million : (1000000#32).toNat = 1000000 := by decide
  have thousand : (1000#64).toInt = 1000 := by decide
  have bound := ts.nanoseconds.isLt
  have part : (BitVec.zeroExtend 64 (ts.nanoseconds / 1000000#32)).toInt =
      ts.nanoseconds.toNat / 1000000 := by
    have small : (BitVec.zeroExtend 64 (ts.nanoseconds / 1000000#32)).toNat =
        ts.nanoseconds.toNat / 1000000 := by
      simp only [BitVec.toNat_setWidth, BitVec.toNat_udiv, million]
      omega
    rw [BitVec.toInt_eq_toNat_of_lt (by omega), small]
    rfl
  rw [dateOfTimestamp, BitVec.toInt_add, BitVec.toInt_mul, part, thousand, Int.bmod_add_bmod]
  rfl

def DateKept (rt : SplRuntime) (ms : BitVec 64) (target : Target Timestamp) : Prop :=
  ∃ ts, QueryCommon.handleTimestamp (.date ms) target = .applied ts ∧ ts.Normal ∧
    BSONCommon.handlePrimitive rt .timestamp ts = .ok (.date ms)

def InstantKept (rt : SplRuntime) (ts : Timestamp) (target : Target Timestamp) : Prop :=
  ∃ ms, BSONCommon.handlePrimitive rt .timestamp ts = .ok (.date ms) ∧
    QueryCommon.handleTimestamp (.date ms) target = .applied ts.wholeMillis

theorem dateKept_iff_words (rt : SplRuntime) (ms : BitVec 64) (target : Target Timestamp) :
    DateKept rt ms target ↔
      (timestampOfDate ms).Normal ∧ dateOfTimestamp (timestampOfDate ms) = ms := by
  constructor
  · intro kept
    obtain ⟨ts, decoded, normal, encoded⟩ := kept
    have same : timestampOfDate ms = ts := congrArg Target.attr decoded
    rw [same]
    exact ⟨normal, CppValue.date.inj (Except.ok.inj encoded)⟩
  · intro kept
    exact ⟨timestampOfDate ms, rfl, kept.1, congrArg (Except.ok ∘ CppValue.date) kept.2⟩

theorem instantKept_iff_words (rt : SplRuntime) (ts : Timestamp) (target : Target Timestamp) :
    InstantKept rt ts target ↔ timestampOfDate (dateOfTimestamp ts) = ts.wholeMillis := by
  constructor
  · intro kept
    obtain ⟨ms, encoded, decoded⟩ := kept
    have same : dateOfTimestamp ts = ms := CppValue.date.inj (Except.ok.inj encoded)
    rw [same]
    exact congrArg Target.attr decoded
  · intro kept
    exact ⟨dateOfTimestamp ts, rfl, congrArg Target.applied kept⟩

theorem dateKept_iff (rt : SplRuntime) (ms : BitVec 64) (target : Target Timestamp) :
    DateKept rt ms target ↔ 0 ≤ ms.toInt ∨ (1000 : Int) ∣ ms.toInt := by
  have low := BitVec.le_toInt ms
  have high := BitVec.toInt_lt (x := ms)
  obtain ⟨parts, above, below, nonneg, nonpos⟩ := tdiv_thousand ms.toInt
  have seconds := timestampOfDate_seconds ms
  have nanoseconds := timestampOfDate_nanoseconds ms
  have encoded := dateOfTimestamp_toInt (timestampOfDate ms)
  rw [dateKept_iff_words]
  simp only [Timestamp.Normal, Timestamp.millis, seconds] at encoded ⊢
  by_cases wraps : ms.toInt.tmod 1000 < 0
  · -- More than a second of nanoseconds.
    rw [if_pos wraps] at nanoseconds
    constructor <;> intro _ <;> omega
  rw [if_neg wraps] at nanoseconds
  constructor
  · intro _
    omega
  · intro _
    refine ⟨by omega, BitVec.eq_of_toInt_eq ?_⟩
    rw [encoded]
    refine (Int.bmod_eq_of_le ?_ ?_).trans ?_ <;> omega

theorem wholeMillis_nanoseconds (ts : Timestamp) :
    ts.wholeMillis.nanoseconds.toNat = ts.nanoseconds.toNat / 1000000 * 1000000 := by
  have million : (1000000#32).toNat = 1000000 := by decide
  have remainder : ts.nanoseconds % 1000000#32 ≤ ts.nanoseconds := by
    rw [BitVec.le_def, BitVec.toNat_umod]
    exact Nat.mod_le _ _
  rw [Timestamp.wholeMillis, BitVec.toNat_sub_of_le remainder, BitVec.toNat_umod, million]
  omega

theorem instantKept_iff (rt : SplRuntime) (ts : Timestamp) (target : Target Timestamp)
    (normal : ts.Normal) (fits : Words.InRange true 64 ts.millis) :
    InstantKept rt ts target ↔ 0 ≤ ts.seconds.toInt ∨ ts.nanoseconds.toNat < 1000000 := by
  obtain ⟨low, high⟩ := fits
  have date : (dateOfTimestamp ts).toInt = ts.millis := by
    rw [dateOfTimestamp_toInt]
    apply Int.bmod_eq_of_le <;> omega
  obtain ⟨parts, above, below, nonneg, nonpos⟩ := tdiv_thousand (dateOfTimestamp ts).toInt
  have seconds := timestampOfDate_seconds (dateOfTimestamp ts)
  have nanoseconds := timestampOfDate_nanoseconds (dateOfTimestamp ts)
  have whole := wholeMillis_nanoseconds ts
  rw [date] at parts above below nonneg nonpos seconds nanoseconds
  simp only [Timestamp.millis] at *
  rw [Timestamp.Normal] at normal
  rw [instantKept_iff_words]
  constructor
  · intro kept
    -- Before the epoch a broken second is rounded towards zero, into the next second.
    have same : (timestampOfDate (dateOfTimestamp ts)).seconds = ts.seconds := by
      rw [kept]
      rfl
    rw [same] at seconds
    omega
  · intro good
    have sameSeconds : (timestampOfDate (dateOfTimestamp ts)).seconds = ts.seconds := by
      apply BitVec.eq_of_toInt_eq
      omega
    have sameNanoseconds : (timestampOfDate (dateOfTimestamp ts)).nanoseconds =
        ts.wholeMillis.nanoseconds := by
      apply BitVec.eq_of_toNat_eq
      omega
    cases read : timestampOfDate (dateOfTimestamp ts) with
    | mk readSeconds readNanoseconds =>
      rw [read] at sameSeconds sameNanoseconds
      cases sameSeconds
      cases sameNanoseconds
      rfl

theorem timestamp_codec_iff (rt : SplRuntime) :
    (∀ (ms : BitVec 64) (target : Target Timestamp),
      DateKept rt ms target ↔ 0 ≤ ms.toInt ∨ (1000 : Int) ∣ ms.toInt) ∧
    ∀ (ts : Timestamp) (target : Target Timestamp), ts.Normal → Words.InRange true 64 ts.millis →
      (InstantKept rt ts target ↔ 0 ≤ ts.seconds.toInt ∨ ts.nanoseconds.toNat < 1000000) :=
  ⟨dateKept_iff rt, instantKept_iff rt⟩

theorem timestamp_codec_iff_before_epoch :
    (DateKept .plain (-3000#64) ⟨⟨0#64, 0#32⟩, false⟩ ↔
      0 ≤ (-3000#64).toInt ∨ (1000 : Int) ∣ (-3000#64).toInt) ∧
    (InstantKept .plain ⟨-1#64, 500000000#32⟩ ⟨⟨0#64, 0#32⟩, false⟩ ↔
      0 ≤ (-1#64).toInt ∨ (500000000#32).toNat < 1000000) :=
  ⟨(timestamp_codec_iff .plain).1 _ _,
    (timestamp_codec_iff .plain).2 ⟨-1#64, 500000000#32⟩ _ (by decide) (by decide)⟩

theorem instants_before_epoch_lost :
    ¬ DateKept .plain (-1#64) ⟨⟨0#64, 0#32⟩, false⟩ ∧
      ¬ InstantKept .plain ⟨-1#64, 500000000#32⟩ ⟨⟨0#64, 0#32⟩, false⟩ := by
  constructor
  · rw [dateKept_iff]
    decide
  · rw [instantKept_iff .plain _ _ (by decide) (by decide)]
    decide

end StreamsMongo
