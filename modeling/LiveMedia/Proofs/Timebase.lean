import LiveMedia.Proofs.Bits.Words
import LiveMedia.Timebase
import Mathlib.Algebra.Order.Ring.Int
import Mathlib.Tactic.Ring

set_option autoImplicit false

/-!
# Timestamps in microseconds

A timestamp of 64 bits is converted to microseconds by way of words of 128 bits. No product and no
quotient leaves these, so that in every build the result is the exact quotient, truncated towards
zero, or nothing if 64 bits do not hold it. In a timebase with positive terms the conversion keeps
the order of timestamps, and nothing is missing between two that can be converted.

## Main definitions

* `LiveMedia.IsTruncated` — a number is a quotient truncated towards zero.
* `LiveMedia.Timebase.toUsecOn` — the conversion on machine words.

## Main results

* `LiveMedia.Timebase.toUsec_eq_some_iff`, `LiveMedia.Timebase.toUsec_eq_none_iff` — the result, and
  when there is none.
* `LiveMedia.Timebase.toUsecOn_eq` — on machine words no step overflows.
* `LiveMedia.Timebase.toUsec_le_toUsec`, `LiveMedia.Timebase.isSome_toUsec_of_between` — the order
  of timestamps.
-/

namespace LiveMedia

open Bits (Build)

/-! ## Truncated quotients -/

/-- The number `k` is the quotient of `n` by `d`, truncated towards zero: what is left of `n` is
smaller than `d` and does not lie on the other side of zero. -/
def IsTruncated (n d k : Int) : Prop :=
  (n - k * d).natAbs < d.natAbs ∧ 0 ≤ n * (n - k * d)

lemma isTruncated_tdiv {n d : Int} (hd : d ≠ 0) : IsTruncated n d (n.tdiv d) := by
  have hleft : n - n.tdiv d * d = n.tmod d := by
    have := Int.tdiv_mul_add_tmod n d
    omega
  rw [IsTruncated, hleft]
  refine ⟨?_, ?_⟩
  · rw [Int.natAbs_tmod]
    exact Nat.mod_lt _ (Int.natAbs_pos.2 hd)
  · rcases Int.le_total 0 n with hn | hn
    · exact Int.mul_nonneg hn (Int.tmod_nonneg d hn)
    · have hneg : 0 ≤ (-n).tmod d := Int.tmod_nonneg d (Int.neg_nonneg_of_nonpos hn)
      rw [Int.neg_tmod] at hneg
      exact mul_nonneg_of_nonpos_of_nonpos hn (by omega)

/-- There is just one truncated quotient.

**Proof sketch.** Two remainders that are smaller than `d` and lie on one side of zero differ by
less than `d`; but they differ by a multiple of `d`. -/
lemma IsTruncated.unique {n d k l : Int} (hk : IsTruncated n d k) (hl : IsTruncated n d l) :
    k = l := by
  obtain ⟨hk, hkn⟩ := hk
  obtain ⟨hl, hln⟩ := hl
  have hd : d ≠ 0 := by
    rintro rfl
    exact absurd hk (Nat.not_lt_zero _)
  have hsub : (n - k * d) - (n - l * d) = d * (l - k) := by ring
  have hclose : ((n - k * d) - (n - l * d)).natAbs < d.natAbs := by
    rcases lt_trichotomy n 0 with hn | rfl | hn
    · have hkside := nonpos_of_mul_nonneg_right hkn hn
      have hlside := nonpos_of_mul_nonneg_right hln hn
      omega
    · have hkzero : 0 - k * d = 0 := Int.eq_zero_of_dvd_of_natAbs_lt_natAbs (by simp) hk
      have hlzero : 0 - l * d = 0 := Int.eq_zero_of_dvd_of_natAbs_lt_natAbs (by simp) hl
      omega
    · have hkside := nonneg_of_mul_nonneg_right hkn hn
      have hlside := nonneg_of_mul_nonneg_right hln hn
      omega
  rw [hsub] at hclose
  have hzero := Int.eq_zero_of_dvd_of_natAbs_lt_natAbs (Int.dvd_mul_right d (l - k)) hclose
  rcases Int.mul_eq_zero.1 hzero with h | h
  · exact absurd h hd
  · omega

/-- Without a divisor there is none. -/
lemma isTruncated_iff {n d k : Int} : IsTruncated n d k ↔ d ≠ 0 ∧ n.tdiv d = k := by
  constructor
  · intro h
    have hd : d ≠ 0 := by
      rintro rfl
      exact absurd h.1 (Nat.not_lt_zero _)
    exact ⟨hd, (isTruncated_tdiv hd).unique h⟩
  · rintro ⟨hd, rfl⟩
    exact isTruncated_tdiv hd

namespace Timebase

variable {tb : Timebase} {ts ts₁ ts₂ u u₁ u₂ : Int}

/-! ## The result -/

lemma toInt64?_eq_some_iff {n k : Int} :
    toInt64? n = some k ↔ n = k ∧ minInt64 ≤ k ∧ k ≤ maxInt64 := by
  rw [toInt64?, Option.ite_none_right_eq_some, Option.some.injEq, and_comm]
  exact and_congr_right fun h => by rw [h]

/-- The result is the truncated quotient, if 64 bits hold it. -/
lemma toUsec_eq_some_iff : tb.toUsec ts = some u ↔
    IsTruncated (ts * 1000000 * tb.num) tb.den u ∧ minInt64 ≤ u ∧ u ≤ maxInt64 := by
  rw [isTruncated_iff, toUsec]
  by_cases hden : tb.den = 0
  · simp [hden]
  · rw [if_neg hden, toInt64?_eq_some_iff, and_assoc]
    exact (and_iff_right hden).symm

/-- There is no result just if the denominator is zero or 64 bits do not hold the quotient. -/
lemma toUsec_eq_none_iff : tb.toUsec ts = none ↔
    tb.den = 0 ∨ ∃ k, IsTruncated (ts * 1000000 * tb.num) tb.den k ∧
      (k < minInt64 ∨ maxInt64 < k) := by
  by_cases hden : tb.den = 0
  · simp [toUsec, hden]
  have hquotient := isTruncated_tdiv (n := ts * 1000000 * tb.num) hden
  rw [toUsec, if_neg hden, toInt64?, ite_eq_right_iff]
  constructor
  · intro h
    have hrange : ¬ (minInt64 ≤ _ ∧ _ ≤ maxInt64) := fun hc => by cases h hc
    exact .inr ⟨_, hquotient, by omega⟩
  · rintro (h | ⟨k, hk, hout⟩) hc
    · exact absurd h hden
    · rw [← hquotient.unique hk] at hout
      omega

/-! ## The order of timestamps -/

/-- In a timebase with positive terms an earlier timestamp has the smaller quotient. -/
lemma quotient_le_quotient (hnum : 0 < tb.num) (hden : 0 < tb.den) (h : ts₁ ≤ ts₂) :
    (ts₁ * 1000000 * tb.num).tdiv tb.den ≤ (ts₂ * 1000000 * tb.num).tdiv tb.den := by
  refine Int.tdiv_le_tdiv hden (Int.mul_le_mul_of_nonneg_right ?_ hnum.le)
  exact Int.mul_le_mul_of_nonneg_right h (by decide)

/-- The conversion keeps the order of timestamps. -/
lemma toUsec_le_toUsec (hnum : 0 < tb.num) (hden : 0 < tb.den) (h : ts₁ ≤ ts₂)
    (h₁ : tb.toUsec ts₁ = some u₁) (h₂ : tb.toUsec ts₂ = some u₂) : u₁ ≤ u₂ := by
  obtain ⟨-, rfl⟩ := isTruncated_iff.1 (toUsec_eq_some_iff.1 h₁).1
  obtain ⟨-, rfl⟩ := isTruncated_iff.1 (toUsec_eq_some_iff.1 h₂).1
  exact quotient_le_quotient hnum hden h

/-- Between two timestamps that can be converted every one can. -/
lemma isSome_toUsec_of_between (hnum : 0 < tb.num) (hden : 0 < tb.den) (hle₁ : ts₁ ≤ ts)
    (hle₂ : ts ≤ ts₂) (h₁ : tb.toUsec ts₁ = some u₁) (h₂ : tb.toUsec ts₂ = some u₂) :
    (tb.toUsec ts).isSome = true := by
  obtain ⟨hquot₁, hlow, -⟩ := toUsec_eq_some_iff.1 h₁
  obtain ⟨hquot₂, -, hhigh⟩ := toUsec_eq_some_iff.1 h₂
  obtain ⟨-, rfl⟩ := isTruncated_iff.1 hquot₁
  obtain ⟨-, rfl⟩ := isTruncated_iff.1 hquot₂
  refine Option.isSome_iff_exists.2 ⟨_, toUsec_eq_some_iff.2 ⟨isTruncated_tdiv hden.ne', ?_, ?_⟩⟩
  · exact hlow.trans (quotient_le_quotient hnum hden hle₁)
  · exact (quotient_le_quotient hnum hden hle₂).trans hhigh

/-! ## On machine words -/

/-- A signed word of 128 bits. -/
abbrev Wide := BitVec 128

/-- The result of an operation on wide words. If it overflows, a build for development stops. -/
def wideOn (build : Build) (overflows : Bool) (result : Wide) : Except MediaError Wide :=
  if overflows && build = .dev then .error .overflow else .ok result

/-- A wide word in 64 bits, if it fits. -/
def narrow? (k : Wide) : Option Int64 :=
  if minInt64 ≤ k.toInt ∧ k.toInt ≤ maxInt64 then some (Int64.ofInt k.toInt) else none

/-- The timestamp `ts` in microseconds, on machine words. -/
def toUsecOn (build : Build) (num den : Int32) (ts : Int64) : Except MediaError (Option Int64) :=
  if den = 0 then
    pure none
  else do
    let ts : Wide := ts.toBitVec.signExtend 128
    let num : Wide := num.toBitVec.signExtend 128
    let den : Wide := den.toBitVec.signExtend 128
    let scaled ← wideOn build (ts.smulOverflow 1000000) (ts * 1000000)
    let product ← wideOn build (scaled.smulOverflow num) (scaled * num)
    -- a quotient that overflows stops a release as well
    let quotient ← wideOn .dev (product.sdivOverflow den) (product.sdiv den)
    pure (narrow? quotient)

/-- An operation that does not overflow gives its result in every build. -/
lemma wideOn_of_fits {build : Build} {overflows : Bool} (h : overflows = false) (result : Wide) :
    wideOn build overflows result = .ok result := by
  rw [wideOn, h, Bool.false_and, if_neg Bool.false_ne_true]

variable {x y : Wide} {a b : Nat}

/-- A product of small words is exact, and small as well. -/
lemma toInt_mul_of_le (hx : x.toInt.natAbs ≤ a) (hy : y.toInt.natAbs ≤ b) (hab : a * b < 2 ^ 127) :
    x.smulOverflow y = false ∧ (x * y).toInt = x.toInt * y.toInt ∧
      (x * y).toInt.natAbs ≤ a * b := by
  have hle : (x.toInt * y.toInt).natAbs ≤ a * b := by
    rw [Int.natAbs_mul]
    exact Nat.mul_le_mul hx hy
  have hfits : x.smulOverflow y = false := by
    rw [BitVec.smulOverflow, Bool.or_eq_false_iff, decide_eq_false_iff_not, decide_eq_false_iff_not]
    omega
  have hmul : (x * y).toInt = x.toInt * y.toInt :=
    BitVec.toInt_mul_of_not_smulOverflow (by rw [hfits]; exact Bool.false_ne_true)
  exact ⟨hfits, hmul, hmul.symm ▸ hle⟩

/-- A quotient of a small word is exact. -/
lemma toInt_sdiv_of_le (hx : x.toInt.natAbs ≤ a) (ha : a < 2 ^ 127) :
    x.sdivOverflow y = false ∧ (x.sdiv y).toInt = x.toInt.tdiv y.toInt := by
  have hle : (x.toInt / y.toInt).natAbs ≤ x.toInt.natAbs := Int.natAbs_ediv_le_natAbs _ _
  refine ⟨?_, BitVec.toInt_sdiv_of_ne_or_ne _ _ (.inl ?_)⟩
  · rw [BitVec.sdivOverflow, Bool.or_eq_false_iff, decide_eq_false_iff_not, decide_eq_false_iff_not]
    omega
  · rintro rfl
    rw [BitVec.toInt_intMin] at hx
    norm_num at hx
    omega

/-- **No step of the conversion overflows**: on machine words it gives in every build what it gives
on integers.

**Proof sketch.** The three factors are at most `2 ^ 63`, `1000000` and `2 ^ 31` in size, so the
product stays below `2 ^ 127`; a quotient is not larger than what is divided. -/
lemma toUsecOn_eq (build : Build) (num den : Int32) (ts : Int64) :
    toUsecOn build num den ts =
      .ok ((toUsec ⟨num.toInt, den.toInt⟩ ts.toInt).map Int64.ofInt) := by
  by_cases hden : den = 0
  · subst hden
    rfl
  have hdenInt : den.toInt ≠ 0 := fun h => hden (Int32.toInt_inj.1 h)
  have hts : (ts.toBitVec.signExtend 128).toInt = ts.toInt :=
    BitVec.toInt_signExtend_of_le (by decide)
  have hnum : (num.toBitVec.signExtend 128).toInt = num.toInt :=
    BitVec.toInt_signExtend_of_le (by decide)
  have hdenWide : (den.toBitVec.signExtend 128).toInt = den.toInt :=
    BitVec.toInt_signExtend_of_le (by decide)
  have htsLe : (ts.toBitVec.signExtend 128).toInt.natAbs ≤ 2 ^ 63 := by
    have := ts.le_toInt
    have := ts.toInt_lt
    rw [hts]
    omega
  have hnumLe : (num.toBitVec.signExtend 128).toInt.natAbs ≤ 2 ^ 31 := by
    have := num.le_toInt
    have := num.toInt_lt
    rw [hnum]
    omega
  obtain ⟨hfits, hscaled, hscaledLe⟩ :=
    toInt_mul_of_le (y := 1000000) htsLe (Nat.le_refl _) (by decide)
  obtain ⟨hfits', hproduct, hproductLe⟩ := toInt_mul_of_le hscaledLe hnumLe (by decide)
  obtain ⟨hfits'', hquotient⟩ :=
    toInt_sdiv_of_le (y := den.toBitVec.signExtend 128) hproductLe (by decide)
  have hscale : (1000000 : Wide).toInt = 1000000 := by decide
  rw [hproduct, hscaled, hts, hscale, hnum, hdenWide] at hquotient
  have hexact : toUsec ⟨num.toInt, den.toInt⟩ ts.toInt =
      toInt64? ((ts.toInt * 1000000 * num.toInt).tdiv den.toInt) := if_neg hdenInt
  rw [toUsecOn, if_neg hden]
  dsimp only
  rw [wideOn_of_fits hfits, ok_bind, wideOn_of_fits hfits', ok_bind, wideOn_of_fits hfits'', ok_bind,
    narrow?, hquotient, hexact, toInt64?]
  split <;> rfl

/-- A number that 64 bits hold is the number of its word. -/
lemma map_toInt_map_ofInt (tb : Timebase) (ts : Int) :
    ((tb.toUsec ts).map Int64.ofInt).map Int64.toInt = tb.toUsec ts := by
  cases h : tb.toUsec ts with
  | none => rfl
  | some u =>
    obtain ⟨-, hlow, hhigh⟩ := toUsec_eq_some_iff.1 h
    rw [minInt64] at hlow
    rw [maxInt64] at hhigh
    exact congrArg some (Int64.toInt_ofInt_of_le (by omega) (by omega))

/-- The conversion on words gives a word just if it holds the truncated quotient. -/
lemma map_ofInt_eq_some_iff {num den : Int32} {ts v : Int64} :
    (toUsec ⟨num.toInt, den.toInt⟩ ts.toInt).map Int64.ofInt = some v ↔
      IsTruncated (ts.toInt * 1000000 * num.toInt) den.toInt v.toInt := by
  have hlow := v.le_toInt
  have hhigh := v.toInt_lt
  have hrange : minInt64 ≤ v.toInt ∧ v.toInt ≤ maxInt64 := by
    rw [minInt64, maxInt64]
    omega
  have hsome : toUsec ⟨num.toInt, den.toInt⟩ ts.toInt = some v.toInt ↔
      IsTruncated (ts.toInt * 1000000 * num.toInt) den.toInt v.toInt := by
    rw [toUsec_eq_some_iff]
    exact and_iff_left hrange
  rw [← hsome]
  constructor
  · intro h
    rw [← map_toInt_map_ofInt, h]
    rfl
  · intro h
    rw [h, Option.map_some, Int64.ofInt_toInt]

/-- It gives none just if the denominator is zero or no word holds the quotient. -/
lemma map_ofInt_eq_none_iff {num den : Int32} {ts : Int64} :
    (toUsec ⟨num.toInt, den.toInt⟩ ts.toInt).map Int64.ofInt = none ↔
      den = 0 ∨ ∃ k, IsTruncated (ts.toInt * 1000000 * num.toInt) den.toInt k ∧
        (k < minInt64 ∨ maxInt64 < k) := by
  rw [Option.map_eq_none_iff, toUsec_eq_none_iff]
  exact or_congr_left (Int32.toInt_inj (y := 0))

end Timebase

end LiveMedia
