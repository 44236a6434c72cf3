import Mathlib.Algebra.Order.Archimedean.Basic
import Mathlib.Algebra.Order.Field.Power
import Mathlib.Data.Rat.Defs
import Mathlib.Tactic.FieldSimp
import Mathlib.Tactic.Linarith
import Mathlib.Tactic.Positivity
import Mathlib.Tactic.NormNum
import Mathlib.Tactic.Ring
import ElfInspect.Number.Binary64

namespace ElfInspect

/-!
# Rounding to the nearest number

A ratio that is nearer to a number than to any other is rounded to it.  What a ratio or a decimal is
rounded to depends on its value alone.

* `Binary64.Canonical` — mantissas and exponents that numbers are kept with;
* `Binary64.value` — the value of a mantissa and an exponent;
* `Binary64.Near` — the values that are nearest to a number;
* `Binary64.ofRatio_of_near`, `Binary64.ofDecimal_of_near` — they are rounded to it;
* `Binary64.ofDecimal_shift` — a decimal may be filled up with zeros.
-/

/-! ### Nearest integers -/

/-- What is less than a half away from an integer is rounded to it. -/
theorem roundHalfEven_eq {num den q : Nat} (hden : 0 < den) (hlow : (q : ℚ) - 1 / 2 < num / den)
    (hhigh : (num : ℚ) / den < q + 1 / 2) : roundHalfEven num den = q := by
  have hpos : (0 : ℚ) < den := by exact_mod_cast hden
  rw [lt_div_iff₀ hpos] at hlow
  rw [div_lt_iff₀ hpos] at hhigh
  have hlow : 2 * (den * q) < 2 * num + den := by
    have h : ((2 * (den * q) : Nat) : ℚ) < ((2 * num + den : Nat) : ℚ) := by
      push_cast
      linarith
    exact_mod_cast h
  have hhigh : 2 * num < 2 * (den * q) + den := by
    have h : ((2 * num : Nat) : ℚ) < ((2 * (den * q) + den : Nat) : ℚ) := by
      push_cast
      linarith
    exact_mod_cast h
  have hdiv := Nat.div_add_mod num den
  have hmod := Nat.mod_lt num hden
  unfold roundHalfEven
  rcases Nat.lt_trichotomy q (num / den) with hlt | rfl | hgt
  · -- the quotient would be a whole step too large
    have hstep : den * (q + 1) ≤ den * (num / den) := Nat.mul_le_mul_left den hlt
    rw [Nat.mul_succ] at hstep
    omega
  · rw [if_pos (by omega)]
  · have hstep : den * (num / den + 1) ≤ den * q := Nat.mul_le_mul_left den hgt
    rw [Nat.mul_succ] at hstep
    obtain rfl : q = num / den + 1 := by
      rcases Nat.lt_or_ge (num / den + 1) q with hmore | hle
      · have hmore : den * (num / den + 1 + 1) ≤ den * q := Nat.mul_le_mul_left den hmore
        rw [Nat.mul_succ, Nat.mul_succ] at hmore
        omega
      · omega
    rw [Nat.mul_succ] at hlow
    rw [if_neg (by omega), if_pos (by omega)]

/-- Rounding depends on the ratio only. -/
theorem roundHalfEven_mul_left {c : Nat} (hc : 0 < c) (num den : Nat) :
    roundHalfEven (c * num) (c * den) = roundHalfEven num den := by
  unfold roundHalfEven
  simp only [Nat.mul_div_mul_left num den hc, Nat.mul_mod_mul_left, Nat.mul_left_comm 2 c,
    Nat.mul_lt_mul_left hc]

/-- So does rounding to a power of two. -/
theorem roundScaled_mul_left {c : Nat} (hc : 0 < c) (num den : Nat) (e : Int) :
    roundScaled (c * num) (c * den) e = roundScaled num den e := by
  unfold roundScaled
  rw [Nat.mul_assoc, Nat.mul_assoc, roundHalfEven_mul_left hc, roundHalfEven_mul_left hc]

/-! ### Powers -/

/-- Powers with exponents that are not negative are those of the natural numbers. -/
theorem zpow_of_nonneg (b : ℚ) {e : Int} (h : 0 ≤ e) : b ^ e = b ^ e.toNat := by
  rw [← zpow_natCast, Int.toNat_of_nonneg h]

/-- The others are their reciprocals. -/
theorem zpow_of_neg (b : ℚ) {e : Int} (h : e < 0) : b ^ e = (b ^ (-e).toNat)⁻¹ := by
  rw [← zpow_natCast, Int.toNat_of_nonneg (by omega), zpow_neg, inv_inv]

/-- What is less than a half away from a multiple of a power is rounded to it. -/
theorem roundScaled_eq {num den q : Nat} {e : Int} (hden : 0 < den)
    (hlow : ((q : ℚ) - 1 / 2) * 2 ^ e < num / den)
    (hhigh : (num : ℚ) / den < (q + 1 / 2) * 2 ^ e) : roundScaled num den e = q := by
  have hpos : (0 : ℚ) < 2 ^ e := by positivity
  have hden' : (den : ℚ) ≠ 0 := by positivity
  rw [← lt_div_iff₀ hpos] at hlow
  rw [← div_lt_iff₀ hpos] at hhigh
  -- the power of two goes to the denominator or to the numerator
  unfold roundScaled
  split
  · rename_i h
    have hratio : ((num : ℚ) / den) / 2 ^ e = num / (den * Nat.pow 2 e.toNat : Nat) := by
      rw [zpow_of_nonneg 2 h, div_div, Nat.pow_eq]
      push_cast
      rfl
    rw [hratio] at hlow hhigh
    exact roundHalfEven_eq (Nat.mul_pos hden (Nat.two_pow_pos _)) hlow hhigh
  · rename_i h
    have hratio : ((num : ℚ) / den) / 2 ^ e = (num * Nat.pow 2 (-e).toNat : Nat) / den := by
      rw [zpow_of_neg 2 (by omega), div_inv_eq_mul, div_mul_eq_mul_div, Nat.pow_eq]
      push_cast
      rfl
    rw [hratio] at hlow hhigh
    exact roundHalfEven_eq hden hlow hhigh

namespace Binary64

/-! ### Exponents -/

/-- The comparison with a power that exponents are found by. -/
theorem lt_pow_iff {num den : Nat} (hden : 0 < den) (k : Int) :
    (if 0 ≤ k then decide (num < den * Nat.pow 2 k.toNat)
      else decide (num * Nat.pow 2 (-k).toNat < den)) = true ↔ (num : ℚ) / den < 2 ^ k := by
  have hpos : (0 : ℚ) < den := by exact_mod_cast hden
  split
  · rename_i h
    rw [decide_eq_true_iff, zpow_of_nonneg 2 h, div_lt_iff₀ hpos, mul_comm]
    exact_mod_cast Iff.rfl
  · rename_i h
    rw [decide_eq_true_iff, zpow_of_neg 2 (by omega), div_lt_iff₀ hpos, ← div_eq_inv_mul,
      lt_div_iff₀ (by positivity)]
    exact_mod_cast Iff.rfl

/-- The number of binary digits of a ratio, up to one. -/
theorem ratio_bounds {num den : Nat} (hnum : 0 < num) (hden : 0 < den) :
    (2 : ℚ) ^ ((num.log2 : Int) - den.log2 - 1) < num / den ∧
      (num : ℚ) / den < 2 ^ ((num.log2 : Int) - den.log2 + 1) := by
  have hpos : (0 : ℚ) < den := by exact_mod_cast hden
  have hnumlow : (2 : ℚ) ^ num.log2 ≤ num := by
    exact_mod_cast Nat.log2_self_le (Nat.pos_iff_ne_zero.mp hnum)
  have hnumhigh : (num : ℚ) < 2 ^ (num.log2 + 1) := by exact_mod_cast Nat.lt_log2_self
  have hdenlow : (2 : ℚ) ^ den.log2 ≤ den := by
    exact_mod_cast Nat.log2_self_le (Nat.pos_iff_ne_zero.mp hden)
  have hdenhigh : (den : ℚ) < 2 ^ (den.log2 + 1) := by exact_mod_cast Nat.lt_log2_self
  -- numerator and denominator are each between two powers of two
  constructor
  · rw [lt_div_iff₀ hpos]
    calc (2 : ℚ) ^ ((num.log2 : Int) - den.log2 - 1) * den
        < 2 ^ ((num.log2 : Int) - den.log2 - 1) * 2 ^ (den.log2 + 1) := by gcongr
      _ = 2 ^ num.log2 := by
        rw [← zpow_natCast, ← zpow_natCast, ← zpow_add₀ (by norm_num)]
        congr 1
        push_cast
        ring
      _ ≤ num := hnumlow
  · rw [div_lt_iff₀ hpos]
    calc (num : ℚ) < 2 ^ (num.log2 + 1) := hnumhigh
      _ = 2 ^ ((num.log2 : Int) - den.log2 + 1) * 2 ^ den.log2 := by
        rw [← zpow_natCast, ← zpow_natCast, ← zpow_add₀ (by norm_num)]
        congr 1
        push_cast
        ring
      _ ≤ 2 ^ ((num.log2 : Int) - den.log2 + 1) * den := by gcongr

/-- **Exponents.**  The exponent of a ratio is that of the power of two below it, so that a mantissa
    of 53 bits is left, but not less than the least one. -/
theorem exponentOf_eq {num den : Nat} {e : Int} (hnum : 0 < num) (hden : 0 < den)
    (hlow : (2 : ℚ) ^ (52 + e) ≤ num / den) (hhigh : (num : ℚ) / den < 2 ^ (53 + e)) :
    exponentOf num den = max e (-1074) := by
  obtain ⟨hmin, hmax⟩ := ratio_bounds hnum hden
  have htwo : (1 : ℚ) < 2 := by norm_num
  have hup := (zpow_lt_zpow_iff_right₀ htwo).mp (hmin.trans hhigh)
  have hdown := (zpow_lt_zpow_iff_right₀ htwo).mp (hlow.trans_lt hmax)
  have hsmall := @lt_pow_iff num den hden (52 + ((num.log2 : Int) - den.log2 - 52))
  unfold exponentOf
  dsimp only
  by_cases h : (num : ℚ) / den < 2 ^ (52 + ((num.log2 : Int) - den.log2 - 52))
  · -- the estimate is one too large
    have hlt := (zpow_lt_zpow_iff_right₀ htwo).mp (hlow.trans_lt h)
    rw [if_pos (hsmall.mpr h)]
    congr 1
    omega
  · have hlt := (zpow_lt_zpow_iff_right₀ htwo).mp ((not_lt.mp h).trans_lt hhigh)
    rw [if_neg (mt hsmall.mp h)]
    congr 1
    omega

/-- The exponent of a ratio below the numbers with a mantissa of 53 bits is the least one. -/
theorem exponentOf_of_lt {num den : Nat} (hnum : 0 < num) (hden : 0 < den)
    (h : (num : ℚ) / den < 2 ^ (53 + (-1074) : Int)) : exponentOf num den = -1074 := by
  have hpos : (0 : ℚ) < num / den := by positivity
  obtain ⟨k, hlow, hhigh⟩ := exists_mem_Ico_zpow hpos (show (1 : ℚ) < 2 by norm_num)
  have hlt := (zpow_lt_zpow_iff_right₀ (show (1 : ℚ) < 2 by norm_num)).mp (hlow.trans_lt h)
  have hexponent : exponentOf num den = max (k - 52) (-1074) := by
    refine exponentOf_eq hnum hden ?_ ?_
    · rwa [show 52 + (k - 52) = k by ring]
    · rwa [show 53 + (k - 52) = k + 1 by ring]
  omega

/-- The exponent of a ratio depends on the ratio only. -/
theorem exponentOf_mul_left {c num den : Nat} (hc : 0 < c) (hnum : 0 < num) (hden : 0 < den) :
    exponentOf (c * num) (c * den) = exponentOf num den := by
  have hpos : (0 : ℚ) < num / den := by positivity
  obtain ⟨k, hlow, hhigh⟩ := exists_mem_Ico_zpow hpos (show (1 : ℚ) < 2 by norm_num)
  have hsame : ((c * num : Nat) : ℚ) / (c * den : Nat) = num / den := by
    push_cast
    exact mul_div_mul_left _ _ (by positivity)
  have hlow' : (2 : ℚ) ^ (52 + (k - 52)) ≤ num / den := by rwa [show 52 + (k - 52) = k by ring]
  have hhigh' : (num : ℚ) / den < 2 ^ (53 + (k - 52)) := by
    rwa [show 53 + (k - 52) = k + 1 by ring]
  rw [exponentOf_eq hnum hden hlow' hhigh', exponentOf_eq (Nat.mul_pos hc hnum)
    (Nat.mul_pos hc hden) (hsame ▸ hlow') (hsame ▸ hhigh')]

/-! ### Ratios -/

/-- Mantissas and exponents that finite numbers are kept with. -/
structure Canonical (mantissa : Nat) (exponent : Int) : Prop where
  mantissa_lt : mantissa < 2 ^ 53
  le_exponent : -1074 ≤ exponent
  exponent_le : exponent ≤ 971
  normal : 2 ^ 52 ≤ mantissa ∨ exponent = -1074

/-- The numbers of the format: a finite one has a canonical mantissa and exponent. -/
def IsCanonical : Binary64 → Prop
  | .finite _ mantissa exponent => Canonical mantissa exponent
  | _ => True

/-- The value of a mantissa and an exponent. -/
def value (mantissa : Nat) (exponent : Int) : ℚ :=
  mantissa * 2 ^ exponent

/-- The values that are less than half a step away from a number.  Below a power of two the steps
    are half as long. -/
structure Near (mantissa : Nat) (exponent : Int) (x : ℚ) : Prop where
  above : ((mantissa : ℚ) - 1 / 2) * 2 ^ exponent < x
  below : x < ((mantissa : ℚ) + 1 / 2) * 2 ^ exponent
  boundary : mantissa = 2 ^ 52 → -1074 < exponent → ((2 : ℚ) ^ 52 - 1 / 4) * 2 ^ exponent < x

variable {mantissa num den : Nat} {exponent : Int} {x : ℚ}

/-- What is near a positive number is positive. -/
theorem Near.pos (h : Near mantissa exponent x) (hmantissa : 0 < mantissa) : 0 < x := by
  have hone : (1 : ℚ) ≤ mantissa := by exact_mod_cast hmantissa
  have hpow : (0 : ℚ) < 2 ^ exponent := by positivity
  have hlow : (0 : ℚ) < ((mantissa : ℚ) - 1 / 2) * 2 ^ exponent := by
    apply mul_pos _ hpow
    linarith
  exact hlow.trans h.above

/-- What is near a number is below the next power of two. -/
theorem Near.lt_top (h : Near mantissa exponent x) (hcanonical : Canonical mantissa exponent) :
    x < 2 ^ (53 + exponent) := by
  have hlt : (mantissa : ℚ) + 1 ≤ 2 ^ 53 := by exact_mod_cast hcanonical.mantissa_lt
  have hpow : (0 : ℚ) < 2 ^ exponent := by positivity
  calc x < ((mantissa : ℚ) + 1 / 2) * 2 ^ exponent := h.below
    _ ≤ 2 ^ 53 * 2 ^ exponent := by gcongr; linarith
    _ = 2 ^ (53 + exponent) := by rw [zpow_add₀ (by norm_num)]; norm_cast

/-- **Ratios.**  A ratio that is near a number is rounded to it. -/
theorem ofRatio_of_near (negative : Bool) (hden : 0 < den)
    (hcanonical : Canonical mantissa exponent) (hmantissa : 0 < mantissa)
    (hnear : Near mantissa exponent (num / den)) :
    ofRatio negative num den = .finite negative mantissa exponent := by
  obtain ⟨hlt, hleast, hmost, hnormal⟩ := hcanonical
  have hpos := hnear.pos hmantissa
  have hnum : 0 < num := by
    rcases Nat.eq_zero_or_pos num with rfl | h
    · simp at hpos
    · exact h
  have htop := hnear.lt_top ⟨hlt, hleast, hmost, hnormal⟩
  unfold ofRatio
  rw [if_neg (by omega)]
  dsimp only
  -- where the exponent is that of the number, so is the mantissa
  have hsame (hexponent : exponentOf num den = exponent) :
      roundScaled num den (exponentOf num den) = mantissa := by
    rw [hexponent]
    exact roundScaled_eq hden hnear.above hnear.below
  have hmantissa_ne : mantissa ≠ Nat.pow 2 53 := by
    rw [Nat.pow_eq]
    omega
  rcases le_or_gt ((2 : ℚ) ^ (52 + exponent)) (num / den) with hlow | hlow
  · have hexponent : exponentOf num den = exponent := by
      rw [exponentOf_eq hnum hden hlow htop]
      omega
    rw [hsame hexponent, if_neg hmantissa_ne, hexponent]
    exact if_neg (by omega)
  · rcases hleast.eq_or_lt with rfl | hgt
    · have hexponent := exponentOf_of_lt hnum hden htop
      rw [hsame hexponent, if_neg hmantissa_ne, hexponent]
      exact if_neg (by omega)
    · -- only a ratio just below a power of two has a lesser exponent, and then it is carried over
      obtain rfl : mantissa = 2 ^ 52 := by
        have hpow : (0 : ℚ) < 2 ^ exponent := by positivity
        have hless := hnear.above.trans hlow
        rw [zpow_add₀ (by norm_num), mul_lt_mul_iff_left₀ hpow] at hless
        have hpower : (2 : ℚ) ^ (52 : Int) = 2 ^ 52 := by norm_cast
        have hless : (mantissa : ℚ) < 2 ^ 52 + 1 := by
          rw [hpower] at hless
          linarith
        have hless : mantissa < 2 ^ 52 + 1 := by exact_mod_cast hless
        omega
      have hboundary := hnear.boundary rfl hgt
      have hstep : (2 : ℚ) ^ exponent = 2 * 2 ^ (exponent - 1) := by
        rw [zpow_sub_one₀ (by norm_num)]
        ring
      have hexponent : exponentOf num den = exponent - 1 := by
        rw [exponentOf_eq (e := exponent - 1) hnum hden ?_ ?_]
        · omega
        · rw [hstep] at hboundary
          refine le_of_lt (lt_of_le_of_lt ?_ hboundary)
          rw [zpow_add₀ (by norm_num), ← mul_assoc]
          gcongr
          norm_num
        · rwa [show 53 + (exponent - 1) = 52 + exponent by ring]
      have hround : roundScaled num den (exponent - 1) = Nat.pow 2 53 := by
        refine roundScaled_eq hden ?_ ?_
        · rw [hstep] at hboundary
          refine lt_of_le_of_lt ?_ hboundary
          rw [← mul_assoc, Nat.pow_eq]
          gcongr
          norm_num
        · refine hlow.trans ?_
          rw [show 52 + exponent = 53 + (exponent - 1) by ring, zpow_add₀ (by norm_num),
            Nat.pow_eq]
          gcongr
          norm_num
      rw [hexponent, hround, if_pos rfl]
      dsimp only
      rw [if_neg (by omega), Int.sub_add_cancel]
      rfl

/-- The number for a ratio depends on the ratio only. -/
theorem ofRatio_mul_left (negative : Bool) {c : Nat} (hc : 0 < c) (hden : 0 < den) (num : Nat) :
    ofRatio negative (c * num) (c * den) = ofRatio negative num den := by
  rcases Nat.eq_zero_or_pos num with rfl | hnum
  · simp [ofRatio]
  · unfold ofRatio
    rw [if_neg (Nat.mul_pos hc hnum).ne', if_neg hnum.ne', exponentOf_mul_left hc hnum hden]
    simp only [roundScaled_mul_left hc]

/-! ### Decimals -/

/-- The number of digits of a number. -/
theorem digits_bounds {n : Nat} (h : 0 < n) :
    (10 : ℚ) ^ ((Nat.toDigits 10 n).length - 1 : Int) ≤ n ∧
      (n : ℚ) < 10 ^ ((Nat.toDigits 10 n).length : Int) := by
  have hlength := Nat.length_toDigits_pos (b := 10) (n := n)
  have hupper : n < 10 ^ (Nat.toDigits 10 n).length :=
    (Nat.length_toDigits_le_iff (by decide) hlength).mp (Nat.le_refl _)
  constructor
  · rcases Nat.eq_or_lt_of_le hlength with hone | hmore
    · rw [← hone]
      norm_num
      exact_mod_cast h
    -- with one digit less the number would be smaller
    · have hnot : ¬ (Nat.toDigits 10 n).length ≤ (Nat.toDigits 10 n).length - 1 := by omega
      rw [Nat.length_toDigits_le_iff (by decide) (by omega), not_lt] at hnot
      rw [← Nat.cast_one, ← Int.ofNat_sub hlength, zpow_natCast]
      exact_mod_cast hnot
  · rw [zpow_natCast]
    exact_mod_cast hupper

/-- A decimal with one more zero stands for the same number. -/
theorem ofDecimal_ten_mul (negative : Bool) (digits : Nat) (exponent : Int) :
    ofDecimal negative (10 * digits) exponent = ofDecimal negative digits (exponent + 1) := by
  rcases Nat.eq_zero_or_pos digits with rfl | hdigits
  · rfl
  · have hlength :
        (Nat.toDigits 10 (10 * digits)).length = (Nat.toDigits 10 digits).length + 1 := by
      rw [Nat.toDigits_of_base_le (by decide) (by omega), List.length_append, List.length_singleton,
        Nat.mul_div_cancel_left digits (by decide)]
    have hmagnitude : exponent + ((Nat.toDigits 10 digits).length + 1 : Nat) =
        exponent + 1 + (Nat.toDigits 10 digits).length := by
      push_cast
      ring
    have hratio : (if 0 ≤ exponent then
          ofRatio negative (10 * digits * Nat.pow 10 exponent.toNat) 1
        else ofRatio negative (10 * digits) (Nat.pow 10 (-exponent).toNat)) =
        if 0 ≤ exponent + 1 then ofRatio negative (digits * Nat.pow 10 (exponent + 1).toNat) 1
        else ofRatio negative digits (Nat.pow 10 (-(exponent + 1)).toNat) := by
      -- the power of ten loses a factor, passes one, or gains a factor
      rcases lt_trichotomy (exponent + 1) 0 with hneg | hzero | hpos
      · have hpow : Nat.pow 10 (-exponent).toNat = 10 * Nat.pow 10 (-(exponent + 1)).toNat := by
          rw [show (-exponent).toNat = (-(exponent + 1)).toNat + 1 by omega, Nat.pow_eq,
            Nat.pow_succ, Nat.mul_comm, Nat.pow_eq]
        rw [if_neg (by omega), if_neg (by omega), hpow]
        exact ofRatio_mul_left negative (by decide) (Nat.pow_pos (by decide)) digits
      · obtain rfl : exponent = -1 := by omega
        rw [if_neg (by omega), if_pos (by omega)]
        show ofRatio negative (10 * digits) (10 * 1) = ofRatio negative (digits * 1) 1
        rw [Nat.mul_one digits]
        exact ofRatio_mul_left negative (by decide) (by decide) digits
      · have hpow : digits * Nat.pow 10 (exponent + 1).toNat =
            10 * digits * Nat.pow 10 exponent.toNat := by
          rw [show (exponent + 1).toNat = exponent.toNat + 1 by omega, Nat.pow_eq, Nat.pow_succ,
            Nat.pow_eq, Nat.mul_comm 10 digits, Nat.mul_assoc, Nat.mul_comm 10]
        rw [if_pos (by omega), if_pos (by omega), hpow]
    unfold ofDecimal
    rw [if_neg (show ¬ 10 * digits = 0 by omega), if_neg (show ¬ digits = 0 by omega), hlength]
    dsimp only
    rw [hmagnitude, hratio]

/-- **Decimals.**  A decimal that is filled up with zeros stands for the same number. -/
theorem ofDecimal_shift (negative : Bool) (digits count : Nat) (exponent : Int) :
    ofDecimal negative (digits * 10 ^ count) exponent =
      ofDecimal negative digits (exponent + count) := by
  induction count generalizing exponent with
  | zero => simp
  | succ count ih =>
    rw [Nat.pow_succ, ← Nat.mul_assoc, Nat.mul_comm _ 10, ofDecimal_ten_mul, ih]
    congr 1
    push_cast
    ring

/-- **Decimals.**  A decimal that is near a number is rounded to it. -/
theorem ofDecimal_of_near (negative : Bool) {digits : Nat} {unit : Int}
    (hcanonical : Canonical mantissa exponent) (hmantissa : 0 < mantissa)
    (hnear : Near mantissa exponent (digits * 10 ^ unit)) :
    ofDecimal negative digits unit = .finite negative mantissa exponent := by
  have hpos := hnear.pos hmantissa
  have hdigits : 0 < digits := by
    rcases Nat.eq_zero_or_pos digits with rfl | h
    · simp at hpos
    · exact h
  have hten : (1 : ℚ) < 10 := by norm_num
  obtain ⟨hmin, hmax⟩ := digits_bounds hdigits
  have hpow : (0 : ℚ) < 10 ^ unit := by positivity
  -- no number is as large or as small as what is settled by magnitude
  have hlarge : unit + (Nat.toDigits 10 digits).length ≤ 310 := by
    have hlow : (10 : ℚ) ^ (unit + (Nat.toDigits 10 digits).length - 1) ≤ digits * 10 ^ unit := by
      rw [show unit + ((Nat.toDigits 10 digits).length : Int) - 1 =
        (Nat.toDigits 10 digits).length - 1 + unit by ring, zpow_add₀ (by norm_num)]
      gcongr
    have htop : (2 : ℚ) ^ (53 + exponent) ≤ 10 ^ (310 : Int) := by
      calc (2 : ℚ) ^ (53 + exponent) ≤ 2 ^ (1024 : Int) :=
            zpow_le_zpow_right₀ (by norm_num) (by have := hcanonical.exponent_le; omega)
        _ ≤ 10 ^ (310 : Int) := by
          have hpowers : 2 ^ 1024 ≤ 10 ^ 310 := by decide +kernel
          exact_mod_cast hpowers
    have hlt := (zpow_lt_zpow_iff_right₀ hten).mp
      ((hlow.trans_lt (hnear.lt_top hcanonical)).trans_le htop)
    omega
  have hsmall : -330 ≤ unit + (Nat.toDigits 10 digits).length := by
    have hhigh : digits * (10 : ℚ) ^ unit < 10 ^ (unit + (Nat.toDigits 10 digits).length) := by
      rw [add_comm, zpow_add₀ (by norm_num)]
      gcongr
    have hbottom : (10 : ℚ) ^ (-330 : Int) ≤ ((mantissa : ℚ) - 1 / 2) * 2 ^ exponent := by
      have hone : (1 : ℚ) ≤ mantissa := by exact_mod_cast hmantissa
      calc (10 : ℚ) ^ (-330 : Int) ≤ 2 ^ (-1075 : Int) := by
            have hpowers : 2 ^ 1075 ≤ 10 ^ 330 := by decide +kernel
            rw [zpow_neg, zpow_neg]
            apply inv_anti₀ (by positivity)
            exact_mod_cast hpowers
        _ = 1 / 2 * 2 ^ (-1074 : Int) := by
          rw [show (-1075 : Int) = -1 + -1074 by norm_num, zpow_add₀ (by norm_num)]
          norm_num
        _ ≤ 1 / 2 * 2 ^ exponent := by
          gcongr
          · norm_num
          · exact hcanonical.le_exponent
        _ ≤ ((mantissa : ℚ) - 1 / 2) * 2 ^ exponent := by
          gcongr
          linarith
    have hlt := (zpow_lt_zpow_iff_right₀ hten).mp
      ((hbottom.trans_lt hnear.above).trans hhigh)
    omega
  unfold ofDecimal
  rw [if_neg (by omega)]
  dsimp only
  rw [if_neg (by omega), if_neg (by omega)]
  split
  · rename_i h
    refine ofRatio_of_near negative (by decide) hcanonical hmantissa ?_
    rw [Nat.pow_eq]
    push_cast
    rwa [div_one, ← zpow_of_nonneg 10 h]
  · rename_i h
    refine ofRatio_of_near negative (Nat.pow_pos (by decide)) hcanonical hmantissa ?_
    rw [Nat.pow_eq]
    push_cast
    rwa [div_eq_mul_inv, ← zpow_of_neg 10 (by omega)]

end Binary64

end ElfInspect
