import Mathlib.Data.Nat.Cast.Order.Field
import ElfInspect.Proofs.Number.Rounding

namespace ElfInspect.Binary64

/-!
# Shortest decimals

The shortest decimal of a number reads back as the number.  It is looked for on finer and finer
decimal grids, of which the one of seventeen digits is fine enough: its steps are shorter than half
a step between numbers, so that the nearer one of the neighbours of a number on this grid is near to
it.

* `Binary64.decimalPoint_bounds`, `Binary64.onGrid_bounds` — the powers of ten, and the points of a
  grid, that a ratio lies between;
* `Binary64.exists_neighbour` — a grid of seventeen digits is fine enough;
* `Binary64.ofDecimal_shortest` — the shortest decimal reads back.
-/

variable {mantissa num den : Nat} {exponent : Int}

/-! ### Ratios -/

/-- The ratio of a positive number has a positive numerator and denominator. -/
theorem ratio_pos (h : 0 < mantissa) (exponent : Int) :
    0 < (ratio mantissa exponent).1 ∧ 0 < (ratio mantissa exponent).2 := by
  unfold ratio
  split
  · exact ⟨Nat.mul_pos h (Nat.two_pow_pos _), Nat.one_pos⟩
  · exact ⟨h, Nat.two_pow_pos _⟩

/-- The ratio is the value of the number. -/
theorem ratio_eq_value (mantissa : Nat) (exponent : Int) :
    ((ratio mantissa exponent).1 : ℚ) / (ratio mantissa exponent).2 = value mantissa exponent := by
  unfold ratio value
  split
  · rename_i h
    rw [zpow_of_nonneg 2 h, Nat.pow_eq]
    push_cast
    rw [div_one]
  · rename_i h
    rw [zpow_of_neg 2 (by omega), Nat.pow_eq]
    push_cast
    rw [div_eq_mul_inv]

/-! ### Decimal points -/

/-- The shift that is found is the least one that is enough. -/
theorem shiftToOne_spec {fuel j last : Nat} (hlast : j + fuel = last)
    (h : den ≤ num * 10 ^ last) :
    den ≤ num * 10 ^ shiftToOne num den fuel j ∧
      ∀ i, j ≤ i → i < shiftToOne num den fuel j → num * 10 ^ i < den := by
  induction fuel generalizing j with
  | zero =>
    obtain rfl : j = last := hlast
    exact ⟨h, fun i hle hlt => absurd hlt (by simpa [shiftToOne] using hle)⟩
  | succ fuel ih =>
    unfold shiftToOne
    split
    · rename_i hfound
      exact ⟨hfound, fun i hle hlt => absurd hlt (by omega)⟩
    · rename_i hnot
      -- the shift tried here is too small, and so are all below the one that is found
      obtain ⟨hfound, hleast⟩ := @ih (j + 1) (by omega)
      refine ⟨hfound, fun i hle hlt => ?_⟩
      rcases Nat.eq_or_lt_of_le hle with rfl | hmore
      · exact not_le.mp hnot
      · exact hleast i hmore hlt

/-- **Decimal points.**  A ratio lies between the powers of ten that its decimal point says. -/
theorem decimalPoint_bounds (hden : 0 < den) (hleast : den ≤ num * 10 ^ 400) :
    (10 : ℚ) ^ (decimalPoint num den - 1) ≤ num / den ∧
      (num : ℚ) / den < 10 ^ decimalPoint num den := by
  have hpos : (0 : ℚ) < den := by exact_mod_cast hden
  unfold decimalPoint
  split
  · rename_i hle
    obtain ⟨hmin, hmax⟩ := digits_bounds (Nat.div_pos hle hden)
    have hfloor : ((num / den : Nat) : ℚ) ≤ num / den := Nat.cast_div_le
    refine ⟨hmin.trans hfloor, ?_⟩
    -- the next whole number is still at most the power of ten
    have hnext : num / den + 1 ≤ 10 ^ (Nat.toDigits 10 (num / den)).length := by
      rw [zpow_natCast] at hmax
      exact_mod_cast hmax
    have hlt : num < den * 10 ^ (Nat.toDigits 10 (num / den)).length :=
      (Nat.lt_mul_div_succ num hden).trans_le (Nat.mul_le_mul_left den hnext)
    rw [div_lt_iff₀ hpos, zpow_natCast, mul_comm]
    exact_mod_cast hlt
  · rename_i hnot
    obtain ⟨hfound, hless⟩ := shiftToOne_spec (Nat.zero_add 400) hleast
    have hpositive : 0 < shiftToOne num den 400 0 := by
      rcases Nat.eq_zero_or_pos (shiftToOne num den 400 0) with hzero | h
      · rw [hzero, Nat.pow_zero, Nat.mul_one] at hfound
        exact absurd hfound hnot
      · exact h
    generalize shiftToOne num den 400 0 = shift at hfound hless hpositive
    constructor
    · rw [show 1 - (shift : Int) - 1 = -shift by ring, zpow_neg, zpow_natCast,
        inv_le_iff_one_le_mul₀ (by positivity), div_mul_eq_mul_div, one_le_div hpos]
      exact_mod_cast hfound
    · have hlast := hless (shift - 1) (Nat.zero_le _) (by omega)
      rw [show 1 - (shift : Int) = -(shift - 1 : Nat) by omega, zpow_neg, zpow_natCast,
        div_lt_iff₀ hpos, ← div_eq_inv_mul, lt_div_iff₀ (by positivity)]
      exact_mod_cast hlast

/-! ### Grids -/

/-- **Grids.**  A ratio lies between a point of a decimal grid and the next one. -/
theorem onGrid_bounds (hden : 0 < den) (unit : Int) :
    ((onGrid num den unit).1 : ℚ) * 10 ^ unit ≤ num / den ∧
      (num : ℚ) / den < ((onGrid num den unit).1 + 1) * 10 ^ unit := by
  have hpos : (0 : ℚ) < den := by exact_mod_cast hden
  have hpow : (0 : ℚ) < 10 ^ unit := by positivity
  -- the quotient is taken of the ratio in units of the grid
  have hfloor {n d : Nat} (hd : 0 < d) (hratio : (n : ℚ) / d = num / den / 10 ^ unit) :
      ((n / d : Nat) : ℚ) * 10 ^ unit ≤ num / den ∧
        (num : ℚ) / den < ((n / d : Nat) + 1) * 10 ^ unit := by
    rw [← le_div_iff₀ hpow, ← div_lt_iff₀ hpow, ← hratio]
    refine ⟨Nat.cast_div_le, ?_⟩
    rw [div_lt_iff₀ (by exact_mod_cast hd), mul_comm]
    exact_mod_cast Nat.lt_mul_div_succ n hd
  unfold onGrid
  split
  · rename_i h
    refine hfloor (Nat.mul_pos hden (Nat.pow_pos (by decide))) ?_
    rw [zpow_of_nonneg 10 h, div_div, Nat.pow_eq]
    push_cast
    rfl
  · rename_i h
    refine hfloor hden ?_
    rw [zpow_of_neg 10 (by omega), div_inv_eq_mul, div_mul_eq_mul_div, Nat.pow_eq]
    push_cast
    rfl

/-- A neighbour that is found reads back. -/
theorem ofDecimal_of_neighbour {unit : Int} {digits : Nat}
    (h : neighbour? mantissa exponent unit = some digits) :
    ofDecimal false digits unit = .finite false mantissa exponent := by
  unfold neighbour? at h
  dsimp only at h
  split at h
  · rename_i hfirst hsecond
    -- if both neighbours denote the number, either may be taken
    have hboth := And.intro (of_decide_eq_true hfirst) (of_decide_eq_true hsecond)
    split at h
    · exact Option.some.inj h ▸ hboth.1
    · split at h
      · exact Option.some.inj h ▸ hboth.2
      · split at h
        · exact Option.some.inj h ▸ hboth.1
        · exact Option.some.inj h ▸ hboth.2
  · rename_i hfirst _
    exact Option.some.inj h ▸ of_decide_eq_true hfirst
  · rename_i _ hsecond
    exact Option.some.inj h ▸ of_decide_eq_true hsecond
  · cases h

/-- A neighbour is found where one of the two reads back. -/
theorem exists_neighbour_of_ofDecimal {unit : Int}
    (h : let q := (onGrid (ratio mantissa exponent).1 (ratio mantissa exponent).2 unit).1
      ofDecimal false q unit = .finite false mantissa exponent ∨
        ofDecimal false (q + 1) unit = .finite false mantissa exponent) :
    ∃ digits, neighbour? mantissa exponent unit = some digits := by
  unfold neighbour?
  dsimp only at h ⊢
  split
  · split
    · exact ⟨_, rfl⟩
    · split
      · exact ⟨_, rfl⟩
      · split <;> exact ⟨_, rfl⟩
  · exact ⟨_, rfl⟩
  · exact ⟨_, rfl⟩
  · rename_i hfirst hsecond
    rcases h with h | h
    · exact absurd h (of_decide_eq_false hfirst)
    · exact absurd h (of_decide_eq_false hsecond)

/-! ### Seventeen digits -/

/-- What is at most half a step of a grid of seventeen digits away from a number is near to it. -/
theorem near_of_seventeen {k : Int} {y : ℚ} (hcanonical : Canonical mantissa exponent)
    (hlow : (10 : ℚ) ^ (k - 1) ≤ value mantissa exponent)
    (hbelow : value mantissa exponent - 10 ^ (k - 17) / 2 ≤ y)
    (habove : y ≤ value mantissa exponent + 10 ^ (k - 17) / 2) :
    Near mantissa exponent y := by
  have hpow : (0 : ℚ) < 2 ^ exponent := by positivity
  have hlt : (mantissa : ℚ) < 2 ^ 53 := by exact_mod_cast hcanonical.mantissa_lt
  have hstep : (10 : ℚ) ^ (k - 17) * 10 ^ 16 ≤ mantissa * 2 ^ exponent := by
    refine le_trans (le_of_eq ?_) hlow
    rw [show k - 1 = k - 17 + 16 by ring, zpow_add₀ (by norm_num)]
    norm_cast
  have hhalf : (10 : ℚ) ^ (k - 17) < 2 ^ exponent := by
    have hless : (mantissa : ℚ) * 2 ^ exponent < 2 ^ exponent * 10 ^ 16 := by
      rw [mul_comm]
      gcongr
      exact hlt.trans (by norm_num)
    exact lt_of_mul_lt_mul_right (hstep.trans_lt hless) (by norm_num)
  unfold value at hbelow habove
  refine ⟨by linarith, by linarith, fun hboundary _ => ?_⟩
  -- the steps below a power of two are half as long, but the power is less than the other mantissas
  have hmantissa : (mantissa : ℚ) = 2 ^ 52 := by exact_mod_cast hboundary
  rw [hmantissa] at hstep hbelow
  have hquarter : (10 : ℚ) ^ (k - 17) < 2 ^ exponent / 2 := by
    have hless : (2 : ℚ) ^ 52 * 2 ^ exponent < 2 ^ exponent / 2 * 10 ^ 16 := by
      rw [mul_comm, div_mul_eq_mul_div, mul_div_assoc]
      gcongr
      norm_num
    exact lt_of_mul_lt_mul_right (hstep.trans_lt hless) (by norm_num)
  linarith

/-- No number is so small that its decimal point would not be found. -/
theorem den_le_of_canonical (hcanonical : Canonical mantissa exponent) (hmantissa : 0 < mantissa) :
    (ratio mantissa exponent).2 ≤ (ratio mantissa exponent).1 * 10 ^ 400 := by
  unfold ratio
  split
  · have hnum : 0 < mantissa * Nat.pow 2 exponent.toNat :=
      Nat.mul_pos hmantissa (Nat.two_pow_pos _)
    exact Nat.le_trans hnum (Nat.le_mul_of_pos_right _ (by positivity))
  · have hleast := hcanonical.le_exponent
    calc Nat.pow 2 (-exponent).toNat ≤ 2 ^ 1074 := Nat.pow_le_pow_right (by decide) (by omega)
      _ ≤ 10 ^ 400 := by decide +kernel
      _ ≤ mantissa * 10 ^ 400 := Nat.le_mul_of_pos_left _ hmantissa

/-- **Seventeen digits** are enough: on their grid a number has a neighbour that reads back. -/
theorem exists_neighbour (hcanonical : Canonical mantissa exponent) (hmantissa : 0 < mantissa) :
    let (num, den) := ratio mantissa exponent
    ∃ digits, neighbour? mantissa exponent (decimalPoint num den - 17) = some digits := by
  obtain ⟨-, hden⟩ := ratio_pos hmantissa exponent
  obtain ⟨hlow, -⟩ := decimalPoint_bounds hden (den_le_of_canonical hcanonical hmantissa)
  dsimp only
  generalize decimalPoint (ratio mantissa exponent).1 (ratio mantissa exponent).2 = k at hlow ⊢
  obtain ⟨hfloor, hnext⟩ := @onGrid_bounds (ratio mantissa exponent).1 _ hden (k - 17)
  rw [ratio_eq_value] at hlow hfloor hnext
  refine exists_neighbour_of_ofDecimal ?_
  dsimp only
  generalize (onGrid (ratio mantissa exponent).1 (ratio mantissa exponent).2 (k - 17)).1 = q
    at hfloor hnext
  rw [add_mul, one_mul] at hnext
  have hstep : (0 : ℚ) < 10 ^ (k - 17) := by positivity
  -- the nearer one of the two is at most half a step away
  rcases le_total (value mantissa exponent) (q * 10 ^ (k - 17) + 10 ^ (k - 17) / 2) with hle | hge
  · refine .inl (ofDecimal_of_near false hcanonical hmantissa ?_)
    exact near_of_seventeen hcanonical hlow (by linarith) (by linarith)
  · refine .inr (ofDecimal_of_near false hcanonical hmantissa ?_)
    refine near_of_seventeen hcanonical hlow ?_ ?_
    all_goals
      push_cast
      linarith

/-! ### The search -/

/-- Whatever number of places the search ends with, its digits denote the number. -/
theorem ofDecimal_shortestFrom {point : Int} {digits : Nat}
    (hfound : neighbour? mantissa exponent (point - 17) = some digits) (fuel places : Nat)
    (hplaces : places ≤ 17) (hfuel : 17 < places + fuel) :
    let (digits, unit) := shortestFrom mantissa exponent point fuel places
    ofDecimal false digits unit = .finite false mantissa exponent := by
  induction fuel generalizing places with
  | zero => omega
  | succ fuel ih =>
    unfold shortestFrom
    cases hneighbour : neighbour? mantissa exponent (point - places) with
    | some digits => exact ofDecimal_of_neighbour hneighbour
    | none =>
      -- the search ends at seventeen digits at the latest
      have hne : places ≠ 17 := fun heq => by
        subst heq
        rw [show point - (17 : Nat) = point - 17 from rfl, hfound] at hneighbour
        cases hneighbour
      exact ih (places + 1) (by omega) (by omega)

/-- Zeros at the end of the digits can be taken off. -/
theorem ofDecimal_trimZeros (negative : Bool) (unit : Int) (fuel digits : Nat) :
    ofDecimal negative (trimZeros unit fuel digits).1 (trimZeros unit fuel digits).2 =
      ofDecimal negative digits unit := by
  induction fuel generalizing unit digits with
  | zero => rfl
  | succ fuel ih =>
    unfold trimZeros
    split
    · rename_i h
      rw [ih, ← ofDecimal_ten_mul, Nat.mul_div_cancel' (Nat.dvd_of_mod_eq_zero h.2)]
    · rfl

/-- The sign has no part in the rounding. -/
theorem ofRatio_of_false {m : Nat} {e : Int} (h : ofRatio false num den = .finite false m e)
    (negative : Bool) : ofRatio negative num den = .finite negative m e := by
  have hfinite {q : Nat} {k : Int}
      (h : (if 971 < k then infinite false else finite false q k) = finite false m e) :
      (if 971 < k then infinite negative else finite negative q k) = finite negative m e := by
    split at h
    · cases h
    · rename_i hrange
      rw [if_neg hrange]
      cases h
      rfl
  unfold ofRatio at h ⊢
  split at h
  · rename_i hnum
    rw [if_pos hnum]
    cases h
    rfl
  · rename_i hnum
    rw [if_neg hnum]
    dsimp only at h ⊢
    by_cases hcarry : roundScaled num den (exponentOf num den) = Nat.pow 2 53
    · rw [if_pos hcarry] at h ⊢
      exact hfinite h
    · rw [if_neg hcarry] at h ⊢
      exact hfinite h

/-- The sign of a decimal is that of the number that it is rounded to. -/
theorem ofDecimal_of_false {digits : Nat} {unit : Int} {m : Nat} {e : Int}
    (h : ofDecimal false digits unit = .finite false m e) (negative : Bool) :
    ofDecimal negative digits unit = .finite negative m e := by
  unfold ofDecimal at h ⊢
  split at h
  · rename_i hzero
    rw [if_pos hzero]
    cases h
    rfl
  rename_i hzero
  rw [if_neg hzero]
  dsimp only at h ⊢
  split at h
  · cases h
  rename_i hlarge
  rw [if_neg hlarge]
  split at h
  · rename_i hsmall
    rw [if_pos hsmall]
    cases h
    rfl
  rename_i hsmall
  rw [if_neg hsmall]
  split at h
  · rename_i hwhole
    rw [if_pos hwhole]
    exact ofRatio_of_false h negative
  · rename_i hwhole
    rw [if_neg hwhole]
    exact ofRatio_of_false h negative

/-- **Shortest decimals.**  The shortest decimal of a number reads back as the number. -/
theorem ofDecimal_shortest (negative : Bool) (hcanonical : Canonical mantissa exponent)
    (hmantissa : 0 < mantissa) :
    ofDecimal negative (shortest mantissa exponent).1 (shortest mantissa exponent).2 =
      .finite negative mantissa exponent := by
  obtain ⟨digits, hfound⟩ := exists_neighbour hcanonical hmantissa
  refine ofDecimal_of_false ?_ negative
  unfold shortest
  rw [if_neg hmantissa.ne']
  dsimp only
  rw [ofDecimal_trimZeros]
  exact ofDecimal_shortestFrom hfound 17 1 (by decide) (by decide)

/-- The digits of a shortest decimal are those of a positive number. -/
theorem shortest_pos (hcanonical : Canonical mantissa exponent) (hmantissa : 0 < mantissa) :
    0 < (shortest mantissa exponent).1 := by
  rcases Nat.eq_zero_or_pos (shortest mantissa exponent).1 with hzero | hpos
  · have h := ofDecimal_shortest false hcanonical hmantissa
    rw [hzero] at h
    cases h
    cases hmantissa
  · exact hpos

end ElfInspect.Binary64
