namespace ElfInspect

/-!
# Binary64 numbers

Real numbers in settings and log records are IEEE 754 double precision numbers.  They are kept as
sign, mantissa and exponent, and every conversion is computed exactly on natural numbers:

* `Binary64.ofDecimal`: the number nearest to a decimal, a tie going to the even mantissa;
* `Binary64.shortest`: the decimal with the fewest digits that reads back as the number, and of
  those the nearest to it;
* `Binary64.truncate`: the integer part.
-/

/-- A double precision number.  A finite one has the value `mantissa * 2 ^ exponent`, with `mantissa
    < 2 ^ 53`, `-1074 ≤ exponent ≤ 971`, and `2 ^ 52 ≤ mantissa` unless the exponent is the least
    one. -/
inductive Binary64
  | nan
  | infinite (negative : Bool)
  | finite (negative : Bool) (mantissa : Nat) (exponent : Int)
  deriving Repr, DecidableEq, Inhabited

/-- The quotient of two numbers rounded to the nearest integer, a tie going to the even one. -/
def roundHalfEven (num den : Nat) : Nat :=
  let q := num / den
  let r := num % den
  if 2 * r < den then q
  else if den < 2 * r then q + 1
  else if q % 2 = 0 then q else q + 1

/-- The quotient `num / (den * 2 ^ e)` rounded to the nearest integer. -/
def roundScaled (num den : Nat) (e : Int) : Nat :=
  if 0 ≤ e then roundHalfEven num (den * Nat.pow 2 e.toNat)
  else roundHalfEven (num * Nat.pow 2 (-e).toNat) den

namespace Binary64

/-- The signed zero. -/
def zero (negative : Bool) : Binary64 :=
  .finite negative 0 (-1074)

/-- The exponent at which `num / den` has a mantissa of 53 bits, but not below the least one. -/
def exponentOf (num den : Nat) : Int :=
  let e : Int := (num.log2 : Int) - den.log2 - 52
  let small : Bool :=
    if 0 ≤ 52 + e then num < den * Nat.pow 2 (52 + e).toNat
    else num * Nat.pow 2 (-(52 + e)).toNat < den
  -- The logarithms are off by at most one.
  max (if small then e - 1 else e) (-1074)

/-- The number nearest to `num / den`; above the largest finite number it is infinite. -/
def ofRatio (negative : Bool) (num den : Nat) : Binary64 :=
  if num = 0 then zero negative
  else
    let e := exponentOf num den
    let q := roundScaled num den e
    -- Rounding up may carry into a further bit.
    let (q, e) := if q = Nat.pow 2 53 then (Nat.pow 2 52, e + 1) else (q, e)
    if 971 < e then .infinite negative else .finite negative q e

/-- The number nearest to `digits * 10 ^ exponent`.  Decimals far outside the range are settled
    by their magnitude alone. -/
def ofDecimal (negative : Bool) (digits : Nat) (exponent : Int) : Binary64 :=
  if digits = 0 then zero negative
  else
    let magnitude : Int := exponent + (Nat.toDigits 10 digits).length
    -- The powers of ten below are only taken where they are of moderate size.
    if 310 < magnitude then .infinite negative
    else if magnitude < -330 then zero negative
    else if 0 ≤ exponent then ofRatio negative (digits * Nat.pow 10 exponent.toNat) 1
    else ofRatio negative digits (Nat.pow 10 (-exponent).toNat)

/-- Numerator and denominator of `mantissa * 2 ^ exponent`. -/
def ratio (mantissa : Nat) (exponent : Int) : Nat × Nat :=
  if 0 ≤ exponent then (mantissa * Nat.pow 2 exponent.toNat, 1)
  else (mantissa, Nat.pow 2 (-exponent).toNat)

/-! ### Decimal digits -/

/-- The least `j`, counted from `j` on, with `den ≤ num * 10 ^ j`. -/
def shiftToOne (num den : Nat) : (fuel j : Nat) → Nat
  | 0, j => j
  | fuel + 1, j => if den ≤ num * Nat.pow 10 j then j else shiftToOne num den fuel (j + 1)

/-- The position of the decimal point: the `k` with `10 ^ (k - 1) ≤ num / den < 10 ^ k`. -/
def decimalPoint (num den : Nat) : Int :=
  if den ≤ num then ((Nat.toDigits 10 (num / den)).length : Int)
  else 1 - (shiftToOne num den 400 0 : Int)

/-- The quotient and remainder of `num / den` on the grid of multiples of `10 ^ unit`, and the
    divisor that the remainder refers to. -/
def onGrid (num den : Nat) (unit : Int) : Nat × Nat × Nat :=
  if 0 ≤ unit then
    let d := den * Nat.pow 10 unit.toNat
    (num / d, num % d, d)
  else
    let n := num * Nat.pow 10 (-unit).toNat
    (n / den, n % den, den)

/-- The neighbour of the number on a decimal grid that reads back as it, the nearer one if both
    do, and the even one if they are equally near. -/
def neighbour? (mantissa : Nat) (exponent : Int) (unit : Int) : Option Nat :=
  let (num, den) := ratio mantissa exponent
  let (q, r, d) := onGrid num den unit
  let readsBack (digits : Nat) : Bool :=
    ofDecimal false digits unit = .finite false mantissa exponent
  match readsBack q, readsBack (q + 1) with
  | true, true =>
    -- Both neighbours read back, so that the nearer one is taken.
    if 2 * r < d then some q else if d < 2 * r then some (q + 1)
    else if q % 2 = 0 then some q else some (q + 1)
  | true, false => some q
  | false, true => some (q + 1)
  | false, false => none

/-- The first grid, from the coarsest of `places` digits on, with a neighbour that reads back. -/
def shortestFrom (mantissa : Nat) (exponent point : Int) : (fuel places : Nat) → Nat × Int
  | 0, places =>
    let (num, den) := ratio mantissa exponent
    ((onGrid num den (point - places)).1, point - places)
  | fuel + 1, places =>
    match neighbour? mantissa exponent (point - places) with
    | some digits => (digits, point - places)
    | none => shortestFrom mantissa exponent point fuel (places + 1)

/-- Removes trailing zeros from the digits of a decimal. -/
def trimZeros (exponent : Int) : (fuel digits : Nat) → Nat × Int
  | 0, digits => (digits, exponent)
  | fuel + 1, digits =>
    if digits ≠ 0 ∧ digits % 10 = 0 then trimZeros (exponent + 1) fuel (digits / 10)
    else (digits, exponent)

/-- The digits and the exponent of the shortest decimal that reads back as
    `mantissa * 2 ^ exponent`, without trailing zeros.  Seventeen digits always suffice. -/
def shortest (mantissa : Nat) (exponent : Int) : Nat × Int :=
  if mantissa = 0 then (0, 0)
  else
    let (num, den) := ratio mantissa exponent
    let (digits, unit) := shortestFrom mantissa exponent (decimalPoint num den) 17 1
    trimZeros unit 400 digits

/-! ### Signs and integers -/

/-- The integer part of a finite number. -/
def truncate : Binary64 → Option Int
  | .finite negative mantissa exponent =>
    let (num, den) := ratio mantissa exponent
    let whole : Int := (num / den : Nat)
    some (if negative then -whole else whole)
  | _ => none

/-- Whether the number is greater than zero. -/
def isPositive : Binary64 → Bool
  | .nan => false
  | .infinite negative => !negative
  | .finite negative mantissa _ => !negative && mantissa != 0

/-- Whether the number is a zero of either sign. -/
def isZero : Binary64 → Bool
  | .finite _ mantissa _ => mantissa == 0
  | _ => false

/-- Whether the number carries a minus sign. -/
def isNegative : Binary64 → Bool
  | .nan => false
  | .infinite negative => negative
  | .finite negative _ _ => negative

example : ofDecimal false 15 (-1) = .finite false (3 * Nat.pow 2 51) (-52) := by decide +kernel
example : ofDecimal false 1 400 = .infinite false := by decide +kernel
example : ofDecimal true 5 (-324) = .finite true 1 (-1074) := by decide +kernel

end Binary64

end ElfInspect
