import ElfInspect.Number.Binary64

namespace ElfInspect

/-!
# Decimal text of real numbers

* `Binary64.text`: the shortest decimal that reads back.  From `10 ^ -4` up to below `10 ^ 16` it
  is positional with at least one digit after the point, otherwise scientific with an exponent of
  at least two digits.
* `Binary64.fixedText`, `Binary64.scientificText`, `Binary64.generalText`: the number rounded to a
  given number of places, a tie going to the even digit.

The sign of zero is kept; the texts of the special numbers are `nan` and `inf`.
-/

/-- The decimal digits of a number as characters. -/
def decimalDigits (n : Nat) : List Char :=
  Nat.toDigits 10 n

/-- The text of an integer. -/
def intText (i : Int) : String :=
  toString i

/-- The exponent part: a mark, a sign and at least two digits. -/
def exponentText (mark : Char) (exponent : Int) : List Char :=
  mark :: (if exponent < 0 then '-' else '+') :: (decimalDigits exponent.natAbs).leftpad 2 '0'

/-- Digits with the decimal point at `point`, counted from the first digit. -/
def positional (digits : List Char) (point : Int) : List Char :=
  if point ≤ 0 then '0' :: '.' :: List.replicate (-point).toNat '0' ++ digits
  else
    let p := point.toNat
    if digits.length ≤ p then digits ++ List.replicate (p - digits.length) '0' ++ ['.', '0']
    else digits.take p ++ '.' :: digits.drop p

/-- Digits with the point after the first of them, and the exponent part. -/
def scientific (mark : Char) (digits : List Char) (exponent : Int) : List Char :=
  match digits with
  | [] => []
  | [d] => d :: exponentText mark exponent
  | d :: rest => d :: '.' :: rest ++ exponentText mark exponent

namespace Binary64

/-- The magnitude of a finite number in its shortest form. -/
def magnitudeText (mantissa : Nat) (exponent : Int) : List Char :=
  if mantissa = 0 then ['0', '.', '0']
  else
    let (digits, unit) := shortest mantissa exponent
    let chars := decimalDigits digits
    let point : Int := chars.length + unit
    if -4 < point ∧ point ≤ 16 then positional chars point
    else scientific 'e' chars (point - 1)

/-- The shortest text that reads back as the number. -/
def text : Binary64 → String
  | .nan => "nan"
  | .infinite negative => if negative then "-inf" else "inf"
  | .finite negative mantissa exponent =>
    let magnitude := magnitudeText mantissa exponent
    String.ofList (if negative then '-' :: magnitude else magnitude)

/-! ### A given number of places -/

/-- The multiple of `10 ^ unit` nearest to `mantissa * 2 ^ exponent`, as a count of units. -/
def roundToUnit (mantissa : Nat) (exponent unit : Int) : Nat :=
  let (num, den) := ratio mantissa exponent
  if 0 ≤ unit then roundHalfEven num (den * Nat.pow 10 unit.toNat)
  else roundHalfEven (num * Nat.pow 10 (-unit).toNat) den

/-- A number of digits after the first one, and of places after the point, that is enough to write
    every number exactly.  Whatever comes behind them is zero. -/
def enoughDigits : Nat := 1100

/-- The magnitude with exactly `places` digits after the point.  `point` asks for the point also
    when no digit follows it. -/
def fixedText (mantissa : Nat) (exponent : Int) (places : Nat) (point : Bool) : List Char :=
  let exact := min places enoughDigits
  -- At least one digit stands before the point.
  let digits := (decimalDigits (roundToUnit mantissa exponent (-exact))).leftpad (exact + 1) '0'
  let whole := digits.take (digits.length - exact)
  let fraction := digits.drop (digits.length - exact)
  if places = 0 then (if point then whole ++ ['.'] else whole)
  else whole ++ '.' :: fraction ++ List.replicate (places - exact) '0'

/-- The magnitude rounded to `places + 1` digits: its digits, and the exponent of the first. -/
def roundedDigits (mantissa : Nat) (exponent : Int) (places : Nat) : List Char × Int :=
  if mantissa = 0 then (List.replicate (places + 1) '0', 0)
  else
    let (num, den) := ratio mantissa exponent
    let lead := decimalPoint num den - 1
    let exact := min places enoughDigits
    let digits := decimalDigits (roundToUnit mantissa exponent (lead - exact))
    let zeros := List.replicate (places - exact) '0'
    -- Rounding up may carry into a further digit, which is then dropped from the end.
    if exact + 1 < digits.length then (digits.take (exact + 1) ++ zeros, lead + 1)
    else (digits ++ zeros, lead)

/-- The magnitude in scientific form with exactly `places` digits after the point. -/
def scientificText (mark : Char) (mantissa : Nat) (exponent : Int) (places : Nat)
    (point : Bool) : List Char :=
  match roundedDigits mantissa exponent places with
  | (digits, e) =>
    if places = 0 ∧ point then digits ++ '.' :: exponentText mark e else scientific mark digits e

/-- Removes trailing zeros, and the point if nothing is left behind it. -/
def trimFraction (chars : List Char) : List Char :=
  if '.' ∈ chars then
    let kept := (chars.reverse.dropWhile (· = '0'))
    (if kept.head? = some '.' then kept.drop 1 else kept).reverse
  else chars

/-- The magnitude with `precision` significant digits, in whichever form is the shorter to read:
    scientific when the exponent is below minus four or not below the precision.  `keep` keeps
    trailing zeros. -/
def generalText (mark : Char) (mantissa : Nat) (exponent : Int) (precision : Nat)
    (keep : Bool) : List Char :=
  let precision := if keep then max precision 1 else min (max precision 1) enoughDigits
  let (digits, e) := roundedDigits mantissa exponent (precision - 1)
  -- The exponent is that of the rounded number.
  if e < -4 ∨ (precision : Int) ≤ e then
    match digits with
    | [] => []
    | d :: rest =>
      let body := if keep then d :: '.' :: rest else trimFraction (d :: '.' :: rest)
      body ++ exponentText mark e
  else
    let places := ((precision : Int) - 1 - e).toNat
    let body := fixedText mantissa exponent places keep
    if keep then body else trimFraction body

end Binary64

end ElfInspect
