namespace ElfInspect

/-!
# Hexadecimal text

Numbers are written with lower-case hexadecimal digits.  Three forms occur:

* `hexPadded`: `0x` and at least a given number of digits, used for addresses and offsets;
* `hexMarked`: `0x` before the signed digits (`0x-1`), used for codes without a name;
* `hexSigned`: the sign before `0x` (`-0x1`), used for stream offsets in messages.

`hexOfBytes` writes two digits per byte.
-/

/-- The hexadecimal digits of a number, most significant first, without leading zeros. -/
def hexDigits (n : Nat) : List Char :=
  Nat.toDigits 16 n

/-- The digits of `n`, filled up with zeros on the left to at least `width` digits. -/
def paddedDigits (width n : Nat) : List Char :=
  (hexDigits n).leftpad width '0'

/-- `0x` followed by at least `width` digits. -/
def hexPadded (width n : Nat) : String :=
  "0x" ++ String.ofList (paddedDigits width n)

/-- `0x` followed by the signed digits, so that minus one is `0x-1`. -/
def hexMarked : Int → String
  | .ofNat n => "0x" ++ String.ofList (hexDigits n)
  | .negSucc n => "0x-" ++ String.ofList (hexDigits (n + 1))

/-- The sign, `0x` and the digits, so that minus one is `-0x1`. -/
def hexSigned : Int → String
  | .ofNat n => "0x" ++ String.ofList (hexDigits n)
  | .negSucc n => "-0x" ++ String.ofList (hexDigits (n + 1))

/-- Two digits per byte. -/
def hexOfBytes (bytes : List UInt8) : String :=
  String.ofList (bytes.flatMap fun b => paddedDigits 2 b.toNat)

/-- The value of one hexadecimal digit in either case. -/
def hexDigitValue? (c : Char) : Option Nat :=
  if '0' ≤ c ∧ c ≤ '9' then some (c.toNat - '0'.toNat)
  else if 'a' ≤ c ∧ c ≤ 'f' then some (c.toNat - 'a'.toNat + 10)
  else if 'A' ≤ c ∧ c ≤ 'F' then some (c.toNat - 'A'.toNat + 10)
  else none

/-- Numbers with more digits than the width are not cut. -/
@[simp]
theorem length_paddedDigits (width n : Nat) :
    (paddedDigits width n).length = max width (hexDigits n).length := by
  simp [paddedDigits, List.leftpad]
  omega

end ElfInspect
