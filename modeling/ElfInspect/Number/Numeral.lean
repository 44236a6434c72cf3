import ElfInspect.Text.Quoted

namespace ElfInspect

/-!
# Decimal numerals

* `decimalDigit?`: the value of a decimal digit of any script;
* `readNumeral`: the number that decimal digits stand for;
* `NumeralFault`: why there is none.

Numerals are limited in length, whether they are read or written.
-/

/-- The most digits that a numeral may have. -/
def maxDigits : Nat := 4300

/-- Why a number cannot be read or written in decimal digits. -/
inductive NumeralFault
  /-- There are no digits to read. -/
  | noDigits
  /-- There are too many digits to read. -/
  | tooLong (digits : Nat)
  /-- The number has too many digits to be written. -/
  | tooLarge
  deriving Repr, DecidableEq

/-- The wording of a fault. -/
def NumeralFault.message : NumeralFault → String
  | noDigits => "invalid literal for int() with base 10: " ++ quoteText ""
  | tooLong digits => limit ++ s!": value has {digits} digits" ++ advice
  | tooLarge => limit ++ advice
where
  /-- What is exceeded. -/
  limit : String := s!"Exceeds the limit ({maxDigits} digits) for integer string conversion"
  /-- How the limit can be changed. -/
  advice : String := "; use sys.set_int_max_str_digits() to increase the limit"

/-- The zeros of all scripts.  Behind each follow the other nine digits. -/
def zeroDigits : List Nat :=
  [0x30, 0x660, 0x6F0, 0x7C0, 0x966, 0x9E6, 0xA66, 0xAE6, 0xB66, 0xBE6, 0xC66, 0xCE6, 0xD66,
   0xDE6, 0xE50, 0xED0, 0xF20, 0x1040, 0x1090, 0x17E0, 0x1810, 0x1946, 0x19D0, 0x1A80, 0x1A90,
   0x1B50, 0x1BB0, 0x1C40, 0x1C50, 0xA620, 0xA8D0, 0xA900, 0xA9D0, 0xA9F0, 0xAA50, 0xABF0, 0xFF10,
   0x104A0, 0x10D30, 0x11066, 0x110F0, 0x11136, 0x111D0, 0x112F0, 0x11450, 0x114D0, 0x11650,
   0x116C0, 0x11730, 0x118E0, 0x11950, 0x11C50, 0x11D50, 0x11DA0, 0x16A60, 0x16AC0, 0x16B50,
   0x1D7CE, 0x1D7D8, 0x1D7E2, 0x1D7EC, 0x1D7F6, 0x1E140, 0x1E2F0, 0x1E950, 0x1FBF0]

/-- The value of a decimal digit of any script. -/
def decimalDigit? (c : Char) : Option Nat :=
  (zeroDigits.find? fun start => start ≤ c.toNat && c.toNat < start + 10).map (c.toNat - ·)

/-- The number that decimal digits stand for. -/
def readNumeral (digits : List Char) : Except NumeralFault Nat :=
  if digits.isEmpty then .error .noDigits
  else if maxDigits < digits.length then .error (.tooLong digits.length)
  else .ok (digits.foldl (fun n c => n * 10 + (decimalDigit? c).getD 0) 0)

/-- Whether a number is too large to be written. -/
def isTooLarge (n : Nat) : Bool :=
  Nat.pow 10 maxDigits ≤ n

@[simp]
theorem readNumeral_nil : readNumeral [] = .error .noDigits := rfl

end ElfInspect
