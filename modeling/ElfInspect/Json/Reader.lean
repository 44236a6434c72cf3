import ElfInspect.Value

namespace ElfInspect.Json

/-!
# Reading JSON

`read` is the value of a JSON text, or nothing if the text is malformed.  Whole numbers become
integers of any size, numbers with a fraction or an exponent become reals, and tables keep their
entries in order.  A string may not hold half of a surrogate pair.
-/

/-- Blanks between tokens. -/
def isBlank (c : Char) : Bool :=
  c = ' ' || c = '\t' || c = '\n' || c = '\r'

/-- The rest of a text after its leading blanks. -/
def skipBlanks (chars : List Char) : List Char :=
  chars.dropWhile isBlank

/-! ### Strings -/

/-- The number of four hexadecimal digits. -/
def unitOf? (a b c d : Char) : Option Nat := do
  let a ← hexDigitValue? a
  let b ← hexDigitValue? b
  let c ← hexDigitValue? c
  let d ← hexDigitValue? d
  return ((a * 16 + b) * 16 + c) * 16 + d

/-- The character of a one-letter escape. -/
def escaped? : Char → Option Char
  | '"' => some '"'
  | '\\' => some '\\'
  | '/' => some '/'
  | 'b' => some '\x08'
  | 'f' => some '\x0c'
  | 'n' => some '\n'
  | 'r' => some '\r'
  | 't' => some '\t'
  | _ => none

/-- Reads a string from after its opening quote.  `done` holds the characters so far, newest
    first. -/
def stringTail (done : List Char) : List Char → Option (String × List Char)
  | [] => none
  | '"' :: rest => some (String.ofList done.reverse, rest)
  | '\\' :: 'u' :: a :: b :: c :: d :: rest =>
    match unitOf? a b c d with
    | none => none
    | some high =>
      -- The first half of a pair; the second one must follow at once.
      if 0xD800 ≤ high ∧ high < 0xDC00 then
        match rest with
        | '\\' :: 'u' :: e :: f :: g :: h :: rest' =>
          match unitOf? e f g h with
          | none => none
          | some low =>
            if 0xDC00 ≤ low ∧ low < 0xE000 then
              let n := 0x10000 + (high - 0xD800) * 0x400 + (low - 0xDC00)
              stringTail (Char.ofNat n :: done) rest'
            else none
        | _ => none
      else if 0xDC00 ≤ high ∧ high < 0xE000 then none
      else stringTail (Char.ofNat high :: done) rest
  | '\\' :: c :: rest =>
    match escaped? c with
    | none => none
    | some c => stringTail (c :: done) rest
  | c :: rest => if c.toNat < 0x20 then none else stringTail (c :: done) rest

/-! ### Numbers -/

/-- The value of a run of decimal digits. -/
def digitsValue (digits : List Char) : Nat :=
  Nat.ofDigitChars 10 digits 0

/-- Splits off the leading digits. -/
def spanDigits (chars : List Char) : List Char × List Char :=
  (chars.takeWhile Char.isDigit, chars.dropWhile Char.isDigit)

/-- The fraction digits after a point, if a digit follows the point. -/
def fraction (chars : List Char) : List Char × List Char :=
  match chars with
  | '.' :: rest =>
    match spanDigits rest with
    -- A point without a digit behind it does not belong to the number.
    | ([], _) => ([], chars)
    | (digits, rest) => (digits, rest)
  | _ => ([], chars)

/-- The exponent after its mark, if a digit follows. -/
def exponent? (chars : List Char) : Option Int × List Char :=
  match chars with
  | mark :: rest =>
    if mark = 'e' ∨ mark = 'E' then
      let (negative, digits) := match rest with
        | '-' :: r => (true, r)
        | '+' :: r => (false, r)
        | r => (false, r)
      match spanDigits digits with
      | ([], _) => (none, chars)
      | (ds, rest) =>
        let n : Int := digitsValue ds
        (some (if negative then -n else n), rest)
    else (none, chars)
  | [] => (none, [])

/-- Reads a number without its sign. -/
def unsigned? (negative : Bool) (chars : List Char) : Option (Value × List Char) :=
  match spanDigits chars with
  | ([], _) => none
  | (whole, rest) =>
    -- Zeros may not lead a number.
    if whole.head? = some '0' ∧ 1 < whole.length then none
    else
      let (places, rest) := fraction rest
      let (exponent, rest) := exponent? rest
      if places.isEmpty ∧ exponent.isNone then
        let n : Int := digitsValue whole
        some (.integer (if negative then -n else n), rest)
      else
        let e : Int := exponent.getD 0 - places.length
        some (.real (.ofDecimal negative (digitsValue (whole ++ places)) e), rest)

/-- Removes a word from the front of a text. -/
def word? (word : String) (chars : List Char) : Option (List Char) :=
  if word.toList.isPrefixOf chars then some (chars.drop word.length) else none

/-- Reads a number or one of the named values. -/
def scalar? (chars : List Char) : Option (Value × List Char) :=
  match chars with
  | '-' :: rest =>
    -- Of the named values only this one takes a sign.
    match word? "Infinity" rest with
    | some rest => some (.real (.infinite true), rest)
    | none => unsigned? true rest
  | _ =>
    match word? "null" chars, word? "true" chars, word? "false" chars,
        word? "NaN" chars, word? "Infinity" chars with
    | some rest, _, _, _, _ => some (.null, rest)
    | _, some rest, _, _, _ => some (.boolean true, rest)
    | _, _, some rest, _, _ => some (.boolean false, rest)
    | _, _, _, some rest, _ => some (.real .nan, rest)
    | _, _, _, _, some rest => some (.real (.infinite false), rest)
    | _, _, _, _, _ => unsigned? false chars

/-! ### Values -/

mutual

/-- Reads one value after its leading blanks.  Every nested call uses up fuel, of which the length
    of the text is always enough. -/
def value? : (fuel : Nat) → List Char → Option (Value × List Char)
  | 0, _ => none
  | fuel + 1, chars =>
    match skipBlanks chars with
    | '"' :: rest => (stringTail [] rest).map fun (s, rest) => (.text s, rest)
    | '[' :: rest =>
      match skipBlanks rest with
      | ']' :: rest => some (.list [], rest)
      | _ => (items? fuel [] rest).map fun (items, rest) => (.list items, rest)
    | '\x7b' :: rest =>
      match skipBlanks rest with
      | '\x7d' :: rest => some (.table [], rest)
      | _ => (entries? fuel [] rest).map fun (entries, rest) => (.table entries, rest)
    | chars => scalar? chars

/-- Reads the items of a list up to its closing bracket.  `done` holds the items so far, newest
    first. -/
def items? : (fuel : Nat) → List Value → List Char → Option (List Value × List Char)
  | 0, _, _ => none
  | fuel + 1, done, chars =>
    match value? fuel chars with
    | none => none
    | some (v, rest) =>
      match skipBlanks rest with
      | ',' :: rest => items? fuel (v :: done) rest
      | ']' :: rest => some ((v :: done).reverse, rest)
      | _ => none

/-- Reads the entries of a table up to its closing brace. -/
def entries? : (fuel : Nat) → List (String × Value) → List Char →
    Option (List (String × Value) × List Char)
  | 0, _, _ => none
  | fuel + 1, done, chars =>
    match skipBlanks chars with
    | '"' :: rest =>
      match stringTail [] rest with
      | none => none
      | some (key, rest) =>
        match skipBlanks rest with
        | ':' :: rest =>
          match value? fuel rest with
          | none => none
          | some (v, rest) =>
            match skipBlanks rest with
            | ',' :: rest => entries? fuel ((key, v) :: done) rest
            | '\x7d' :: rest => some (((key, v) :: done).reverse, rest)
            | _ => none
        | _ => none
    | _ => none

end

/-- The value of a JSON text. -/
def read (text : String) : Option Value :=
  let chars := text.toList
  match value? (2 * chars.length + 1) chars with
  | some (v, rest) => if (skipBlanks rest).isEmpty then some v else none
  | none => none

end ElfInspect.Json
