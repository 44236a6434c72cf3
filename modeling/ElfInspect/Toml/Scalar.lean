import ElfInspect.Toml.Error
import ElfInspect.Value

namespace ElfInspect.Toml

/-!
# Numbers, dates and times

A `Piece` reads something from the front of a text, or does not apply.
-/

/-- Reads something from the front of a text, if it is there. -/
abbrev Piece := StateT (List Char) Option

namespace Piece

/-- One character that satisfies a condition. -/
def char (condition : Char → Bool) : Piece Char := fun chars =>
  match chars with
  | c :: rest => if condition c then some (c, rest) else none
  | [] => none

/-- A piece that may be missing. -/
def optional {α : Type} (piece : Piece α) : Piece (Option α) := fun chars =>
  match piece chars with
  | some (a, rest) => some (some a, rest)
  | none => some (none, chars)

/-- The value of a digit of a base up to sixteen. -/
def digitIn (base : Nat) (c : Char) : Bool :=
  match hexDigitValue? c with
  | some value => value < base
  | none => false

/-- The value of a run of digits. -/
def valueIn (base : Nat) (digits : List Char) : Nat :=
  digits.foldl (fun value c => value * base + (hexDigitValue? c).getD 0) 0

/-- A number of exactly so many decimal digits, within bounds. -/
def fixed (count low high : Nat) : Piece Nat := fun chars =>
  let digits := chars.take count
  let value := valueIn 10 digits
  if digits.length = count ∧ digits.all Char.isDigit ∧ low ≤ value ∧ value ≤ high then
    some (value, chars.drop count)
  else none

/-! ### Dates and times -/

/-- The fraction of a second in microseconds; further digits are dropped. -/
def fraction : Piece Nat := fun chars =>
  match chars with
  | '.' :: rest =>
    let digits := rest.takeWhile Char.isDigit
    -- A point without digits is left where it stands.
    if digits.isEmpty then none
    else some (valueIn 10 ((digits.take 6).rightpad 6 '0'), rest.dropWhile Char.isDigit)
  | _ => none

/-- A time of day. -/
def time : Piece TimeOfDay := do
  let hour ← fixed 2 0 23
  let _ ← char (· = ':')
  let minute ← fixed 2 0 59
  let _ ← char (· = ':')
  let second ← fixed 2 0 59
  let microsecond ← optional fraction
  return { hour, minute, second, microsecond := microsecond.getD 0 }

/-- The distance from universal time in minutes. -/
def offset : Piece Int := do
  let sign ← char fun c => c = 'Z' || c = 'z' || c = '+' || c = '-'
  if sign = 'Z' ∨ sign = 'z' then return 0
  else
    let hours ← fixed 2 0 23
    let _ ← char (· = ':')
    let minutes ← fixed 2 0 59
    let total : Int := hours * 60 + minutes
    return if sign = '-' then -total else total

/-- A date whose day is at most the thirty-first. -/
def date : Piece Date := do
  let year ← fixed 4 0 9999
  let _ ← char (· = '-')
  let month ← fixed 2 1 12
  let _ ← char (· = '-')
  let day ← fixed 2 1 31
  return { year, month, day }

/-- A date, with a time if one follows. -/
def dated : Piece Moment := do
  let d ← date
  let t ← optional do
    -- A date is complete without this, so that a blank behind it need not belong to it.
    let _ ← char fun c => c = 'T' || c = 't' || c = ' '
    let t ← time
    let zone ← optional offset
    return (t, zone)
  match t with
  | none => return .date d
  | some (t, zone) => return .dateTime d t zone

/-! ### Numbers -/

/-- The digits after the first, which may have single underscores between them. -/
def moreDigits (base : Nat) : List Char → List Char × List Char
  | '_' :: c :: rest =>
    if digitIn base c then
      let (digits, rest) := moreDigits base rest
      (c :: digits, rest)
    else ([], '_' :: c :: rest)
  | c :: rest =>
    if digitIn base c then
      let (digits, rest) := moreDigits base rest
      (c :: digits, rest)
    else ([], c :: rest)
  | [] => ([], [])

/-- A run of at least one digit. -/
def digitRun (base : Nat) : Piece (List Char) := do
  let first ← char (digitIn base)
  fun chars =>
    let (digits, rest) := moreDigits base chars
    some (first :: digits, rest)

/-- A whole number with the mark of its base. -/
def marked : Piece Value := do
  let _ ← char (· = '0')
  let mark ← char fun c => c = 'x' || c = 'o' || c = 'b'
  let base := if mark = 'x' then 16 else if mark = 'o' then 8 else 2
  let digits ← digitRun base
  return .integer (valueIn base digits)

/-- A sign that may be missing; whether it is a minus. -/
def sign : Piece Bool := do
  let c ← optional (char fun c => c = '+' || c = '-')
  return c = some '-'

/-- The digits of a whole number, which start with a zero only if that is all. -/
def whole : Piece (List Char) := fun chars =>
  match chars with
  | '0' :: rest => some (['0'], rest)
  | _ => digitRun 10 chars

/-- The digits after the point. -/
def places : Piece (List Char) := do
  let _ ← char (· = '.')
  digitRun 10

/-- The exponent with its mark. -/
def exponent : Piece Int := do
  let _ ← char fun c => c = 'e' || c = 'E'
  let negative ← sign
  let digits ← digitRun 10
  let n : Int := valueIn 10 digits
  return if negative then -n else n

/-- A decimal number: a real one if it has a point or an exponent.  The digits are given with the
    value. -/
def decimal : Piece (List Char × Value) := do
  let negative ← sign
  let digits ← whole
  let places ← optional places
  let exponent ← optional exponent
  if places.isNone ∧ exponent.isNone then
    let n : Int := valueIn 10 digits
    return (digits, .integer (if negative then -n else n))
  else
    let places := places.getD []
    let value := valueIn 10 (digits ++ places)
    return ([], .real (.ofDecimal negative value (exponent.getD 0 - places.length)))

/-- The special numbers, which are written by name. -/
def special : Piece Value := do
  let negative ← sign
  fun chars =>
    if ['i', 'n', 'f'].isPrefixOf chars then
      some (.real (.infinite negative), chars.drop 3)
    else if ['n', 'a', 'n'].isPrefixOf chars then some (.real .nan, chars.drop 3)
    else none

end Piece

/-! ### The calendar -/

/-- The number of days of a month. -/
def daysIn (year month : Nat) : Nat :=
  if month = 2 then
    if year % 4 = 0 ∧ (year % 100 ≠ 0 ∨ year % 400 = 0) then 29 else 28
  else if month = 4 ∨ month = 6 ∨ month = 9 ∨ month = 11 then 30
  else 31

/-- Whether a date is in the calendar, which starts with the year one. -/
def inCalendar (d : Date) : Bool :=
  1 ≤ d.year && d.day ≤ daysIn d.year d.month

/-- Whether the date of a moment, if it has one, is in the calendar. -/
def momentInCalendar : Moment → Bool
  | .date d => inCalendar d
  | .time _ => true
  | .dateTime d _ _ => inCalendar d

/-- A scalar that is neither a string nor a truth value, with the text that follows it. -/
def scalar (chars : List Char) : Except Cause (Value × List Char) :=
  -- The order matters: dates and times begin like numbers.
  match Piece.dated chars with
  | some (m, rest) => if momentInCalendar m then .ok (.moment m, rest) else .error .invalidMoment
  | none =>
    match Piece.time chars with
    | some (t, rest) => .ok (.moment (.time t), rest)
    | none =>
      match Piece.marked chars with
      | some (v, rest) => .ok (v, rest)
      | none =>
        match Piece.decimal chars with
        | some ((digits, v), rest) =>
          -- Real numbers and marked ones may be of any length.
          if maxDigits < digits.length then .error (.integerTooLong digits.length)
          else .ok (v, rest)
        | none =>
          match Piece.special chars with
          | some (v, rest) => .ok (v, rest)
          | none => .error .invalidValue

end ElfInspect.Toml
