import ElfInspect.Number.Numeral
import ElfInspect.Number.RealText

namespace ElfInspect

/-!
# Dynamic values

Settings documents, reports, log records and the arguments of log messages all carry values whose
type is only known when they are read.  `Value` is their common type.  Tables keep their entries in
the order in which they were written.

Main definitions:

* `Value` and `Moment`, the values and the dates and times among them;
* `Value.literal`: the unambiguous text of a value, with texts quoted;
* `Value.display`: the same, but a text stands for itself;
* `Value.isTooLong`, `Value.nesting`: what may keep a value from being written;
* `Value.isTruthy`: whether a value counts as true.
-/

/-- A calendar date. -/
structure Date where
  year : Nat
  month : Nat
  day : Nat
  deriving Repr, DecidableEq, Inhabited

/-- A time of day. -/
structure TimeOfDay where
  hour : Nat
  minute : Nat
  second : Nat
  microsecond : Nat
  deriving Repr, DecidableEq, Inhabited

/-- A date, a time, or both, with an optional distance from universal time in minutes. -/
inductive Moment
  | date (d : Date)
  | time (t : TimeOfDay)
  | dateTime (d : Date) (t : TimeOfDay) (offset : Option Int)
  deriving Repr, DecidableEq, Inhabited

/-- A value whose type is known only when it is read. -/
inductive Value
  | null
  | boolean (b : Bool)
  | integer (i : Int)
  | real (r : Binary64)
  | text (s : String)
  | moment (m : Moment)
  | list (items : List Value)
  | table (entries : List (String × Value))
  deriving Repr, Inhabited

namespace Moment

/-- A number filled up with zeros to a width. -/
private def zeroFilled (width n : Nat) : String :=
  String.ofList ((decimalDigits n).leftpad width '0')

/-- The arguments of a time in its literal: seconds are left out when they and the microseconds
    are zero, microseconds when they are. -/
def timeArguments (t : TimeOfDay) : List String :=
  let base := [toString t.hour, toString t.minute]
  if t.microsecond ≠ 0 then base ++ [toString t.second, toString t.microsecond]
  else if t.second ≠ 0 then base ++ [toString t.second]
  else base

/-- The literal of a distance from universal time. -/
def offsetLiteral (minutes : Int) : String :=
  if minutes = 0 then "datetime.timezone.utc"
  else if 0 < minutes then
    s!"datetime.timezone(datetime.timedelta(seconds={minutes * 60}))"
  else
    s!"datetime.timezone(datetime.timedelta(days=-1, seconds={86400 + minutes * 60}))"

/-- The literal of a moment: its kind and its parts as arguments. -/
def literal : Moment → String
  | .date d => s!"datetime.date({d.year}, {d.month}, {d.day})"
  | .time t => "datetime.time(" ++ ", ".intercalate (timeArguments t) ++ ")"
  | .dateTime d t offset =>
    let zone := match offset with
      | none => []
      | some minutes => ["tzinfo=" ++ offsetLiteral minutes]
    let arguments := [toString d.year, toString d.month, toString d.day] ++ timeArguments t ++ zone
    "datetime.datetime(" ++ ", ".intercalate arguments ++ ")"

private def dateText (d : Date) : String :=
  zeroFilled 4 d.year ++ "-" ++ zeroFilled 2 d.month ++ "-" ++ zeroFilled 2 d.day

private def timeText (t : TimeOfDay) : String :=
  let whole := zeroFilled 2 t.hour ++ ":" ++ zeroFilled 2 t.minute ++ ":" ++ zeroFilled 2 t.second
  if t.microsecond = 0 then whole else whole ++ "." ++ zeroFilled 6 t.microsecond

private def offsetText (minutes : Int) : String :=
  let n := minutes.natAbs
  (if minutes < 0 then "-" else "+") ++ zeroFilled 2 (n / 60) ++ ":" ++ zeroFilled 2 (n % 60)

/-- The usual text of a moment, largest unit first. -/
def text : Moment → String
  | .date d => dateText d
  | .time t => timeText t
  | .dateTime d t offset =>
    dateText d ++ " " ++ timeText t ++ (match offset with | none => "" | some m => offsetText m)

end Moment

namespace Value

mutual

/-- The unambiguous text of a value: texts are quoted by `quote`, lists and tables are written
    with their items in brackets. -/
def literalWith (quote : String → String) : Value → String
  | .null => "None"
  | .boolean b => if b then "True" else "False"
  | .integer i => intText i
  | .real r => r.text
  | .text s => quote s
  | .moment m => m.literal
  | .list items => "[" ++ ", ".intercalate (literalItems quote items) ++ "]"
  | .table entries => "\x7b" ++ ", ".intercalate (literalEntries quote entries) ++ "\x7d"

/-- The literals of the items of a list. -/
def literalItems (quote : String → String) : List Value → List String
  | [] => []
  | v :: rest => literalWith quote v :: literalItems quote rest

/-- The entries of a table, each as key, colon and value. -/
def literalEntries (quote : String → String) : List (String × Value) → List String
  | [] => []
  | (key, v) :: rest => (quote key ++ ": " ++ literalWith quote v) :: literalEntries quote rest

end

mutual

/-- Whether a value holds an integer that is too large to be written. -/
def isTooLong : Value → Bool
  | .integer i => isTooLarge i.natAbs
  | .list items => anyTooLong items
  | .table entries => anyEntryTooLong entries
  | _ => false

/-- Whether an item of a list holds an integer that is too large to be written. -/
def anyTooLong : List Value → Bool
  | [] => false
  | v :: rest => isTooLong v || anyTooLong rest

/-- Whether an entry of a table holds an integer that is too large to be written. -/
def anyEntryTooLong : List (String × Value) → Bool
  | [] => false
  | (_, v) :: rest => isTooLong v || anyEntryTooLong rest

end

mutual

/-- How deeply lists and tables are nested in a value, itself included. -/
def nesting : Value → Nat
  | .list items => itemNesting items + 1
  | .table entries => entryNesting entries + 1
  | _ => 0

/-- How deeply lists and tables are nested in the items of a list. -/
def itemNesting : List Value → Nat
  | [] => 0
  | v :: rest => max (nesting v) (itemNesting rest)

/-- How deeply lists and tables are nested in the entries of a table. -/
def entryNesting : List (String × Value) → Nat
  | [] => 0
  | (_, v) :: rest => max (nesting v) (entryNesting rest)

end

/-- The unambiguous text of a value. -/
def literal (v : Value) : String :=
  v.literalWith quoteText

/-- The text of a value for a reader: a text stands for itself, a moment is written in the usual
    way, and everything else as its literal. -/
def display : Value → String
  | .text s => s
  | .moment m => m.text
  | v => v.literal

/-- The kind of a value, as messages call it. -/
def kindName : Value → String
  | .null => "NoneType"
  | .boolean _ => "bool"
  | .integer _ => "int"
  | .real _ => "float"
  | .text _ => "str"
  | .moment (.date _) => "datetime.date"
  | .moment (.time _) => "datetime.time"
  | .moment (.dateTime ..) => "datetime.datetime"
  | .list _ => "list"
  | .table _ => "dict"

/-- Whether a value counts as true: everything but null, false, zero and what is empty. -/
def isTruthy : Value → Bool
  | .null => false
  | .boolean b => b
  | .integer i => i != 0
  | .real r => !r.isZero
  | .text s => !s.isEmpty
  | .moment _ => true
  | .list items => !items.isEmpty
  | .table entries => !entries.isEmpty

/-- The entry of a table with a given key; of several the first. -/
def find? (key : String) : List (String × Value) → Option Value
  | [] => none
  | (k, v) :: rest => if k = key then some v else find? key rest

/-- The entry of a table value with a given key. -/
def get? (v : Value) (key : String) : Option Value :=
  match v with
  | .table entries => find? key entries
  | _ => none

@[simp]
theorem find?_nil (key : String) : find? key [] = none := rfl

theorem find?_cons (key k : String) (v : Value) (rest : List (String × Value)) :
    find? key ((k, v) :: rest) = if k = key then some v else find? key rest := rfl

@[simp]
theorem display_text (s : String) : (Value.text s).display = s := rfl

end Value

end ElfInspect
