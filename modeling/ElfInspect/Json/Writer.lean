import ElfInspect.Value

namespace ElfInspect.Json

/-!
# Writing JSON

* `Style`: whether the text is laid out over several lines, and whether it stays within ASCII;
* `write`: the JSON text of a value.

A moment is written as the string of its usual text; every other value has its own JSON form.
-/

/-- How JSON text is written.  With an `indent`, every item of a list or table stands on a line of
    its own; with `ascii`, every other character is escaped. -/
structure Style where
  indent : Option Nat
  ascii : Bool
  deriving Repr, DecidableEq

/-- One line, with non-ASCII characters as they are. -/
def Style.line : Style := ⟨none, false⟩

/-- One line within ASCII. -/
def Style.asciiLine : Style := ⟨none, true⟩

/-- Laid out with two blanks per level, within ASCII. -/
def Style.document : Style := ⟨some 2, true⟩

/-! ### Strings -/

/-- The escape of one UTF-16 code unit. -/
def unitEscape (n : Nat) : List Char :=
  '\\' :: 'u' :: paddedDigits 4 n

/-- The escape of a character by number; above U+FFFF it takes a pair of units. -/
def charEscape (c : Char) : List Char :=
  let n := c.toNat
  if n < 0x10000 then unitEscape n
  else
    -- Both halves of the pair hold ten bits of what is left.
    let m := n - 0x10000
    unitEscape (0xD800 + m / 0x400) ++ unitEscape (0xDC00 + m % 0x400)

/-- One character of a string. -/
def stringChar (ascii : Bool) (c : Char) : List Char :=
  if c = '"' ∨ c = '\\' then ['\\', c]
  else if c = '\n' then ['\\', 'n']
  else if c = '\r' then ['\\', 'r']
  else if c = '\t' then ['\\', 't']
  else if c = '\x08' then ['\\', 'b']
  else if c = '\x0c' then ['\\', 'f']
  -- The delete character counts as outside of ASCII here.
  else if c.toNat < 0x20 ∨ (ascii ∧ 0x7F ≤ c.toNat) then charEscape c
  else [c]

/-- A string between its quotes. -/
def stringChars (ascii : Bool) (s : String) : List Char :=
  '"' :: s.toList.flatMap (stringChar ascii) ++ ['"']

/-! ### Values -/

/-- What stands before an item at a nesting depth: nothing, or a new line and its blanks. -/
def lead (style : Style) (depth : Nat) : List Char :=
  match style.indent with
  | none => []
  | some width => '\n' :: List.replicate (width * depth) ' '

/-- What stands between two items. -/
def separator (style : Style) (depth : Nat) : List Char :=
  match style.indent with
  | none => [',', ' ']
  | some _ => ',' :: lead style depth

/-- The text of a real number; the special numbers have names. -/
def realChars (r : Binary64) : List Char :=
  match r with
  | .nan => "NaN".toList
  | .infinite negative => (if negative then "-Infinity" else "Infinity").toList
  | .finite .. => r.text.toList

mutual

/-- The text of a value at a nesting depth. -/
def valueChars (style : Style) (depth : Nat) : Value → List Char
  | .null => "null".toList
  | .boolean b => (if b then "true" else "false").toList
  | .integer i => (intText i).toList
  | .real r => realChars r
  | .text s => stringChars style.ascii s
  | .moment m => stringChars style.ascii m.text
  | .list [] => ['[', ']']
  | .list (v :: rest) =>
    '[' :: lead style (depth + 1) ++ valueChars style (depth + 1) v ++
      itemChars style (depth + 1) rest ++ lead style depth ++ [']']
  | .table [] => ['\x7b', '\x7d']
  | .table ((key, v) :: rest) =>
    '\x7b' :: lead style (depth + 1) ++ stringChars style.ascii key ++ ':' :: ' ' ::
      valueChars style (depth + 1) v ++ entryChars style (depth + 1) rest ++
      lead style depth ++ ['\x7d']

/-- The items of a list after the first, each with its separator. -/
def itemChars (style : Style) (depth : Nat) : List Value → List Char
  | [] => []
  | v :: rest => separator style depth ++ valueChars style depth v ++ itemChars style depth rest

/-- The entries of a table after the first, each with its separator. -/
def entryChars (style : Style) (depth : Nat) : List (String × Value) → List Char
  | [] => []
  | (key, v) :: rest =>
    separator style depth ++ stringChars style.ascii key ++ ':' :: ' ' ::
      valueChars style depth v ++ entryChars style depth rest

end

/-- The JSON text of a value. -/
def write (style : Style) (v : Value) : String :=
  String.ofList (valueChars style 0 v)

@[simp]
theorem lead_line (depth : Nat) : lead .line depth = [] := rfl

@[simp]
theorem lead_asciiLine (depth : Nat) : lead .asciiLine depth = [] := rfl

end ElfInspect.Json
