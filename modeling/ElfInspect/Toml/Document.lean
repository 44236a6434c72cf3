import ElfInspect.Text.Utf8
import ElfInspect.Toml.Draft
import ElfInspect.Toml.Lexeme
import ElfInspect.Toml.Scalar

namespace ElfInspect.Toml

open Scan

/-!
# Settings documents

A document is a list of statements, one a line: assignments of values to dotted keys, and
declarations of tables and of arrays of tables, which say where the assignments after them go.

* `value`: the values;
* `statements`: the statements one after another;
* `read`: the entries of a whole document.
-/

/-! ### Values -/

/-- How deeply values may be nested.  An array takes up two of it, and an inline table three. -/
def nestingRoom : Nat := 987

/-- What is left of some room for nesting when part of it is taken up. -/
def takeUp (part room : Nat) : Scan Nat :=
  if room < part then throw .nestedTooDeeply else return room - part

mutual

/-- A value.  `fuel` bounds the number of values and items read on the way, and `room` their
    nesting. -/
def value : (fuel : Nat) → (room : Nat) → Scan Value
  | 0, _ => throw .invalidValue
  | fuel + 1, room => do
    if ← sees "\"\"\"" then return .text (← multilineString '"')
    else if ← sees "\"" then return .text (← basicString)
    else if ← sees "'''" then return .text (← multilineString '\'')
    else if ← sees "'" then return .text (← literalString)
    else if ← sees "true" then
      advance 4
      return .boolean true
    else if ← sees "false" then
      advance 5
      return .boolean false
    else if ← sees "[" then
      -- The room is taken before anything of the array is read.
      let room ← takeUp 2 room
      advance 1
      arrayGap
      return .list (← items fuel room)
    else if ← sees "\x7b" then
      let room ← takeUp 3 room
      advance 1
      skip isBlank
      if ← sees "\x7d" then
        advance 1
        return .table []
      else return .table (← inlineEntries fuel room [] [])
    else
      let (v, rest) ← Scan.ofExcept (scalar (← get))
      set rest
      return v

/-- The items of an array up to its closing bracket.  A comma may follow the last one. -/
def items : (fuel : Nat) → (room : Nat) → Scan (List Value)
  | 0, _ => throw .invalidValue
  | fuel + 1, room => do
    if ← sees "]" then
      advance 1
      return []
    else
      let v ← value fuel room
      arrayGap
      if ← sees "]" then
        advance 1
        return [v]
      else
        expect "," .unclosedArray
        arrayGap
        return v :: (← items fuel room)

/-- The entries of an inline table up to its closing brace.  `frozen` holds the keys of the
    containers among those read so far. -/
def inlineEntries : (fuel : Nat) → (room : Nat) → List Key → Entries → Scan Entries
  | 0, _, _, _ => throw .invalidValue
  | fuel + 1, room, frozen, entries => do
    let name ← key
    expect "=" .expectedEquals
    skip isBlank
    let v ← value fuel room
    let entries ← Scan.ofExcept (insertInline frozen name v entries)
    skip isBlank
    if ← sees "\x7d" then
      advance 1
      return entries
    else
      expect "," .unclosedInlineTable
      skip isBlank
      inlineEntries fuel room (if isContainer v then name :: frozen else frozen) entries

end

/-! ### Statements -/

/-- An assignment. -/
def assignment (draft : Draft) : Scan Draft := do
  let name ← key
  expect "=" .expectedEquals
  skip isBlank
  -- Every value and every item takes at least one character of what is left.
  let v ← value (2 * (← get).length + 2) nestingRoom
  Scan.ofExcept (draft.assign name v)

/-- The declaration of a table. -/
def tableHeader (draft : Draft) : Scan Draft := do
  advance 1
  skip isBlank
  -- It is declared before its closing bracket is looked at.
  let draft ← Scan.ofExcept (draft.declareTable (← key))
  expect "]" .expectedTableEnd
  return draft

/-- The declaration of an item of an array of tables. -/
def arrayTableHeader (draft : Draft) : Scan Draft := do
  advance 2
  skip isBlank
  let draft ← Scan.ofExcept (draft.declareArrayTable (← key))
  expect "]]" .expectedArrayTableEnd
  return draft

/-- One statement, if there is one on the line. -/
def statement (draft : Draft) : Scan Draft := do
  match (← get).head? with
  | none => return draft
  | some c =>
    if isKeyStart c then assignment draft
    else if c = '[' then
      -- The section ends even if its successor cannot be declared.
      let draft := draft.endSection
      if ← sees "[[" then arrayTableHeader draft else tableHeader draft
    else if c = '#' ∨ c = '\n' then return draft
    else throw .invalidStatement

/-- All lines of a document.  `fuel` bounds their number. -/
def statements : (fuel : Nat) → Draft → Scan Draft
  | 0, draft => return draft
  | fuel + 1, draft => do
    skip isBlank
    let draft ← statement draft
    skip isBlank
    comment
    match (← get).head? with
    | none => return draft
    | some '\n' =>
      advance 1
      statements fuel draft
    | some _ => throw .expectedLineEnd

/-! ### Documents -/

/-- The text with each carriage return before a line feed left out. -/
def joinLineEnds : List Char → List Char
  | '\r' :: '\n' :: rest => '\n' :: joinLineEnds rest
  | c :: rest => c :: joinLineEnds rest
  | [] => []

/-- The entries of a document. -/
def read (chars : List Char) : Except Error Entries :=
  -- Places in errors refer to the text with its line ends joined.
  let source := joinLineEnds chars
  match statements (source.length + 1) {} source with
  | .ok draft _ => .ok draft.entries
  | .error cause rest =>
    .error ⟨cause, .after (source.take (source.length - rest.length)) rest⟩

end ElfInspect.Toml
