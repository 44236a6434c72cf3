import ElfInspect.Toml.Error
import ElfInspect.Value

namespace ElfInspect.Toml

/-!
# Documents under construction

A document is built statement by statement.  Besides the entries read so far, a draft remembers
which tables may no longer be declared or extended:

* a table that has been declared, or entered by a dotted key of an earlier section, may not be
  declared again;
* a table or array written as a value may not be extended at all.

Main definitions: `Draft.declareTable`, `Draft.declareArrayTable` and `Draft.assign`, one for each
kind of statement, and `insertInline` for the entries of an inline table.
-/

/-- The entries of a table in order. -/
abbrev Entries := List (String × Value)

/-! ### Nested entries -/

/-- Changes the value of the first entry with a given name. -/
def replaceEntry (name : String) (value : Value) : Entries → Entries
  | [] => []
  | (n, v) :: rest =>
    if n = name then (n, value) :: rest else (n, v) :: replaceEntry name value rest

/-- Changes the entries of the table that a key leads to.  Missing tables on the way are created.
    With `lists`, an array on the way stands for its last item.  Fails on the way if some other
    value is met. -/
def updateTable (lists : Bool) (change : Entries → Except Cause Entries) :
    Key → Entries → Except Cause Entries
  | [], entries => change entries
  | name :: key, entries =>
    match Value.find? name entries with
    | none => do
      let inner ← updateTable lists change key []
      return entries ++ [(name, .table inner)]
    -- The table keeps its place among the entries.
    | some (.table inner) => do
      let inner ← updateTable lists change key inner
      return replaceEntry name (.table inner) entries
    | some (.list items) =>
      if lists then
        match items.getLast? with
        | some (.table inner) => do
          let inner ← updateTable lists change key inner
          return replaceEntry name (.list (items.dropLast ++ [.table inner])) entries
        | _ => .error .overwrittenValue
      else .error .overwrittenValue
    | some _ => .error .overwrittenValue

/-- Adds an entry whose name must be new. -/
def addEntry (taken : Cause) (name : String) (value : Value) (entries : Entries) :
    Except Cause Entries :=
  match Value.find? name entries with
  | none => .ok (entries ++ [(name, value)])
  | some _ => .error taken

/-- Adds an empty table to an array of tables, which is created if it is missing. -/
def addTable (name : String) (entries : Entries) : Except Cause Entries :=
  match Value.find? name entries with
  | none => .ok (entries ++ [(name, .list [.table []])])
  | some (.list items) => .ok (replaceEntry name (.list (items ++ [.table []])) entries)
  | some _ => .error .overwrittenValue

/-- Whether a value is a table or an array. -/
def isContainer : Value → Bool
  | .table _ => true
  | .list _ => true
  | _ => false

/-! ### Closed tables -/

/-- The keys of tables that are closed in some way.  Those that dotted keys of the current section
    have entered are pending until the section ends. -/
structure Marks where
  declared : List Key := []
  frozen : List Key := []
  pending : List Key := []

namespace Marks

/-- Whether the table of a key has been declared. -/
def isDeclared (marks : Marks) (key : Key) : Bool :=
  marks.declared.contains key

/-- Whether a key leads to or into a table or array written as a value. -/
def isFrozen (marks : Marks) (key : Key) : Bool :=
  marks.frozen.any fun f => f.isPrefixOf key

/-- Notes that a table has been declared. -/
def declare (marks : Marks) (key : Key) : Marks :=
  { marks with declared := key :: marks.declared }

/-- Notes that a table or array has been written as a value. -/
def freeze (marks : Marks) (key : Key) : Marks :=
  { marks with frozen := key :: marks.frozen }

/-- Notes that dotted keys of the current section have entered some tables. -/
def enter (marks : Marks) (keys : List Key) : Marks :=
  { marks with pending := keys ++ marks.pending }

/-- Ends the current section. -/
def endSection (marks : Marks) : Marks :=
  { marks with declared := marks.pending ++ marks.declared, pending := [] }

/-- Forgets a table and all that lies in it. -/
def forget (marks : Marks) (key : Key) : Marks :=
  { marks with
    declared := marks.declared.filter (!key.isPrefixOf ·)
    frozen := marks.frozen.filter (!key.isPrefixOf ·) }

end Marks

/-! ### Statements -/

/-- A document as far as it has been read: its entries, the closed tables, and the key of the
    table that assignments go to. -/
structure Draft where
  entries : Entries := []
  marks : Marks := {}
  header : Key := []

namespace Draft

/-- Ends the current section. -/
def endSection (draft : Draft) : Draft :=
  { draft with marks := draft.marks.endSection }

/-- Declares a table and makes it the one that assignments go to. -/
def declareTable (draft : Draft) (key : Key) : Except Cause Draft := do
  if draft.marks.isDeclared key || draft.marks.isFrozen key then
    throw (.declaredTwice key)
  -- The table is created if it is not there yet, and stays as it is otherwise.
  let entries ← updateTable true .ok key draft.entries
  return { entries, marks := draft.marks.declare key, header := key }

/-- Adds a table to an array of tables and makes it the one that assignments go to. -/
def declareArrayTable (draft : Draft) (key : Key) : Except Cause Draft := do
  if draft.marks.isFrozen key then throw (.immutableTable key)
  let entries ← updateTable true (addTable (key.getLastD "")) key.dropLast draft.entries
  -- What was declared in the item before may be declared again in this one.
  return { entries, marks := (draft.marks.forget key).declare key, header := key }

/-- The keys of the tables that a dotted key enters, outermost first. -/
def tablesEntered (key : Key) : List Key :=
  (List.range (key.length - 1)).map fun i => key.take (i + 1)

/-- Assigns a value to a dotted key in the current table. -/
def assign (draft : Draft) (key : Key) (value : Value) : Except Cause Draft := do
  -- Each table on the way counts as entered, but not the value itself.
  let entered := (tablesEntered key).map (draft.header ++ ·)
  match entered.find? draft.marks.isDeclared with
  | some table => throw (.redefinedTable table)
  | none => pure ()
  let parent := draft.header ++ key.dropLast
  if draft.marks.isFrozen parent then throw (.immutableTable parent)
  let entries ←
    updateTable true (addEntry .overwrittenValue (key.getLastD "") value) parent draft.entries
  let marks := draft.marks.enter entered
  -- Tables and arrays that are written as values stay as they are written.
  let marks := if isContainer value then marks.freeze (draft.header ++ key) else marks
  return { draft with entries, marks }

end Draft

/-- Adds an entry to an inline table.  `frozen` holds the keys of the containers that were written
    as values in it. -/
def insertInline (frozen : List Key) (key : Key) (value : Value) (entries : Entries) :
    Except Cause Entries := do
  if frozen.any (·.isPrefixOf key) then throw (.immutableTable key)
  let name := key.getLastD ""
  -- Arrays are no tables here, whatever their last item is.
  updateTable false (addEntry (.duplicateInlineKey name) name value) key.dropLast entries

end ElfInspect.Toml
