import ElfInspect.Record.FileHeader
import ElfInspect.Record.ProgramHeader
import ElfInspect.Record.SectionHeader
import ElfInspect.Record.Symbol

namespace ElfInspect

/-!
# Decoded files

`ElfFile` holds everything that a load decodes: the file header, the segments, and the sections
with their names and contents.  Symbols are decoded on request by `ElfFile.symbols`.
-/

/-- A section with its name and its content.  The content of a section without space in the file
    is empty, whatever size its header declares. -/
structure Section where
  name : String
  header : SectionHeader
  data : Bytes
  deriving Repr, DecidableEq, Inhabited

/-- Whether the section holds symbols. -/
def Section.holdsSymbols (s : Section) : Bool :=
  s.header.holdsSymbols

/-- A decoded file. -/
structure ElfFile where
  header : FileHeader
  segments : List ProgramHeader := []
  sections : List Section := []
  deriving Repr, DecidableEq, Inhabited

namespace ElfFile

/-- The first section with a given name. -/
def section? (file : ElfFile) (name : String) : Option Section :=
  file.sections.find? fun s => s.name = name

/-- The index of the first section with a given name. -/
def sectionIndex? (file : ElfFile) (name : String) : Option Nat :=
  file.sections.findIdx? fun s => s.name = name

/-- The sections that hold symbols, in table order. -/
def symbolTables (file : ElfFile) : List Section :=
  file.sections.filter Section.holdsSymbols

/-- The symbols that a section holds; a section of another kind holds none.  The section may come
    from any file: its names are looked up in this file, and its entries are decoded with the
    encoding of this file. -/
def symbols (file : ElfFile) (s : Section) : Except DecodeError (List Symbol) :=
  if s.holdsSymbols then
    match file.sections[s.header.link]? with
    | none => .error (.linkOutside s.name s.header.link file.sections.length)
    | some strings => Symbol.decodeTable s.data strings.data file.header.encoding
  else .ok []

/-- The symbols that a section holds when its link is taken to be a given number.  A negative one
    counts back from the last section. -/
def symbolsLinked (file : ElfFile) (s : Section) (link : Int) : Except DecodeError (List Symbol) :=
  let count := file.sections.length
  -- Links are never negative in a decoded file, so that only the first branch occurs for them.
  if 0 ≤ link then file.symbols { s with header := { s.header with link := link.toNat } }
  else if s.holdsSymbols ∧ link < -(count : Int) then .error (.misuse .linkBeforeStart)
  else file.symbols { s with header := { s.header with link := (link + count).toNat } }

/-- The link of the header itself makes no difference. -/
@[simp]
theorem symbolsLinked_link (file : ElfFile) (s : Section) :
    file.symbolsLinked s s.header.link = file.symbols s := by
  simp [symbolsLinked]

/-- A section of another kind has no symbols, and asking for them does not fail. -/
theorem symbols_of_not_holdsSymbols {file : ElfFile} {s : Section} (h : s.holdsSymbols = false) :
    file.symbols s = .ok [] := by
  simp [symbols, h]

end ElfFile

end ElfInspect
