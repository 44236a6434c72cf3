import ElfInspect.Abi.Codes
import ElfInspect.Console
import ElfInspect.ElfFile

namespace ElfInspect

/-!
# Displaying a file

A decoded file is shown as tables: the file header, the program headers, the section headers, and
one table per symbol table.

* `DisplayOptions`: which of them are shown;
* `Display.run`: the calls that show a file, up to the first symbol table that does not decode.
-/

/-- Which parts of a file are shown, and how many rows of a symbol table.  A limit that is not
    positive is none. -/
structure DisplayOptions where
  showSegments : Bool := true
  showSections : Bool := true
  showSymbols : Bool := true
  maxSymbolRows : Int := 200
  deriving Repr, DecidableEq, Inhabited

namespace Display

open Abi

/-! ### The file header -/

/-- The rows of the table of a file header. -/
def headerRows (h : FileHeader) : List (List String) :=
  [["Class", CodeKind.fileClass.describe h.elfClass],
   ["Data", CodeKind.dataEncoding.describe h.data],
   ["Version", intText h.version],
   ["OS/ABI", CodeKind.osAbi.describe h.osAbi],
   ["ABI Version", intText h.abiVersion],
   ["Type", CodeKind.objectType.describe h.type],
   ["Machine", CodeKind.machine.describe h.machine],
   ["Entry point address", hexPadded h.addressDigits h.entry],
   ["Start of program headers", s!"{h.phoff} (bytes into file)"],
   ["Start of section headers", s!"{h.shoff} (bytes into file)"],
   ["Flags", hexPadded 1 h.flags],
   ["Size of this header", s!"{h.ehsize} (bytes)"],
   ["Size of program headers", s!"{h.phentsize} (bytes)"],
   ["Number of program headers", intText h.phnum],
   ["Size of section headers", s!"{h.shentsize} (bytes)"],
   ["Number of section headers", intText h.shnum],
   ["Section header string table index", intText h.shstrndx]]

/-- The calls that show a file header. -/
def header (h : FileHeader) : List ConsoleCall :=
  [.heading "ELF Header",
   .table { title := "ELF Header", columns := ["Field", "Value"], rows := headerRows h
            styles := some ["bold", "bright_white"] }]

/-! ### Segments and sections -/

/-- The row of a program header, with addresses of a given number of digits. -/
def segmentRow (digits : Nat) (h : ProgramHeader) : List String :=
  [CodeKind.segmentType.describe h.type, hexPadded 6 h.offset, hexPadded digits h.vaddr,
   hexPadded digits h.paddr, hexPadded 6 h.filesz, hexPadded 6 h.memsz, segmentFlags h.flags,
   hexPadded 1 h.align]

/-- The calls that show the program headers. -/
def segments (file : ElfFile) : List ConsoleCall :=
  [.heading "Program Headers",
   if file.segments.isEmpty then .message .info "There are no program headers in this file."
   else
    .table { title := "Program Headers"
             columns := ["Type", "Offset", "VirtAddr", "PhysAddr", "FileSiz", "MemSiz", "Flg",
                         "Align"]
             rows := file.segments.map (segmentRow file.header.addressDigits) }]

/-- The row of the section with a given index. -/
def sectionRow (digits index : Nat) (s : Section) : List String :=
  [intText index, s.name, CodeKind.sectionType.describe s.header.type,
   hexPadded digits s.header.addr, hexPadded 6 s.header.offset, hexPadded 6 s.header.size,
   sectionFlags s.header.flags, intText s.header.link, intText s.data.size]

/-- The calls that show the section headers. -/
def sections (file : ElfFile) : List ConsoleCall :=
  [.heading "Section Headers",
   if file.sections.isEmpty then .message .info "There are no sections in this file."
   else
    .table { title := "Section Headers"
             columns := ["Nr", "Name", "Type", "Address", "Off", "Size", "Flg", "Lk", "Loaded"]
             rows := file.sections.mapIdx (sectionRow file.header.addressDigits)
             styles := some ["dim", "bold bright_white"] }]

/-! ### Symbols -/

/-- The row of the symbol with a given number. -/
def symbolRow (number : Nat) (s : Symbol) : List String :=
  -- Values take sixteen digits in files of either class.
  [intText number, hexPadded 16 s.value, intText s.size, CodeKind.symbolType.describe s.type,
   CodeKind.symbolBinding.describe s.binding, CodeKind.symbolVisibility.describe s.visibility,
   describeSectionIndex s.shndx, s.name]

/-- The symbols that are shown under a limit. -/
def shownSymbols (limit : Int) (symbols : List Symbol) : List Symbol :=
  if 0 < limit then symbols.take limit.toNat else symbols

/-- The calls that show the symbols of a section.  Symbols beyond the limit are counted in the
    caption. -/
def symbolTable (limit : Int) (s : Section) (symbols : List Symbol) : List ConsoleCall :=
  let shown := shownSymbols limit symbols
  let hidden := symbols.length - shown.length
  [.heading s!"Symbol table '{s.name}'",
   .table { title := s!"Symbol table '{s.name}' contains {symbols.length} entries"
            columns := ["Num", "Value", "Size", "Type", "Bind", "Vis", "Ndx", "Name"]
            rows := shown.mapIdx symbolRow
            caption := if hidden = 0 then none else some s!"{hidden} more symbols not shown" }]

/-- The calls that show the symbols of several sections, up to the first that does not decode. -/
def symbolTables (file : ElfFile) (limit : Int) :
    List Section → List ConsoleCall × Option DecodeError
  | [] => ([], none)
  | s :: rest =>
    match file.symbols s with
    | .error cause => ([], some cause)
    | .ok symbols =>
      let (calls, failure) := symbolTables file limit rest
      (symbolTable limit s symbols ++ calls, failure)

/-- The calls that show symbols: those of the section with a given name, or else those of all
    symbol tables if the options ask for them. -/
def symbols (options : DisplayOptions) (file : ElfFile) (symbolsFor : Option String) :
    List ConsoleCall × Option DecodeError :=
  match symbolsFor with
  -- A section that is named is shown even if the options leave symbols out.
  | some name =>
    match file.section? name with
    | none => ([.message .warning s!"No section named {name}"], none)
    | some s => symbolTables file options.maxSymbolRows [s]
  | none =>
    if options.showSymbols then symbolTables file options.maxSymbolRows file.symbolTables
    else ([], none)

/-! ### Whole files -/

/-- The calls that show a file without its symbols. -/
def overview (options : DisplayOptions) (file : ElfFile) : List ConsoleCall :=
  header file.header ++
    (if options.showSegments then segments file else []) ++
    (if options.showSections then sections file else [])

/-- The calls that show a file.  If some symbol table does not decode, the calls before it and the
    cause. -/
def run (options : DisplayOptions) (file : ElfFile) (symbolsFor : Option String) :
    List ConsoleCall × Option DecodeError :=
  let (shown, failure) := symbols options file symbolsFor
  (overview options file ++ shown, failure)

end Display

end ElfInspect
