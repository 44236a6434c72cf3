import ElfInspect.Abi.Codes
import ElfInspect.ElfFile
import ElfInspect.Json.Writer

namespace ElfInspect

/-!
# Reports

A report is a decoded file as a value: the header with its readable names, the segments, a summary
of each section with the number of bytes loaded for it, and the symbols of each symbol table.
Section content is left out.

* `Report.value`: the report of a file;
* `Report.text`: the report as a JSON document.
-/

/-! ### Records as tables -/

/-- The fields of a file header under their names in a report. -/
def FileHeader.entries (h : FileHeader) : List (String × Value) :=
  [("elf_class", .integer h.elfClass), ("endianness", .integer h.data),
   ("version", .integer h.version), ("elftype", .integer h.type), ("arch", .integer h.machine),
   ("osabi", .integer h.osAbi), ("abiversion", .integer h.abiVersion),
   ("e_entry", .integer h.entry), ("e_phoff", .integer h.phoff), ("e_shoff", .integer h.shoff),
   ("e_flags", .integer h.flags), ("e_ehsize", .integer h.ehsize),
   ("e_phentsize", .integer h.phentsize), ("e_phnum", .integer h.phnum),
   ("e_shentsize", .integer h.shentsize), ("e_shnum", .integer h.shnum),
   ("e_shstrndx", .integer h.shstrndx)]

/-- The fields of a program header under their names in a report. -/
def ProgramHeader.entries (h : ProgramHeader) : List (String × Value) :=
  [("p_type", .integer h.type), ("p_flags", .integer h.flags), ("p_offset", .integer h.offset),
   ("p_vaddr", .integer h.vaddr), ("p_paddr", .integer h.paddr), ("p_filesz", .integer h.filesz),
   ("p_memsz", .integer h.memsz), ("p_align", .integer h.align)]

/-- The fields of a section header under their usual names. -/
def SectionHeader.entries (h : SectionHeader) : List (String × Value) :=
  [("sh_name", .integer h.name), ("sh_type", .integer h.type), ("sh_flags", .integer h.flags),
   ("sh_addr", .integer h.addr), ("sh_offset", .integer h.offset), ("sh_size", .integer h.size),
   ("sh_link", .integer h.link), ("sh_info", .integer h.info),
   ("sh_addralign", .integer h.addralign), ("sh_entsize", .integer h.entsize)]

/-- The fields of a symbol under their names in a report. -/
def Symbol.entries (s : Symbol) : List (String × Value) :=
  [("name", .text s.name), ("value", .integer s.value), ("size", .integer s.size),
   ("shndx", .integer s.shndx), ("symtype", .integer s.type), ("bind", .integer s.binding),
   ("vis", .integer s.visibility)]

namespace Report

open Abi

/-! ### The parts of a report -/

/-- The header with its readable names. -/
def header (h : FileHeader) : Value :=
  .table (h.entries ++
    [("class_name", .text (CodeKind.fileClass.describe h.elfClass)),
     ("data_name", .text (CodeKind.dataEncoding.describe h.data)),
     ("osabi_name", .text (CodeKind.osAbi.describe h.osAbi)),
     ("type_name", .text (CodeKind.objectType.describe h.type)),
     ("machine_name", .text (CodeKind.machine.describe h.machine))])

/-- A segment with its readable type and flags. -/
def segment (h : ProgramHeader) : Value :=
  .table (h.entries ++
    [("type_name", .text (CodeKind.segmentType.describe h.type)),
     ("flags_str", .text (segmentFlags h.flags))])

/-- The summary of the section with a given index. -/
def sectionSummary (index : Nat) (s : Section) : Value :=
  .table
    [("index", .integer index), ("name", .text s.name),
     ("type", .text (CodeKind.sectionType.describe s.header.type)),
     ("flags", .text (sectionFlags s.header.flags)), ("addr", .integer s.header.addr),
     ("offset", .integer s.header.offset), ("size", .integer s.header.size),
     ("link", .integer s.header.link), ("loaded_bytes", .integer s.data.size)]

/-- The symbols of one table. -/
def symbolTable (file : ElfFile) (table : Section) : Except DecodeError Value := do
  let symbols ← file.symbols table
  return .table
    [("section", .text table.name),
     ("symbols", .list (symbols.map fun s => .table s.entries))]

/-- The symbols of all tables, in table order. -/
def symbolTables (file : ElfFile) : Except DecodeError Value := do
  let tables ← file.symbolTables.mapM (symbolTable file)
  return .list tables

/-! ### Whole reports -/

/-- The parts of a report that do not depend on when it is made, without the symbols. -/
def body (file : ElfFile) (source : String) : List (String × Value) :=
  [("source", .text source), ("header", header file.header),
   ("segments", .list (file.segments.map segment)),
   ("sections", .list (file.sections.mapIdx sectionSummary))]

/-- The entries of the report of a file that was read from `source`, apart from the time.  It fails
    only if symbols are asked for and some table does not decode. -/
def entries (file : ElfFile) (source : String) (includeSymbols : Bool) :
    Except DecodeError (List (String × Value)) :=
  if includeSymbols then do
    let tables ← symbolTables file
    return body file source ++ [("symbol_tables", tables)]
  else .ok (body file source)

/-- The report of a file, made at a given time. -/
def value (generatedAt : String) (file : ElfFile) (source : String) (includeSymbols : Bool) :
    Except DecodeError Value := do
  let entries ← entries file source includeSymbols
  -- The time comes first in the document.
  return .table (("generated_at", .text generatedAt) :: entries)

/-- The report as a JSON document. -/
def text (generatedAt : String) (file : ElfFile) (source : String) (includeSymbols : Bool) :
    Except DecodeError String := do
  let v ← value generatedAt file source includeSymbols
  return Json.write .document v

end Report

end ElfInspect
