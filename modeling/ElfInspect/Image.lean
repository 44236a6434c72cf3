import ElfInspect.ElfFile

namespace ElfInspect

/-!
# Building images

The reverse of loading: a file is laid out as bytes.  An image consists of the file header, the
program headers, the contents of the sections, the section name table, and the section headers.
The section table begins with a header that describes no section and ends with the name table.

Main definitions:

* `SectionPlan`, `ImagePlan`: what goes into an image;
* `ImagePlan.bytes`: the image;
* `ImagePlan.file`: the file that the image stands for;
* `Symbol` entries are laid out by `SymbolEntry.layout`, and their names by `StringTable.build`.
-/

/-- A section to be laid out.  `spaceless` gives the declared size of a section without space in
    the file, and `data` is the content of any other. -/
structure SectionPlan where
  name : String
  type : Nat := Abi.sectionProgbits
  flags : Nat := 0
  addr : Nat := 0
  link : Nat := 0
  info : Nat := 0
  addralign : Nat := 1
  entsize : Nat := 0
  data : List UInt8 := []
  spaceless : Nat := 0
  deriving Repr, DecidableEq, Inhabited

namespace SectionPlan

/-- Whether the section occupies space in the file. -/
def occupiesFile (p : SectionPlan) : Bool :=
  p.type ≠ Abi.sectionNobits

/-- The bytes that the section occupies in the file. -/
def content (p : SectionPlan) : List UInt8 :=
  if p.occupiesFile then p.data else []

/-- The size that the header of the section declares. -/
def declaredSize (p : SectionPlan) : Nat :=
  if p.occupiesFile then p.data.length else p.spaceless

/-- The header of the section at an offset, with its name at an offset of the name table. -/
def header (p : SectionPlan) (name offset : Nat) : SectionHeader :=
  { name, type := p.type, flags := p.flags, addr := p.addr, offset, size := p.declaredSize
    link := p.link, info := p.info, addralign := p.addralign, entsize := p.entsize }

end SectionPlan

/-- What goes into an image. -/
structure ImagePlan where
  elfClass : UInt8 := 2
  data : UInt8 := 1
  osAbi : UInt8 := 3
  abiVersion : UInt8 := 0
  type : Nat := 2
  entry : Nat := 0x401000
  segments : List ProgramHeader := []
  sections : List SectionPlan := []
  deriving Repr, DecidableEq, Inhabited

namespace ImagePlan

/-- The encoding of the image. -/
def encoding (p : ImagePlan) : Encoding :=
  .ofBytes p.elfClass.toNat p.data.toNat

/-- The identification bytes. -/
def ident (p : ImagePlan) : List UInt8 :=
  Abi.magic ++ [p.elfClass, p.data, UInt8.ofNat Abi.currentVersion, p.osAbi, p.abiVersion] ++
    List.replicate 7 0

/-- The machine code of 32-bit and of wider images. -/
def machine (p : ImagePlan) : Nat :=
  if p.encoding.narrow then 3 else 62

/-! ### The section name table -/

/-- The names in table order: those of the sections and that of the name table itself. -/
def names (p : ImagePlan) : List String :=
  p.sections.map SectionPlan.name ++ [".shstrtab"]

/-- The name table: an empty text and then each name, repeated names included. -/
def nameTable (p : ImagePlan) : List UInt8 :=
  0 :: p.names.flatMap StringTable.terminated

/-- The offsets of names that follow each other from `start` on. -/
def nameOffsets (start : Nat) : List String → List Nat
  | [] => []
  | s :: rest => start :: nameOffsets (start + (StringTable.terminated s).length) rest

/-! ### Places -/

/-- The offset of the first section content. -/
def contentStart (p : ImagePlan) : Nat :=
  FileHeader.totalSize p.encoding + p.segments.length * ProgramHeader.size p.encoding

/-- The offsets of contents that follow each other from `start` on. -/
def contentOffsets (start : Nat) : List SectionPlan → List Nat
  | [] => []
  | s :: rest => start :: contentOffsets (start + s.content.length) rest

/-- The contents of all sections. -/
def contents (p : ImagePlan) : List UInt8 :=
  p.sections.flatMap SectionPlan.content

/-- The offset of the name table. -/
def nameTableOffset (p : ImagePlan) : Nat :=
  p.contentStart + p.contents.length

/-- The offset of the section table. -/
def sectionTableOffset (p : ImagePlan) : Nat :=
  p.nameTableOffset + p.nameTable.length

/-! ### Headers -/

/-- The section that holds the names. -/
def nameSection (p : ImagePlan) : SectionPlan :=
  { name := ".shstrtab", type := Abi.sectionStrtab, data := p.nameTable }

/-- All sections but the null section, the name table last. -/
def allSections (p : ImagePlan) : List SectionPlan :=
  p.sections ++ [p.nameSection]

/-- The section headers, the null header first. -/
def sectionHeaders (p : ImagePlan) : List SectionHeader :=
  let offsets := contentOffsets p.contentStart p.allSections
  {} :: (p.allSections.zip ((nameOffsets 1 p.names).zip offsets)).map
    fun (s, name, offset) => s.header name offset

/-- The file header. -/
def fileHeader (p : ImagePlan) : FileHeader :=
  { elfClass := p.elfClass.toNat, data := p.data.toNat
    version := Abi.currentVersion, type := p.type, machine := p.machine
    osAbi := p.osAbi.toNat, abiVersion := p.abiVersion.toNat, entry := p.entry
    phoff := if p.segments.isEmpty then 0 else FileHeader.totalSize p.encoding
    shoff := p.sectionTableOffset
    ehsize := FileHeader.totalSize p.encoding
    phentsize := ProgramHeader.size p.encoding, phnum := p.segments.length
    shentsize := SectionHeader.recordSize p.encoding, shnum := p.sections.length + 2
    shstrndx := p.sections.length + 1 }

/-! ### The image -/

/-- The image as bytes. -/
def bytes (p : ImagePlan) : List UInt8 :=
  let e := p.encoding
  p.ident ++ (FileHeader.layout e).encode e.order p.fileHeader ++
    p.segments.flatMap ((ProgramHeader.layout e).encode e.order) ++
    p.contents ++ p.nameTable ++
    p.sectionHeaders.flatMap ((SectionHeader.layout e).encode e.order)

/-- The file that the image stands for. -/
def file (p : ImagePlan) : ElfFile :=
  { header := p.fileHeader
    segments := p.segments
    sections := (("" :: p.names).zip (p.sectionHeaders.zip
      ([] :: p.allSections.map SectionPlan.content))).map
        fun (name, header, data) => ⟨name, header, data.toArray⟩ }

end ImagePlan

end ElfInspect
