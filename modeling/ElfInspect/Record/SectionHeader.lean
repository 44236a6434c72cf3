import ElfInspect.Layout

namespace ElfInspect

/-!
# Section headers

The header of a section, and the content it stands for.  `name` is an offset into the section name
table; `link` is the index of another section, which for a symbol table is the string table with
the names of its symbols.
-/

/-- The header of a section. -/
structure SectionHeader where
  name : Nat := 0
  type : Nat := 0
  flags : Nat := 0
  addr : Nat := 0
  offset : Nat := 0
  size : Nat := 0
  link : Nat := 0
  info : Nat := 0
  addralign : Nat := 0
  entsize : Nat := 0
  deriving Repr, DecidableEq, Inhabited

/-- The chunk size of content reads unless the settings say otherwise. -/
def defaultChunkSize : Int := 65536

/-- Reads `size` bytes of section content at `offset`, at most `chunk` bytes per call.  A section
    without space in the file is empty, and the device is left alone. -/
def readContent (type : Nat) (offset : Int) (size : Nat) (chunk : Int) : Decode Bytes :=
  if type = Abi.sectionNobits then pure #[]
  else if chunk ≤ 0 then throw (.misuse (.chunkSize chunk))
  else do
    seekTo offset
    accumulate (some chunk.toNat) (.contentReadFailed offset) size #[]

namespace SectionHeader

/-- The fields of a record in physical order. -/
def layout (e : Encoding) : Layout SectionHeader :=
  [⟨4, name, fun v h => { h with name := v }⟩,
   ⟨4, type, fun v h => { h with type := v }⟩,
   ⟨e.addressWidth, flags, fun v h => { h with flags := v }⟩,
   ⟨e.addressWidth, addr, fun v h => { h with addr := v }⟩,
   ⟨e.addressWidth, offset, fun v h => { h with offset := v }⟩,
   ⟨e.addressWidth, size, fun v h => { h with size := v }⟩,
   ⟨4, link, fun v h => { h with link := v }⟩,
   ⟨4, info, fun v h => { h with info := v }⟩,
   ⟨e.addressWidth, addralign, fun v h => { h with addralign := v }⟩,
   ⟨e.addressWidth, entsize, fun v h => { h with entsize := v }⟩]

/-- Reads one record. -/
def read (e : Encoding) : Decode SectionHeader :=
  (layout e).read e.order {}

/-- The number of bytes of a record. -/
def recordSize (e : Encoding) : Nat :=
  (layout e).size

/-- Whether the section occupies space in the file. -/
def occupiesFile (h : SectionHeader) : Bool :=
  h.type ≠ Abi.sectionNobits

/-- Whether the section holds symbols. -/
def holdsSymbols (h : SectionHeader) : Bool :=
  h.type = Abi.sectionSymtab || h.type = Abi.sectionDynsym

/-- Reads the content of the section. -/
def readContent (h : SectionHeader) (chunk : Int) : Decode Bytes :=
  ElfInspect.readContent h.type h.offset h.size chunk

@[simp]
theorem recordSize_narrow (order : ByteOrder) : recordSize ⟨true, order⟩ = 40 := rfl

@[simp]
theorem recordSize_wide (order : ByteOrder) : recordSize ⟨false, order⟩ = 64 := rfl

end SectionHeader

end ElfInspect
