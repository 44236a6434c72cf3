import ElfInspect.Record.FileHeader
import ElfInspect.Record.ProgramHeader
import ElfInspect.Record.SectionHeader
import ElfInspect.Record.Symbol

namespace ElfInspect

/-!
# Records at their offsets

The layouts of the records list the fields one after another.  Here each field stands at its offset
instead, as the tables of the format give it, and the two are proved equal.

* `Stored.uint` — the unsigned integer at an offset;
* `Stored.fileHeader`, `Stored.programHeader`, `Stored.sectionHeader`, `Stored.symbolEntry` — the
  record at an offset;
* `Stored.headerSize`, `Stored.segmentSize`, `Stored.sectionSize`, `Stored.symbolSize` — the sizes
  of the records;
* `decode_fileHeader` and its companions — decoding by layout gives the same records.
-/

variable {content : Bytes}

namespace Stored

/-- The unsigned integer of `width` bytes at an offset. -/
def uint (content : Bytes) (order : ByteOrder) (offset width : Nat) : Nat :=
  decodeUint order ((content.toList.drop offset).take width)

/-! ### Sizes -/

/-- The size of the file header, identification included. -/
def headerSize (e : Encoding) : Nat := if e.narrow then 52 else 64

/-- The size of a program header. -/
def segmentSize (e : Encoding) : Nat := if e.narrow then 32 else 56

/-- The size of a section header. -/
def sectionSize (e : Encoding) : Nat := if e.narrow then 40 else 64

/-- The size of a symbol. -/
def symbolSize (e : Encoding) : Nat := if e.narrow then 16 else 24

/-- The fields of the file header fill what the format gives it behind the identification. -/
@[simp] theorem size_fileHeader (e : Encoding) :
    Abi.identSize + (FileHeader.layout e).size = headerSize e := by
  rcases e with ⟨_ | _, _⟩ <;> rfl

/-- The fields of a program header fill the entry that the format gives it. -/
@[simp] theorem size_programHeader (e : Encoding) :
    (ProgramHeader.layout e).size = segmentSize e := by
  rcases e with ⟨_ | _, _⟩ <;> rfl

/-- The fields of a section header fill the entry that the format gives it. -/
@[simp] theorem size_sectionHeader (e : Encoding) :
    (SectionHeader.layout e).size = sectionSize e := by
  rcases e with ⟨_ | _, _⟩ <;> rfl

/-- The fields of a symbol fill the entry that the format gives it. -/
@[simp] theorem size_symbolEntry (e : Encoding) :
    (SymbolEntry.layout e).size = symbolSize e := by
  rcases e with ⟨_ | _, _⟩ <;> rfl

/-- No record is empty, so that a table with entries takes room. -/
theorem programHeader_size_pos (e : Encoding) : 0 < (ProgramHeader.layout e).size := by
  rcases e with ⟨_ | _, _⟩ <;> exact Nat.zero_lt_succ _

theorem sectionHeader_size_pos (e : Encoding) : 0 < (SectionHeader.layout e).size := by
  rcases e with ⟨_ | _, _⟩ <;> exact Nat.zero_lt_succ _

theorem symbolSize_pos (e : Encoding) : 0 < symbolSize e := by
  rcases e with ⟨_ | _, _⟩ <;> exact Nat.zero_lt_succ _

/-! A field is never too wide to be read in one request. -/

/-- The widest fields are addresses, which take eight bytes at most. -/
theorem fileHeader_width_lt (e : Encoding) :
    ∀ slot ∈ FileHeader.layout e, slot.width < leastRoom := by
  rcases e with ⟨_ | _, order⟩ <;> simp [FileHeader.layout, Encoding.addressWidth, leastRoom]

theorem programHeader_width_lt (e : Encoding) :
    ∀ slot ∈ ProgramHeader.layout e, slot.width < leastRoom := by
  rcases e with ⟨_ | _, order⟩ <;> simp [ProgramHeader.layout, Encoding.addressWidth, leastRoom]

theorem sectionHeader_width_lt (e : Encoding) :
    ∀ slot ∈ SectionHeader.layout e, slot.width < leastRoom := by
  rcases e with ⟨_ | _, order⟩ <;> simp [SectionHeader.layout, Encoding.addressWidth, leastRoom]

theorem symbolEntry_width_lt (e : Encoding) :
    ∀ slot ∈ SymbolEntry.layout e, slot.width < leastRoom := by
  rcases e with ⟨_ | _, order⟩ <;> simp [SymbolEntry.layout, Encoding.addressWidth, leastRoom]

/-! ### Records -/

/-- The encoding that the class byte and the data byte of a file name. -/
def encoding (content : Bytes) : Encoding :=
  .ofBytes (content.getD 4 0).toNat (content.getD 5 0).toNat

/-- The file header.  Addresses take `w` bytes each. -/
def fileHeader (content : Bytes) : FileHeader :=
  let e := encoding content
  let w := e.addressWidth
  let field := uint content e.order
  { elfClass := (content.getD 4 0).toNat
    data := (content.getD 5 0).toNat
    osAbi := (content.getD 7 0).toNat
    abiVersion := (content.getD 8 0).toNat
    type := field 16 2
    machine := field 18 2
    version := field 20 4
    entry := field 24 w
    phoff := field (24 + w) w
    shoff := field (24 + 2 * w) w
    flags := field (24 + 3 * w) 4
    ehsize := field (28 + 3 * w) 2
    phentsize := field (30 + 3 * w) 2
    phnum := field (32 + 3 * w) 2
    shentsize := field (34 + 3 * w) 2
    shnum := field (36 + 3 * w) 2
    shstrndx := field (38 + 3 * w) 2 }

/-- The program header at an offset. -/
def programHeader (e : Encoding) (content : Bytes) (offset : Nat) : ProgramHeader :=
  let field (place width : Nat) := uint content e.order (offset + place) width
  if e.narrow then
    { type := field 0 4, offset := field 4 4, vaddr := field 8 4, paddr := field 12 4
      filesz := field 16 4, memsz := field 20 4, flags := field 24 4, align := field 28 4 }
  else
    { type := field 0 4, flags := field 4 4, offset := field 8 8, vaddr := field 16 8
      paddr := field 24 8, filesz := field 32 8, memsz := field 40 8, align := field 48 8 }

/-- The section header at an offset. -/
def sectionHeader (e : Encoding) (content : Bytes) (offset : Nat) : SectionHeader :=
  let field (place width : Nat) := uint content e.order (offset + place) width
  if e.narrow then
    { name := field 0 4, type := field 4 4, flags := field 8 4, addr := field 12 4
      offset := field 16 4, size := field 20 4, link := field 24 4, info := field 28 4
      addralign := field 32 4, entsize := field 36 4 }
  else
    { name := field 0 4, type := field 4 4, flags := field 8 8, addr := field 16 8
      offset := field 24 8, size := field 32 8, link := field 40 4, info := field 44 4
      addralign := field 48 8, entsize := field 56 8 }

/-- The symbol at an offset. -/
def symbolEntry (e : Encoding) (content : Bytes) (offset : Nat) : SymbolEntry :=
  let field (place width : Nat) := uint content e.order (offset + place) width
  if e.narrow then
    { name := field 0 4, value := field 4 4, size := field 8 4, info := field 12 1
      other := field 13 1, shndx := field 14 2 }
  else
    { name := field 0 4, info := field 4 1, other := field 5 1, shndx := field 6 2
      value := field 8 8, size := field 16 8 }

/-! ### Decoding by layout -/

/-- A program header decoded field by field is the one at its offset. -/
theorem decode_programHeader (e : Encoding) (offset : Nat) :
    (ProgramHeader.layout e).decode e.order {} (content.toList.drop offset) =
      programHeader e content offset := by
  -- one case for each address width, as the fields change their order with it
  rcases e with ⟨_ | _, order⟩ <;>
    simp [ProgramHeader.layout, Layout.decode, programHeader, uint, Encoding.addressWidth,
      List.drop_drop, Nat.add_assoc]

/-- A section header decoded field by field is the one at its offset. -/
theorem decode_sectionHeader (e : Encoding) (offset : Nat) :
    (SectionHeader.layout e).decode e.order {} (content.toList.drop offset) =
      sectionHeader e content offset := by
  rcases e with ⟨_ | _, order⟩ <;>
    simp [SectionHeader.layout, Layout.decode, sectionHeader, uint, Encoding.addressWidth,
      List.drop_drop, Nat.add_assoc]

/-- A symbol decoded field by field is the one at its offset. -/
theorem decode_symbolEntry (e : Encoding) (offset : Nat) :
    (SymbolEntry.layout e).decode e.order {} (content.toList.drop offset) =
      symbolEntry e content offset := by
  rcases e with ⟨_ | _, order⟩ <;>
    simp [SymbolEntry.layout, Layout.decode, symbolEntry, uint, Encoding.addressWidth,
      List.drop_drop, Nat.add_assoc]

/-- The identification gives the file header its first four fields. -/
theorem ofIdent_extract (h : Abi.identSize ≤ content.size) :
    FileHeader.ofIdent (content.extract 0 Abi.identSize) =
      { elfClass := (content.getD 4 0).toNat, data := (content.getD 5 0).toNat
        osAbi := (content.getD 7 0).toNat, abiVersion := (content.getD 8 0).toNat } := by
  -- the identification is the front of the content, so that its bytes are those of the content
  have hbyte (i : Nat) (hi : i < 16) : (content.extract 0 Abi.identSize).getD i 0 =
      content.getD i 0 := by
    have hsize : 16 ≤ content.size := h
    simp only [Array.getD_eq_getD_getElem?, Abi.identSize, Array.getElem?_extract]
    rw [if_pos (by omega), Nat.zero_add]
  simp only [FileHeader.ofIdent, Abi.classIndex, Abi.dataIndex, Abi.osAbiIndex, Abi.abiVersionIndex,
    hbyte 4 (by omega), hbyte 5 (by omega), hbyte 7 (by omega), hbyte 8 (by omega)]

/-- The file header decoded field by field, from the identification on, is the one at its offsets.
    -/
theorem decode_fileHeader (h : Abi.identSize ≤ content.size) :
    (FileHeader.layout (encoding content)).decode (encoding content).order
        (FileHeader.ofIdent (content.extract 0 Abi.identSize))
        (content.toList.drop Abi.identSize) =
      fileHeader content := by
  rw [ofIdent_extract h]
  simp only [fileHeader]
  -- the file header keeps the order of its fields, but addresses move those behind them
  rcases encoding content with ⟨_ | _, order⟩ <;>
    simp [FileHeader.layout, Layout.decode, uint, Encoding.addressWidth, List.drop_drop,
      Abi.identSize]

end Stored

end ElfInspect
