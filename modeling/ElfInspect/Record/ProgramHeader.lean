import ElfInspect.Layout

namespace ElfInspect

/-!
# Program headers

The header of a segment.  The flags stand near the end of a 32-bit record and second in a 64-bit
one.
-/

/-- The header of a segment. -/
structure ProgramHeader where
  type : Nat := 0
  flags : Nat := 0
  offset : Nat := 0
  vaddr : Nat := 0
  paddr : Nat := 0
  filesz : Nat := 0
  memsz : Nat := 0
  align : Nat := 0
  deriving Repr, DecidableEq, Inhabited

namespace ProgramHeader

/-- The fields of a record in physical order. -/
def layout (e : Encoding) : Layout ProgramHeader :=
  let typeSlot : Slot ProgramHeader := ⟨4, type, fun v h => { h with type := v }⟩
  let flagsSlot : Slot ProgramHeader := ⟨4, flags, fun v h => { h with flags := v }⟩
  let places : Layout ProgramHeader :=
    [⟨e.addressWidth, offset, fun v h => { h with offset := v }⟩,
     ⟨e.addressWidth, vaddr, fun v h => { h with vaddr := v }⟩,
     ⟨e.addressWidth, paddr, fun v h => { h with paddr := v }⟩,
     ⟨e.addressWidth, filesz, fun v h => { h with filesz := v }⟩,
     ⟨e.addressWidth, memsz, fun v h => { h with memsz := v }⟩]
  let alignSlot : Slot ProgramHeader :=
    ⟨e.addressWidth, align, fun v h => { h with align := v }⟩
  if e.narrow then typeSlot :: places ++ [flagsSlot, alignSlot]
  else typeSlot :: flagsSlot :: places ++ [alignSlot]

/-- Reads one record. -/
def read (e : Encoding) : Decode ProgramHeader :=
  (layout e).read e.order {}

/-- The number of bytes of a record. -/
def size (e : Encoding) : Nat :=
  (layout e).size

@[simp]
theorem size_narrow (order : ByteOrder) : size ⟨true, order⟩ = 32 := rfl

@[simp]
theorem size_wide (order : ByteOrder) : size ⟨false, order⟩ = 56 := rfl

end ProgramHeader

end ElfInspect
