import ElfInspect.Layout
import ElfInspect.StringTable

namespace ElfInspect

/-!
# Symbols

A symbol table is a sequence of entries; 32-bit and 64-bit entries hold the same fields in
different orders.  The name of an entry is an offset into a string table.

* `SymbolEntry` and `SymbolEntry.layout`: the stored form;
* `Symbol` and `SymbolEntry.resolve`: the entry with its name looked up and its packed bytes split;
* `Symbol.decodeTable`: all symbols of a table.
-/

/-- A stored symbol.  `info` packs binding and type, `other` holds the visibility. -/
structure SymbolEntry where
  name : Nat := 0
  value : Nat := 0
  size : Nat := 0
  info : Nat := 0
  other : Nat := 0
  shndx : Nat := 0
  deriving Repr, DecidableEq, Inhabited

/-- A symbol with its name. -/
structure Symbol where
  name : String
  value : Nat
  size : Nat
  shndx : Nat
  type : Nat
  binding : Nat
  visibility : Nat
  deriving Repr, DecidableEq, Inhabited

namespace SymbolEntry

/-- The fields of an entry in physical order. -/
def layout (e : Encoding) : Layout SymbolEntry :=
  let nameSlot : Slot SymbolEntry := ⟨4, name, fun v s => { s with name := v }⟩
  let numbers : Layout SymbolEntry :=
    [⟨e.addressWidth, value, fun v s => { s with value := v }⟩,
     ⟨e.addressWidth, size, fun v s => { s with size := v }⟩]
  let packed : Layout SymbolEntry :=
    [⟨1, info, fun v s => { s with info := v }⟩,
     ⟨1, other, fun v s => { s with other := v }⟩,
     ⟨2, shndx, fun v s => { s with shndx := v }⟩]
  if e.narrow then nameSlot :: numbers ++ packed else nameSlot :: packed ++ numbers

/-- Reads one entry. -/
def read (e : Encoding) : Decode SymbolEntry :=
  (layout e).read e.order {}

/-- The number of bytes of an entry. -/
def recordSize (e : Encoding) : Nat :=
  (layout e).size

@[simp]
theorem recordSize_narrow (order : ByteOrder) : recordSize ⟨true, order⟩ = Abi.symbolSize32 := rfl

@[simp]
theorem recordSize_wide (order : ByteOrder) : recordSize ⟨false, order⟩ = Abi.symbolSize64 := rfl

/-- The symbol of an entry, with its name found in a string table. -/
def resolve (strings : Bytes) (entry : SymbolEntry) : Except DecodeError Symbol := do
  let name ← StringTable.lookup strings entry.name
  return { name, value := entry.value, size := entry.size, shndx := entry.shndx
           type := entry.info % 16, binding := entry.info / 16, visibility := entry.other % 4 }

end SymbolEntry

namespace Symbol

/-- Reads one entry and looks up its name. -/
def read (e : Encoding) (strings : Bytes) : Decode Symbol := do
  let entry ← SymbolEntry.read e
  match entry.resolve strings with
  | .ok symbol => return symbol
  | .error cause => throw cause

/-- The symbols of a table.  All whole entries are decoded first; what is left behind them is a
    truncated entry. -/
def decodeTable (data strings : Bytes) (e : Encoding) : Except DecodeError (List Symbol) :=
  let size := SymbolEntry.recordSize e
  match repeatDecode (data.size / size) (read e strings) (Device.ofBytes data) with
  | .error cause _ => .error cause
  | .ok symbols _ =>
    if data.size % size = 0 then .ok symbols
    else .error (.truncated size (data.size % size))

end Symbol

end ElfInspect
