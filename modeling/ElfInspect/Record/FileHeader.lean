import ElfInspect.Layout

namespace ElfInspect

/-!
# The identification bytes and the file header

* `readIdent`: the first sixteen bytes, with magic and version checked;
* `FileHeader` and `FileHeader.layout`: the fields after them;
* `FileHeader.read`: the header of a file whose identification has been read.

The class and data bytes are taken as they are; what they steer is decided by `Encoding.ofBytes`.
-/

/-- The checks on the identification bytes: the magic first, then the version. -/
def checkIdent (ident : Bytes) : Except DecodeError Unit :=
  let magic := ident.toList.take Abi.classIndex
  let version := (ident.getD Abi.versionIndex 0).toNat
  if magic ≠ Abi.magic then .error (.badMagic magic)
  else if version ≠ Abi.currentVersion then .error (.unsupportedVersion version)
  else .ok ()

/-- Reads and checks the identification bytes. -/
def readIdent : Decode Bytes := do
  let ident ← readExact Abi.identSize
  match checkIdent ident with
  | .ok () => return ident
  | .error e => throw e

/-- The file header with the fields taken from the identification bytes.  Addresses of 32-bit
    files are extended with zeros. -/
structure FileHeader where
  elfClass : Nat := 0
  data : Nat := 0
  version : Nat := 0
  type : Nat := 0
  machine : Nat := 0
  osAbi : Nat := 0
  abiVersion : Nat := 0
  entry : Nat := 0
  phoff : Nat := 0
  shoff : Nat := 0
  flags : Nat := 0
  ehsize : Nat := 0
  phentsize : Nat := 0
  phnum : Nat := 0
  shentsize : Nat := 0
  shnum : Nat := 0
  shstrndx : Nat := 0
  deriving Repr, DecidableEq, Inhabited

namespace FileHeader

/-- The encoding of the file. -/
def encoding (h : FileHeader) : Encoding :=
  .ofBytes h.elfClass h.data

/-- Whether addresses take eight bytes. -/
def is64Bit (h : FileHeader) : Bool :=
  !h.encoding.narrow

/-- Whether the least significant byte comes first. -/
def isLittleEndian (h : FileHeader) : Bool :=
  h.encoding.order = .little

/-- The number of hexadecimal digits of an address. -/
def addressDigits (h : FileHeader) : Nat :=
  if h.is64Bit then 16 else 8

/-- The fields after the identification bytes. -/
def layout (e : Encoding) : Layout FileHeader :=
  [⟨2, type, fun v h => { h with type := v }⟩,
   ⟨2, machine, fun v h => { h with machine := v }⟩,
   ⟨4, version, fun v h => { h with version := v }⟩,
   ⟨e.addressWidth, entry, fun v h => { h with entry := v }⟩,
   ⟨e.addressWidth, phoff, fun v h => { h with phoff := v }⟩,
   ⟨e.addressWidth, shoff, fun v h => { h with shoff := v }⟩,
   ⟨4, flags, fun v h => { h with flags := v }⟩,
   ⟨2, ehsize, fun v h => { h with ehsize := v }⟩,
   ⟨2, phentsize, fun v h => { h with phentsize := v }⟩,
   ⟨2, phnum, fun v h => { h with phnum := v }⟩,
   ⟨2, shentsize, fun v h => { h with shentsize := v }⟩,
   ⟨2, shnum, fun v h => { h with shnum := v }⟩,
   ⟨2, shstrndx, fun v h => { h with shstrndx := v }⟩]

/-- The header as far as the identification bytes determine it. -/
def ofIdent (ident : Bytes) : FileHeader :=
  { elfClass := (ident.getD Abi.classIndex 0).toNat
    data := (ident.getD Abi.dataIndex 0).toNat
    osAbi := (ident.getD Abi.osAbiIndex 0).toNat
    abiVersion := (ident.getD Abi.abiVersionIndex 0).toNat }

/-- Asks for an identification byte at an index. -/
def requireIdent (ident : Bytes) (index : Nat) : Decode Unit :=
  if index < ident.size then pure () else throw (.misuse .shortIdent)

/-- Reads the header from just after the identification bytes.  Class and data have to be known
    before anything is read, the other two bytes only afterwards. -/
def read (ident : Bytes) : Decode FileHeader := do
  requireIdent ident Abi.dataIndex
  let start := ofIdent ident
  let header ← (layout start.encoding).read start.encoding.order start
  requireIdent ident Abi.abiVersionIndex
  return header

/-- The number of bytes of the header, identification included. -/
def totalSize (e : Encoding) : Nat :=
  Abi.identSize + (layout e).size

@[simp]
theorem totalSize_narrow (order : ByteOrder) : totalSize ⟨true, order⟩ = 52 := rfl

@[simp]
theorem totalSize_wide (order : ByteOrder) : totalSize ⟨false, order⟩ = 64 := rfl

end FileHeader

end ElfInspect
