import ElfInspect.Abi.Constants
import ElfInspect.Decode

namespace ElfInspect

/-!
# Record layouts

A record is stored as unsigned integers of fixed widths, one after another, in one of two byte
orders.  A `Layout` lists the fields of a record type in their physical order, each with its width
and the way it is taken from a record and put into one.  The same list serves for reading, for
decoding and for encoding.

Main definitions:

* `ByteOrder`, `decodeUint`, `encodeUint`: unsigned integers as bytes;
* `Encoding`: the two properties of a file that steer all decoding, address width and byte order;
* `Layout`, with `Layout.read`, `Layout.decode`, `Layout.encode` and `Layout.size`.
-/

/-! ### Unsigned integers -/

/-- The order of the bytes of an integer. -/
inductive ByteOrder
  | little
  | big
  deriving Repr, DecidableEq, Inhabited

/-- The order that the data encoding byte names: little-endian for one value, and big-endian for
    every other. -/
def ByteOrder.ofData (data : Nat) : ByteOrder :=
  if data = Abi.littleEndian then .little else .big

/-- The number written by bytes with the least significant first. -/
def decodeLittle : List UInt8 → Nat
  | [] => 0
  | b :: rest => b.toNat + 256 * decodeLittle rest

/-- The bytes of a number, the least significant first. -/
def encodeLittle : (width n : Nat) → List UInt8
  | 0, _ => []
  | width + 1, n => UInt8.ofNat n :: encodeLittle width (n / 256)

/-- The number written by bytes in the given order. -/
def decodeUint (order : ByteOrder) (bytes : List UInt8) : Nat :=
  match order with
  | .little => decodeLittle bytes
  | .big => decodeLittle bytes.reverse

/-- The last `width` bytes of a number in the given order. -/
def encodeUint (order : ByteOrder) (width n : Nat) : List UInt8 :=
  match order with
  | .little => encodeLittle width n
  | .big => (encodeLittle width n).reverse

/-- Reads an unsigned integer of `width` bytes. -/
def readUint (order : ByteOrder) (width : Nat) : Decode Nat := do
  let bytes ← readExact width
  return decodeUint order bytes.toList

@[simp]
theorem length_encodeLittle (width n : Nat) : (encodeLittle width n).length = width := by
  induction width generalizing n with
  | zero => rfl
  | succ width ih => simp [encodeLittle, ih]

@[simp]
theorem length_encodeUint (order : ByteOrder) (width n : Nat) :
    (encodeUint order width n).length = width := by
  cases order <;> simp [encodeUint]

/-! ### What steers decoding -/

/-- The address width and the byte order of a file. -/
structure Encoding where
  narrow : Bool
  order : ByteOrder
  deriving Repr, DecidableEq, Inhabited

/-- The encoding that the class byte and the data byte name.  Addresses take four bytes for one
    class value, and eight for every other. -/
def Encoding.ofBytes (cls data : Nat) : Encoding :=
  ⟨cls = Abi.class32, .ofData data⟩

/-- The width of an address. -/
def Encoding.addressWidth (e : Encoding) : Nat :=
  if e.narrow then 4 else 8

/-- Reads an address. -/
def readAddress (e : Encoding) : Decode Nat :=
  readUint e.order e.addressWidth

/-! ### Layouts -/

/-- A field of a record: its width in bytes, its value in a record, and a record with it
    replaced. -/
structure Slot (α : Type) where
  width : Nat
  get : α → Nat
  set : Nat → α → α

/-- The fields of a record in physical order. -/
abbrev Layout (α : Type) := List (Slot α)

namespace Layout

variable {α : Type}

/-- The widths of the fields in physical order. -/
def widths (layout : Layout α) : List Nat :=
  layout.map Slot.width

/-- The number of bytes that consecutive fields take. -/
def total (widths : List Nat) : Nat :=
  widths.foldr (· + ·) 0

/-- The number of bytes of a record. -/
def size (layout : Layout α) : Nat :=
  total layout.widths

/-- Reads the fields one by one into a record. -/
def read (layout : Layout α) (order : ByteOrder) (start : α) : Decode α :=
  match layout with
  | [] => pure start
  | slot :: rest => do
    let value ← readUint order slot.width
    read rest order (slot.set value start)

/-- The record that bytes hold, starting from a record with the fields outside the layout. -/
def decode (layout : Layout α) (order : ByteOrder) (start : α) (bytes : List UInt8) : α :=
  match layout with
  | [] => start
  | slot :: rest =>
    let value := decodeUint order (bytes.take slot.width)
    decode rest order (slot.set value start) (bytes.drop slot.width)

/-- The bytes of a record. -/
def encode (layout : Layout α) (order : ByteOrder) (record : α) : List UInt8 :=
  layout.flatMap fun slot => encodeUint order slot.width (slot.get record)

/-- Every field of the record is within its width. -/
def Fits (layout : Layout α) (record : α) : Prop :=
  ∀ slot ∈ layout, slot.get record < Nat.pow 256 slot.width

instance (layout : Layout α) (record : α) : Decidable (layout.Fits record) :=
  inferInstanceAs (Decidable (∀ slot ∈ layout, slot.get record < Nat.pow 256 slot.width))

/-- A record takes as many bytes as its layout says, whatever it holds. -/
@[simp]
theorem length_encode (layout : Layout α) (order : ByteOrder) (record : α) :
    (layout.encode order record).length = layout.size := by
  induction layout with
  | nil => rfl
  | cons slot rest ih =>
    simp only [encode, size, total, widths] at ih
    simp [encode, size, total, widths, ih]

end Layout

end ElfInspect
