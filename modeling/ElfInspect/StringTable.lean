import ElfInspect.DecodeError

namespace ElfInspect

/-!
# String tables

The content of a string table is a sequence of texts in UTF-8, each ended by a NUL byte.  Names
are given as offsets into it.

* `StringTable.bytesAt`: the bytes from an offset up to the next NUL or the end;
* `StringTable.lookup`: the text at an offset, if the offset lies in the table and the bytes are
  well formed;
* `StringTable.build`: a table that holds given texts, with the offset of each.
-/

namespace StringTable

/-- The bytes from `offset` up to the next NUL, or to the end if there is none. -/
def bytesAt (table : Bytes) (offset : Nat) : List UInt8 :=
  (table.toList.drop offset).takeWhile (· ≠ 0)

/-- The text at an offset.  An offset before the table or at its end is outside. -/
def lookup (table : Bytes) (offset : Int) : Except DecodeError String :=
  if offset < 0 ∨ (table.size : Int) ≤ offset then .error (.stringOutside offset table.size)
  else
    match Utf8.decode (bytesAt table offset.toNat) with
    | .ok chars => .ok (String.ofList chars)
    | .error defect => .error (.invalidText offset defect)

/-- The bytes of a text with the NUL that ends it. -/
def terminated (s : String) : List UInt8 :=
  Utf8.encode s.toList ++ [0]

/-- Adds the texts of a list to a table under construction.  A text that the table already has
    keeps its offset; `offsets` lists the texts with their offsets. -/
def insertAll (table : List UInt8) (offsets : List (String × Nat)) :
    List String → List UInt8 × List (String × Nat)
  | [] => (table, offsets)
  | s :: rest =>
    if offsets.any (fun entry => entry.1 = s) then insertAll table offsets rest
    else insertAll (table ++ terminated s) (offsets ++ [(s, table.length)]) rest

/-- A table that starts with the empty text and holds each of the given texts once, and the offset
    of each. -/
def build (names : List String) : List UInt8 × List (String × Nat) :=
  -- The empty text is at offset zero, where a record without a name points.
  insertAll [0] [("", 0)] names

/-- The offset of a text in a list of offsets. -/
def offsetOf (offsets : List (String × Nat)) (s : String) : Nat :=
  ((offsets.find? fun entry => entry.1 = s).map Prod.snd).getD 0

@[simp]
theorem insertAll_nil (table : List UInt8) (offsets : List (String × Nat)) :
    insertAll table offsets [] = (table, offsets) := rfl

end StringTable

end ElfInspect
