import ElfInspect.Proofs.Records
import ElfInspect.Proofs.StringTable
import ElfInspect.Record.FileHeader
import ElfInspect.Record.ProgramHeader
import ElfInspect.Record.SectionHeader
import ElfInspect.Record.Symbol

namespace ElfInspect

/-!
# Bytes in their places

What has been laid out is found again: a record decodes to the record that was encoded, as long as
its fields fit their widths, and a name is looked up where it was put, as long as it has no NUL.

* `decodeUint_encodeUint`, `Layout.decode_encode` — encoded numbers and records, with more bytes
  behind them;
* `Stored.Carries content offset bytes` — the content has the bytes at the offset;
* `Stored.Carries.item` — of the pieces that are laid out one after another, each is carried behind
  the ones before it;
* `Stored.Carries.decode`, `Stored.Carries.extract`, `Stored.Carries.bytesAt` — what is carried at
  an offset is what is read there, as a record, as a range of bytes, and as a name.
-/

variable {α : Type}

/-! ### Numbers and records -/

/-- The digits of a number to the base of 256 add up to the number, as long as it has no more. -/
theorem decodeLittle_encodeLittle {width n : Nat} (h : n < 256 ^ width) :
    decodeLittle (encodeLittle width n) = n := by
  induction width generalizing n with
  | zero =>
    rw [Nat.pow_zero] at h
    show 0 = n
    omega
  | succ width ih =>
    rw [Nat.pow_succ] at h
    have hrest := ih (n := n / 256) (by omega)
    show (UInt8.ofNat n).toNat + 256 * decodeLittle (encodeLittle width (n / 256)) = n
    rw [hrest, UInt8.toNat_ofNat']
    omega

/-- A number that fits its width is decoded to itself. -/
theorem decodeUint_encodeUint (order : ByteOrder) {width n : Nat} (h : n < 256 ^ width) :
    decodeUint order (encodeUint order width n) = n := by
  cases order with
  | little => exact decodeLittle_encodeLittle h
  | big =>
    show decodeLittle (encodeLittle width n).reverse.reverse = n
    rw [List.reverse_reverse, decodeLittle_encodeLittle h]

namespace Layout

/-- A record with the fields of a layout taken from another one. -/
def transfer (layout : Layout α) (record start : α) : α :=
  layout.foldl (fun result slot => slot.set (slot.get record) result) start

/-- An encoded record is decoded to its fields, whatever follows it. -/
theorem decode_encode {layout : Layout α} (order : ByteOrder) {record : α}
    (hfits : layout.Fits record) (start : α) (rest : List UInt8) :
    layout.decode order start (layout.encode order record ++ rest) =
      layout.transfer record start := by
  induction layout generalizing start with
  | nil => rfl
  | cons slot layout ih =>
    have hslot : slot.get record < 256 ^ slot.width := hfits slot List.mem_cons_self
    have hlayout : Fits layout record := fun s hs => hfits s (List.mem_cons_of_mem slot hs)
    have hencode : encode (slot :: layout) order record =
        encodeUint order slot.width (slot.get record) ++ encode layout order record := rfl
    have hlength := length_encodeUint order slot.width (slot.get record)
    -- the first field is taken off, and the others are decoded from what is left
    rw [hencode, List.append_assoc, decode, List.take_left' hlength, List.drop_left' hlength,
      decodeUint_encodeUint order hslot]
    exact ih hlayout (slot.set (slot.get record) start)

/-- The number of bytes of a table. -/
theorem length_encodeAll (layout : Layout α) (order : ByteOrder) (records : List α) :
    (records.flatMap (layout.encode order)).length = records.length * layout.size := by
  induction records with
  | nil => exact (Nat.zero_mul _).symm
  | cons record records ih =>
    rw [List.flatMap_cons, List.length_append, length_encode, ih, List.length_cons, Nat.succ_mul,
      Nat.add_comm]

end Layout

/-- The identification bytes determine the fields that the layout does not have. -/
theorem FileHeader.transfer_layout (e : Encoding) (h : FileHeader) :
    (layout e).transfer h { elfClass := h.elfClass, data := h.data, osAbi := h.osAbi,
                            abiVersion := h.abiVersion } = h := rfl

/-- The layout has all fields of a program header. -/
theorem ProgramHeader.transfer_layout (e : Encoding) (h : ProgramHeader) :
    (layout e).transfer h {} = h := by
  rcases e with ⟨_ | _, order⟩ <;> rfl

/-- The layout has all fields of a section header. -/
theorem SectionHeader.transfer_layout (e : Encoding) (h : SectionHeader) :
    (layout e).transfer h {} = h := rfl

/-- The layout has all fields of a symbol. -/
theorem SymbolEntry.transfer_layout (e : Encoding) (s : SymbolEntry) :
    (layout e).transfer s {} = s := by
  rcases e with ⟨_ | _, order⟩ <;> rfl

/-! ### Widths -/

/-- Type and flags take four bytes, and everything else the width of an address. -/
theorem ProgramHeader.fits_iff {e : Encoding} {h : ProgramHeader} :
    (layout e).Fits h ↔ h.type < 256 ^ 4 ∧ h.flags < 256 ^ 4 ∧ h.offset < 256 ^ e.addressWidth ∧
      h.vaddr < 256 ^ e.addressWidth ∧ h.paddr < 256 ^ e.addressWidth ∧
      h.filesz < 256 ^ e.addressWidth ∧ h.memsz < 256 ^ e.addressWidth ∧
      h.align < 256 ^ e.addressWidth := by
  rcases e with ⟨_ | _, order⟩
  · simp [Layout.Fits, layout]
  · -- the flags are the last but one here
    simp only [Layout.Fits, layout, if_true, List.cons_append, List.nil_append, List.mem_cons,
      List.not_mem_nil, or_false, forall_eq_or_imp, forall_eq]
    constructor
    · rintro ⟨htype, hoffset, hvaddr, hpaddr, hfilesz, hmemsz, hflags, halign⟩
      exact ⟨htype, hflags, hoffset, hvaddr, hpaddr, hfilesz, hmemsz, halign⟩
    · rintro ⟨htype, hflags, hoffset, hvaddr, hpaddr, hfilesz, hmemsz, halign⟩
      exact ⟨htype, hoffset, hvaddr, hpaddr, hfilesz, hmemsz, hflags, halign⟩

/-- Name, type, link and info take four bytes, and everything else the width of an address. -/
theorem SectionHeader.fits_iff {e : Encoding} {h : SectionHeader} :
    (layout e).Fits h ↔ h.name < 256 ^ 4 ∧ h.type < 256 ^ 4 ∧ h.flags < 256 ^ e.addressWidth ∧
      h.addr < 256 ^ e.addressWidth ∧ h.offset < 256 ^ e.addressWidth ∧
      h.size < 256 ^ e.addressWidth ∧ h.link < 256 ^ 4 ∧ h.info < 256 ^ 4 ∧
      h.addralign < 256 ^ e.addressWidth ∧ h.entsize < 256 ^ e.addressWidth := by
  simp [Layout.Fits, layout]

/-- Value and size take the width of an address. -/
theorem SymbolEntry.fits_iff {e : Encoding} {s : SymbolEntry} :
    (layout e).Fits s ↔ s.name < 256 ^ 4 ∧ s.value < 256 ^ e.addressWidth ∧
      s.size < 256 ^ e.addressWidth ∧ s.info < 256 ∧ s.other < 256 ∧ s.shndx < 256 ^ 2 := by
  rcases e with ⟨_ | _, order⟩
  · -- value and size come last here
    simp only [Layout.Fits, layout, if_false, Bool.false_eq_true, List.cons_append,
      List.nil_append, List.mem_cons, List.not_mem_nil, or_false, forall_eq_or_imp, forall_eq]
    constructor
    · rintro ⟨hname, hinfo, hother, hshndx, hvalue, hsize⟩
      exact ⟨hname, hvalue, hsize, hinfo, hother, hshndx⟩
    · rintro ⟨hname, hvalue, hsize, hinfo, hother, hshndx⟩
      exact ⟨hname, hinfo, hother, hshndx, hvalue, hsize⟩
  · simp [Layout.Fits, layout]

/-- What fits the narrow addresses fits the addresses of every encoding. -/
theorem Encoding.lt_pow_addressWidth (e : Encoding) {n : Nat} (h : n < 256 ^ 4) :
    n < 256 ^ e.addressWidth := by
  rcases e with ⟨_ | _, order⟩
  · exact Nat.lt_trans h (show 256 ^ 4 < 256 ^ 8 by decide)
  · exact h

/-- A program header of a narrow file can be written in every encoding. -/
theorem ProgramHeader.fits_of_narrow {order : ByteOrder} {h : ProgramHeader}
    (hfits : (layout ⟨true, order⟩).Fits h) (e : Encoding) : (layout e).Fits h := by
  obtain ⟨htype, hflags, hoffset, hvaddr, hpaddr, hfilesz, hmemsz, halign⟩ := fits_iff.mp hfits
  have hwiden (n : Nat) (hn : n < 256 ^ 4) := e.lt_pow_addressWidth hn
  exact fits_iff.mpr ⟨htype, hflags, hwiden _ hoffset, hwiden _ hvaddr, hwiden _ hpaddr,
    hwiden _ hfilesz, hwiden _ hmemsz, hwiden _ halign⟩

/-- A section header of a narrow file can be written in every encoding. -/
theorem SectionHeader.fits_of_narrow {order : ByteOrder} {h : SectionHeader}
    (hfits : (layout ⟨true, order⟩).Fits h) (e : Encoding) : (layout e).Fits h := by
  obtain ⟨hname, htype, hflags, haddr, hoffset, hsize, hlink, hinfo, haddralign, hentsize⟩ :=
    fits_iff.mp hfits
  have hwiden (n : Nat) (hn : n < 256 ^ 4) := e.lt_pow_addressWidth hn
  exact fits_iff.mpr ⟨hname, htype, hwiden _ hflags, hwiden _ haddr, hwiden _ hoffset,
    hwiden _ hsize, hlink, hinfo, hwiden _ haddralign, hwiden _ hentsize⟩

/-! ### Carried bytes -/

/-- One of some pieces stands between those before it and those after it. -/
theorem flatMap_split (f : α → List UInt8) {pieces : List α} {i : Nat} {piece : α}
    (h : pieces[i]? = some piece) :
    pieces.flatMap f =
      (pieces.take i).flatMap f ++ (f piece ++ (pieces.drop (i + 1)).flatMap f) := by
  obtain ⟨hi, hget⟩ := List.getElem?_eq_some_iff.mp h
  have hsplit : pieces = pieces.take i ++ piece :: pieces.drop (i + 1) := by
    rw [← hget, ← List.drop_eq_getElem_cons hi, List.take_append_drop]
  rw [← List.flatMap_cons, ← List.flatMap_append, ← hsplit]

namespace Stored

/-- The content has the given bytes at an offset. -/
def Carries (content : Bytes) (offset : Nat) (bytes : List UInt8) : Prop :=
  bytes <+: content.toList.drop offset

namespace Carries

variable {content : Bytes} {offset : Nat} {bytes more : List UInt8}

/-- The first part of what is carried. -/
theorem left (h : Carries content offset (bytes ++ more)) : Carries content offset bytes :=
  (List.prefix_append bytes more).trans h

/-- The second part of what is carried. -/
theorem right (h : Carries content offset (bytes ++ more)) :
    Carries content (offset + bytes.length) more := by
  obtain ⟨rest, hrest⟩ := h
  refine ⟨rest, ?_⟩
  rw [← List.drop_drop, ← hrest, List.append_assoc, List.drop_left]

/-- Each piece of what is laid out one after another is carried behind those before it. -/
theorem item {pieces : List α} {f : α → List UInt8} (h : Carries content offset (pieces.flatMap f))
    {i : Nat} {piece : α} (hpiece : pieces[i]? = some piece) :
    Carries content (offset + ((pieces.take i).flatMap f).length) (f piece) := by
  rw [flatMap_split f hpiece] at h
  exact h.right.left

theorem length_le (h : Carries content offset bytes) : bytes.length ≤ content.size - offset := by
  have hle := List.IsPrefix.length_le h
  rwa [List.length_drop, Array.length_toList] at hle

/-- A record of a table that is carried. -/
theorem record {layout : Layout α} {order : ByteOrder} {records : List α}
    (h : Carries content offset (records.flatMap (layout.encode order))) {i : Nat} {r : α}
    (hr : records[i]? = some r) :
    Carries content (offset + i * layout.size) (layout.encode order r) := by
  have hi : i < records.length := (List.getElem?_eq_some_iff.mp hr).1
  have hlength := Layout.length_encodeAll layout order (records.take i)
  rw [List.length_take_of_le (Nat.le_of_lt hi)] at hlength
  rw [← hlength]
  exact h.item hr

/-- Carried bytes are the bytes of their range. -/
theorem extract (h : Carries content offset bytes) :
    content.extract offset (offset + bytes.length) = bytes.toArray := by
  have htake := List.prefix_iff_eq_take.mp h
  rw [← Array.toList_inj, Array.toList_extract, List.extract_eq_take_drop,
    Nat.add_sub_cancel_left, ← htake]

/-- A carried record is decoded to its fields. -/
theorem decode {layout : Layout α} {order : ByteOrder} {record : α} (hfits : layout.Fits record)
    (h : Carries content offset (layout.encode order record)) (start : α) :
    layout.decode order start (content.toList.drop offset) = layout.transfer record start := by
  obtain ⟨rest, hrest⟩ := h
  rw [← hrest, Layout.decode_encode order hfits]

/-- A carried name is found, unless it has a NUL of its own. -/
theorem bytesAt {name : String} (hname : '\x00' ∉ name.toList)
    (h : Carries content offset (StringTable.terminated name)) :
    StringTable.bytesAt content offset = Utf8.encode name.toList := by
  obtain ⟨rest, hrest⟩ := h
  have hbytes : ∀ b ∈ Utf8.encode name.toList, decide (b ≠ 0) = true := by
    intro b hb
    exact decide_eq_true fun hzero => Utf8.zero_notMem_encode hname (hzero ▸ hb)
  rw [StringTable.bytesAt, ← hrest, StringTable.terminated, List.append_assoc,
    List.takeWhile_append_of_pos hbytes]
  exact List.append_nil _

end Carries

end Stored

end ElfInspect
