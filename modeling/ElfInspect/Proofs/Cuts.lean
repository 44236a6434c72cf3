import ElfInspect.Proofs.Extents
import ElfInspect.Proofs.Transcripts

namespace ElfInspect

/-!
# Where records are cut

A record that is complete takes up its own bytes and no others.  One that is not is cut within some
field, and that field is what the decoder reports: its width, and how many bytes are left for it.
Neither depends on how many bytes the device hands out at a time.

* `FileHeader.widths`, `ProgramHeader.widths`, `SectionHeader.widths`, `SymbolEntry.widths` — the
  widths of the fields in physical order, as the format gives them;
* `Layout.CutAt` — the field that is the first not to fit;
* `Measured read widths record` — a decoder takes fields of these widths, no more and no less;
* `records_measured` — the decoders of all four kinds of records do.
-/

variable {α β : Type}

/-! ### Widths -/

/-- The widths of the fields of a file header behind the identification. -/
def FileHeader.widths (cls : UInt8) : List Nat :=
  let address := if cls = 1 then 4 else 8
  [2, 2, 4, address, address, address, 4, 2, 2, 2, 2, 2, 2]

/-- The widths of the fields of a program header.  The flags come seventh or second. -/
def ProgramHeader.widths (cls : UInt8) : List Nat :=
  if cls = 1 then [4, 4, 4, 4, 4, 4, 4, 4] else [4, 4, 8, 8, 8, 8, 8, 8]

/-- The widths of the fields of a section header. -/
def SectionHeader.widths (cls : UInt8) : List Nat :=
  let address := if cls = 1 then 4 else 8
  [4, 4, address, address, address, address, 4, 4, address, address]

/-- The widths of the fields of a symbol.  Value and size come second or last. -/
def SymbolEntry.widths (cls : UInt8) : List Nat :=
  if cls = 1 then [4, 4, 4, 1, 1, 2] else [4, 1, 1, 2, 8, 8]

section Layouts

variable (cls data : UInt8)

/-- The layout has these fields, whatever the class and data bytes. -/
theorem FileHeader.widths_layout :
    (layout (.ofBytes cls.toNat data.toNat)).widths = widths cls := by
  rw [SymbolPlan.encoding_eq]
  by_cases hcls : cls = 1 <;>
    simp [hcls, layout, Layout.widths, widths, Encoding.addressWidth]

theorem ProgramHeader.widths_layout :
    (layout (.ofBytes cls.toNat data.toNat)).widths = widths cls := by
  rw [SymbolPlan.encoding_eq]
  by_cases hcls : cls = 1 <;>
    simp [hcls, layout, Layout.widths, widths, Encoding.addressWidth]

theorem SectionHeader.widths_layout :
    (layout (.ofBytes cls.toNat data.toNat)).widths = widths cls := by
  rw [SymbolPlan.encoding_eq]
  by_cases hcls : cls = 1 <;>
    simp [hcls, layout, Layout.widths, widths, Encoding.addressWidth]

theorem SymbolEntry.widths_layout :
    (layout (.ofBytes cls.toNat data.toNat)).widths = widths cls := by
  rw [SymbolPlan.encoding_eq]
  by_cases hcls : cls = 1 <;>
    simp [hcls, layout, Layout.widths, widths, Encoding.addressWidth]

end Layouts

/-! ### The field that does not fit -/

namespace Layout

/-- The field with index `j` is the first that does not fit into the bytes that are available: those
    before it take all but `actual` bytes, and it takes `expected`, which are more. -/
structure CutAt (widths : List Nat) (available j expected actual : Nat) : Prop where
  field : widths[j]? = some expected
  left : (widths.take j).sum + actual = available
  short : actual < expected

section CutAt

variable {width available j expected actual : Nat} {widths : List Nat}

/-- The first field is the one if it needs more than is available. -/
theorem cutAt_zero_iff :
    CutAt (width :: widths) available 0 expected actual ↔
      available < width ∧ expected = width ∧ actual = available := by
  constructor
  · rintro ⟨hfield, hleft, hshort⟩
    rw [List.getElem?_cons_zero, Option.some.injEq] at hfield
    rw [List.take_zero, List.sum_nil, Nat.zero_add] at hleft
    exact ⟨by omega, hfield.symm, hleft⟩
  · rintro ⟨hshort, rfl, rfl⟩
    exact ⟨rfl, Nat.zero_add _, hshort⟩

/-- Any other is the one if the first field fits and it is the one among the rest. -/
theorem cutAt_succ_iff :
    CutAt (width :: widths) available (j + 1) expected actual ↔
      width ≤ available ∧ CutAt widths (available - width) j expected actual := by
  have hsum : ((width :: widths).take (j + 1)).sum = width + (widths.take j).sum := by
    rw [List.take_succ_cons, List.sum_cons]
  constructor
  · rintro ⟨hfield, hleft, hshort⟩
    rw [hsum] at hleft
    exact ⟨by omega, hfield, by omega, hshort⟩
  · rintro ⟨hfits, hfield, hleft, hshort⟩
    exact ⟨hfield, by rw [hsum]; omega, hshort⟩

/-- `cut` finds the first field that does not fit. -/
theorem cut_eq_some_iff :
    cut widths available = some (expected, actual) ↔
      ∃ j, CutAt widths available j expected actual := by
  induction widths generalizing available with
  | nil => exact ⟨nofun, fun ⟨_, h⟩ => nomatch h.field⟩
  | cons width rest ih =>
    rw [cut]
    by_cases hfits : width ≤ available
    · -- the first field is not the one, so that it is found among the others
      rw [if_pos hfits, ih]
      constructor
      · rintro ⟨j, h⟩
        exact ⟨j + 1, cutAt_succ_iff.mpr ⟨hfits, h⟩⟩
      · rintro ⟨_ | j, h⟩
        · exact absurd hfits (Nat.not_le_of_lt (cutAt_zero_iff.mp h).1)
        · exact ⟨j, (cutAt_succ_iff.mp h).2⟩
    · rw [if_neg hfits, Option.some.injEq, Prod.mk.injEq]
      constructor
      · rintro ⟨rfl, rfl⟩
        exact ⟨0, cutAt_zero_iff.mpr ⟨by omega, rfl, rfl⟩⟩
      · rintro ⟨_ | j, h⟩
        · obtain ⟨-, rfl, rfl⟩ := cutAt_zero_iff.mp h
          exact ⟨rfl, rfl⟩
        · exact absurd (cutAt_succ_iff.mp h).1 hfits

end CutAt

end Layout

/-! ### Decoders -/

/-- The decoder takes fields of these widths, and what it makes of them depends on their bytes only.
    From every device that delivers, and wherever it stands, it moves past exactly these bytes,
    whether or not it makes a value of them.  Where fewer are left it reports the first field that
    does not fit, and the device stands at the end of its content. -/
structure Measured (read : Decode α) (widths : List Nat)
    (record : List UInt8 → Except DecodeError α) : Prop where
  whole : ∀ (content : Bytes) (medium : Medium) (position : Nat),
    position + widths.sum ≤ content.size →
    Yields (Device.Serves content medium position) read
      (record ((content.toList.drop position).take widths.sum))
      (Device.Serves content medium (position + widths.sum))
  cut : ∀ (content : Bytes) (medium : Medium) (position : Nat), position ≤ content.size →
    content.size < position + widths.sum →
    ∃ j expected actual, Layout.CutAt widths (content.size - position) j expected actual ∧
      Yields (Device.Serves content medium position) read (.error (.truncated expected actual))
        (Device.Serves content medium content.size)

/-- Reading by a layout takes the fields of the layout. -/
theorem Layout.measured (layout : Layout α) (order : ByteOrder) (start : α)
    (hwidths : ∀ slot ∈ layout, slot.width < leastRoom) :
    Measured (layout.read order start) layout.widths
      fun bytes => .ok (layout.decode order start bytes) := by
  have hread (content : Bytes) (medium : Medium) (position : Nat) :
      Yields (Device.Serves content medium position) (layout.read order start)
        (Stored.record content layout order start position)
        (Device.Serves content medium (position + min layout.size (content.size - position))) :=
    Yields.readLayout start hwidths
  constructor
  · intro content medium position hsize
    -- all fields fit, so that the record is decoded
    have hfits : layout.size ≤ content.size - position := by
      show layout.widths.sum ≤ _
      omega
    have hwhole := hread content medium position
    rw [Stored.record_of_le hfits, Nat.min_eq_left hfits, ← Stored.decode_take] at hwhole
    exact hwhole
  · intro content medium position hposition hsize
    -- some field does not fit, and reading takes what is left of the content
    have hshort : content.size - position < layout.size := by
      show _ < layout.widths.sum
      omega
    obtain ⟨expected, actual, hcut⟩ := Layout.exists_cut hshort
    obtain ⟨j, hj⟩ := Layout.cut_eq_some_iff.mp hcut
    have hrest := hread content medium position
    rw [Stored.record_of_cut order start hcut, Nat.min_eq_right (Nat.le_of_lt hshort),
      Nat.add_sub_cancel' hposition] at hrest
    exact ⟨j, expected, actual, hj, hrest⟩

/-- What is made of a record afterwards leaves the device alone. -/
theorem Measured.andThen {read : Decode α} {widths : List Nat} {record : List UInt8 → α}
    (h : Measured read widths fun bytes => .ok (record bytes)) (f : α → Except DecodeError β) :
    Measured (read >>= fun a => Load.ofExcept (f a)) widths fun bytes => f (record bytes) := by
  constructor
  · intro content medium position hsize
    exact (h.whole content medium position hsize).bind_ok (Yields.ofExcept _)
  · intro content medium position hposition hsize
    obtain ⟨j, expected, actual, hj, hread⟩ := h.cut content medium position hposition hsize
    exact ⟨j, expected, actual, hj, hread.bind_error⟩

/-- The name of a symbol is looked up once its entry has been read. -/
theorem Symbol.read_eq (e : Encoding) (strings : Bytes) :
    read e strings =
      SymbolEntry.read e >>= fun entry => Load.ofExcept (entry.resolve strings) := by
  unfold read
  congr 1
  funext entry
  cases entry.resolve strings <;> rfl

/-- **Records.**  Whatever the class and data bytes, the decoders of the four kinds of records take
    exactly the fields that the format gives them, and report the field in which a record is cut.  A
    symbol takes its bytes also when its name cannot be found. -/
theorem records_measured (cls data : UInt8) (strings : Bytes) :
    let e := Encoding.ofBytes cls.toNat data.toNat
    (∀ ident : Bytes, ident.size = Abi.identSize → ident.getD 4 0 = cls → ident.getD 5 0 = data →
      Measured (FileHeader.read ident) (FileHeader.widths cls)
        fun bytes => .ok ((FileHeader.layout e).decode e.order (.ofIdent ident) bytes)) ∧
    Measured (ProgramHeader.read e) (ProgramHeader.widths cls)
      (fun bytes => .ok ((ProgramHeader.layout e).decode e.order {} bytes)) ∧
    Measured (SectionHeader.read e) (SectionHeader.widths cls)
      (fun bytes => .ok ((SectionHeader.layout e).decode e.order {} bytes)) ∧
    Measured (Symbol.read e strings) (SymbolEntry.widths cls)
      (fun bytes => ((SymbolEntry.layout e).decode e.order {} bytes).resolve strings) := by
  intro e
  refine ⟨fun ident hsize hcls hdata => ?fileHeader, ?programHeader, ?sectionHeader, ?symbol⟩
  case fileHeader =>
    have hident : Abi.abiVersionIndex < ident.size := by rw [hsize]; decide
    have hencoding : (FileHeader.ofIdent ident).encoding = e := by
      subst hcls hdata
      rfl
    rw [FileHeader.read_of_lt hident, hencoding, ← FileHeader.widths_layout cls data]
    exact Layout.measured _ _ _ (Stored.fileHeader_width_lt e)
  case programHeader =>
    rw [← ProgramHeader.widths_layout cls data]
    exact Layout.measured _ _ _ (Stored.programHeader_width_lt e)
  case sectionHeader =>
    rw [← SectionHeader.widths_layout cls data]
    exact Layout.measured _ _ _ (Stored.sectionHeader_width_lt e)
  case symbol =>
    rw [Symbol.read_eq, ← SymbolEntry.widths_layout cls data]
    exact (Layout.measured _ _ _ (Stored.symbolEntry_width_lt e)).andThen _

/-- A header is cut within its fourth field, on a device that hands out three bytes at a time, and a
    symbol whose name is not found has still been taken. -/
theorem records_measured_narrowIdent :
    (∃ d, FileHeader.read narrowIdent (.trickling (.replicate 11 7) 3) =
        .error (.truncated 4 3) d ∧ d.position = 11) ∧
    ∃ d, Symbol.read (.ofBytes 2 1) #[] (.ofBytes (.replicate 25 0)) =
        .error (.stringOutside 0 0) d ∧ d.position = 24 := by
  constructor
  -- eleven bytes are left for fields of two, two and four bytes and for addresses of four
  · obtain ⟨hheader, -⟩ := records_measured 1 2 #[]
    obtain ⟨j, expected, actual, hj, hyields⟩ :=
      (hheader narrowIdent (by decide) (by decide) (by decide)).cut (.replicate 11 7) .unbounded 0
        (by decide) (by decide)
    have hcut := Layout.cut_eq_some_iff.mpr ⟨j, hj⟩
    obtain ⟨rfl, rfl⟩ : 4 = expected ∧ 3 = actual :=
      Prod.mk.inj (Option.some.inj ((by decide : Layout.cut _ _ = some (4, 3)).symm.trans hcut))
    obtain ⟨d, hrun, hd⟩ := hyields _ (Device.trickling_serves _ (show 0 < 3 by decide))
    exact ⟨d, hrun, hd.position_eq⟩
  -- the entry is there, and its name is not in the empty string table
  · obtain ⟨-, -, -, hsymbol⟩ := records_measured 2 1 #[]
    obtain ⟨d, hrun, hd⟩ := hsymbol.whole (.replicate 25 0) .memory 0 (by decide) _
      (Device.ofBytes_serves _)
    exact ⟨d, hrun, hd.position_eq⟩

end ElfInspect
