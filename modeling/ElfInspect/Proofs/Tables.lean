import ElfInspect.Proofs.Records
import ElfInspect.Record.SectionHeader

namespace ElfInspect

/-!
# Tables and section contents in stored bytes

What the decoders of tables and of section contents come to on a device that delivers, as functions
of the content alone, and when they succeed on a device in memory.

* `Stored.table`, `Stored.sectionData` — the records of a table and the content of a section, or why
  they cannot be read;
* `Yields.readTable`, `Yields.readContent` — the decoders come to these;
* `Stored.Spans content offset count width` — a range lies within the content;
* `Stored.TableFault`, `Stored.ContentFault` — the causes of failure;
* `Stored.table_of_spans`, `Stored.table_of_fault` — a table that lies within the content is read,
  and any other fails at the first record that does not;
* `Stored.sectionData_eq_ok_iff`, `Stored.sectionData_eq_error_iff` — the content of a section is
  read exactly when it lies within the bytes of the file, or occupies none of them.
-/

variable {α : Type} {content : Bytes} {medium : Medium}

/-! ### Tables -/

/-- The device stands anywhere. -/
def Device.Holds (content : Bytes) (medium : Medium) (d : Device) : Prop :=
  ∃ position, d.Serves content medium position

namespace Stored

/-- The records of a table, or why the first that cannot be read cannot be. -/
def table (content : Bytes) (medium : Medium) (layout : Layout α) (order : ByteOrder) (start : α)
    (offset count : Nat) : Except DecodeError (List α) :=
  match medium.offsetFault? offset with
  | some fault => .error (.seekFailed offset fault)
  | none =>
    (List.range count).mapM fun i =>
      record content layout order start (offset + i * layout.size)

/-- Past the end of the content, it makes no difference how far past. -/
theorem record_min (layout : Layout α) (order : ByteOrder) (start : α) (offset i : Nat) :
    record content layout order start (offset + min (i * layout.size) (content.size - offset)) =
      record content layout order start (offset + i * layout.size) := by
  by_cases h : i * layout.size ≤ content.size - offset
  · rw [Nat.min_eq_left h]
  · -- nothing is left at either offset
    have hpos : layout.size ≠ 0 := by
      intro hzero
      rw [hzero] at h
      omega
    have hleft : content.size - (offset + min (i * layout.size) (content.size - offset)) = 0 := by
      omega
    have hright : content.size - (offset + i * layout.size) = 0 := by omega
    obtain ⟨expected, actual, hcut⟩ :=
      Layout.exists_cut (show 0 < Layout.total layout.widths from Nat.pos_of_ne_zero hpos)
    rw [record_of_cut order start (by rw [hleft, hcut]),
      record_of_cut order start (by rw [hright, hcut])]

end Stored

namespace Yields

/-- A table is read record by record from its offset. -/
theorem readTable {layout : Layout α} {order : ByteOrder} (start : α) (offset count : Nat)
    (hwidths : ∀ slot ∈ layout, slot.width < leastRoom) :
    Yields (Device.Holds content medium)
      (ElfInspect.readTable offset count (layout.read order start))
      (Stored.table content medium layout order start offset count)
      (Device.Holds content medium) := by
  rintro d ⟨position, hd⟩
  rw [Stored.table]
  cases hoffset : medium.offsetFault? offset with
  | some fault =>
    obtain ⟨d', hrun, hd'⟩ := bind_error (seekTo_fault hoffset)
      (f := fun _ => ElfInspect.repeatDecode count (layout.read order start)) d hd
    exact ⟨d', hrun, position, hd'⟩
  | none =>
    -- before the record with index `i` the device stands behind `i` records, or at the end
    have hrecords := repeatDecode
      (f := fun i => Stored.record content layout order start (offset + i * layout.size))
      (P := fun i => Device.Serves content medium
        (offset + min (i * layout.size) (content.size - offset))) count fun i _ => by
      have hrecord : Yields (Device.Serves content medium
          (offset + min (i * layout.size) (content.size - offset))) (layout.read order start) _ _ :=
        readLayout start hwidths
      have hstop : offset + min (i * layout.size) (content.size - offset) + min layout.size
          (content.size - (offset + min (i * layout.size) (content.size - offset))) =
            offset + min ((i + 1) * layout.size) (content.size - offset) := by
        rw [Nat.succ_mul]
        omega
      rw [Stored.record_min, hstop] at hrecord
      exact hrecord
    have hbegin : offset + min (0 * layout.size) (content.size - offset) = offset := by simp
    simp only [hbegin] at hrecords
    obtain ⟨d', hrun, i, -, hd'⟩ := bind_ok (seekTo hoffset)
      (f := fun _ => ElfInspect.repeatDecode count (layout.read order start)) hrecords d hd
    exact ⟨d', hrun, _, hd'⟩

end Yields

/-! ### When a table can be read -/

/-- `count` items of `width` bytes from `offset` on lie within the content, and a memory buffer can
    represent the offset.  An empty range may begin anywhere. -/
def Stored.Spans (content : Bytes) (offset count width : Nat) : Prop :=
  offset < wordLimit ∧ (count = 0 ∨ offset + count * width ≤ content.size)

instance (content : Bytes) (offset count width : Nat) :
    Decidable (Stored.Spans content offset count width) :=
  inferInstanceAs (Decidable (_ ∧ _))

/-- Offsets that are read from a file are never negative, so that in memory only wide ones cannot be
    represented. -/
theorem Medium.memory_offsetFault? (offset : Nat) :
    Medium.memory.offsetFault? offset =
      if wordLimit ≤ offset then some (.offsetTooWide .memory) else none := by
  simp only [offsetFault?]
  by_cases h : wordLimit ≤ offset
  · rw [if_pos (.inl (by omega)), if_pos h]
  · rw [if_neg (by omega), if_neg (by omega), if_neg h]

namespace Stored

/-- Either a range lies within the content, or its offset is too wide, or it runs off the end. -/
theorem spans_or_fault (content : Bytes) (offset count width : Nat) :
    Spans content offset count width ∨ wordLimit ≤ offset ∨
      offset < wordLimit ∧ count ≠ 0 ∧ content.size < offset + count * width := by
  unfold Spans
  omega

/-- Why a table cannot be read from memory: its offset cannot be represented, or it runs off the end
    of the content within a record, of which only the bytes before the end are left. -/
inductive TableFault (content : Bytes) (widths : List Nat) (offset count : Nat) :
    DecodeError → Prop
  | seek (h : wordLimit ≤ offset) :
      TableFault content widths offset count (.seekFailed offset (.offsetTooWide .memory))
  | cut (h : offset < wordLimit) (hcount : count ≠ 0)
      (hsize : content.size < offset + count * Layout.total widths) {expected actual : Nat}
      (hcut : Layout.cut widths ((content.size - offset) % Layout.total widths) =
        some (expected, actual)) :
      TableFault content widths offset count (.truncated expected actual)

variable {layout : Layout α} {order : ByteOrder} {start : α} {offset count : Nat}

/-- The records before the end of the content can be read. -/
theorem record_before_cut {i : Nat} (h : (i + 1) * layout.size ≤ content.size - offset) :
    record content layout order start (offset + i * layout.size) =
      .ok (layout.decode order start (content.toList.drop (offset + i * layout.size))) := by
  rw [Nat.succ_mul] at h
  exact record_of_le (by omega)

/-- A table that lies within the content holds the record at each of its places. -/
theorem table_of_spans (h : Spans content offset count layout.size) :
    table content .memory layout order start offset count =
      .ok ((List.range count).map fun i =>
        layout.decode order start (content.toList.drop (offset + i * layout.size))) := by
  obtain ⟨hoffset, hfits⟩ := h
  rw [table, Medium.memory_offsetFault?, if_neg (by omega)]
  refine mapM_range_of_ok fun i hi => record_before_cut ?_
  have hle := Nat.mul_le_mul_right layout.size (show i + 1 ≤ count by omega)
  omega

/-- A table that runs off the end of the content fails at the record in which it does so. -/
theorem table_of_fault (hpos : 0 < layout.size) {cause : DecodeError}
    (fault : TableFault content layout.widths offset count cause) :
    table content .memory layout order start offset count = .error cause := by
  cases fault with
  | seek h => rw [table, Medium.memory_offsetFault?, if_pos h]
  | cut h hcount hsize hcut =>
    rw [table, Medium.memory_offsetFault?, if_neg (by omega)]
    -- the end of the content falls into the record behind those that fit
    refine mapM_range_of_error (i := (content.size - offset) / layout.size) ?_ ?_ fun j hj => ?_
    · have hcount' : 1 * layout.size ≤ count * layout.size :=
        Nat.mul_le_mul_right layout.size (by omega)
      have hsize' : content.size < offset + count * layout.size := hsize
      exact (Nat.div_lt_iff_lt_mul hpos).mpr (by omega)
    · have hdiv := Nat.div_add_mod' (content.size - offset) layout.size
      have hleft : content.size -
          (offset + (content.size - offset) / layout.size * layout.size) =
            (content.size - offset) % layout.size := by
        omega
      exact record_of_cut order start (by rw [hleft]; exact hcut)
    · have hle := Nat.mul_le_mul_right layout.size (show j + 1 ≤ _ from hj)
      have hdiv := Nat.div_mul_le_self (content.size - offset) layout.size
      exact ⟨_, record_before_cut (by omega)⟩

/-- A table lies within the content, or there is a cause for its failure. -/
theorem spans_or_tableFault (content : Bytes) (offset count : Nat) (hpos : 0 < layout.size) :
    Spans content offset count layout.size ∨
      ∃ cause, TableFault content layout.widths offset count cause := by
  rcases spans_or_fault content offset count layout.size with
    hspans | hoffset | ⟨hoffset, hcount, hsize⟩
  · exact .inl hspans
  · exact .inr ⟨_, .seek hoffset⟩
  · obtain ⟨expected, actual, hcut⟩ :=
      Layout.exists_cut (Nat.mod_lt (content.size - offset) hpos)
    exact .inr ⟨_, .cut hoffset hcount hsize hcut⟩

/-! ### The content of a section -/

/-- The content of a section, or why it cannot be read. -/
def sectionData (content : Bytes) (medium : Medium) (h : SectionHeader) :
    Except DecodeError Bytes :=
  if h.type = Abi.sectionNobits then .ok #[]
  else
    match medium.offsetFault? h.offset with
    | some fault => .error (.seekFailed h.offset fault)
    | none => delivered content h.offset h.size

/-- Why the content of a section cannot be read from memory.  A section without space in the file
    can always be read. -/
inductive ContentFault (content : Bytes) (h : SectionHeader) : DecodeError → Prop
  | seek (htype : h.type ≠ Abi.sectionNobits) (hoffset : wordLimit ≤ h.offset) :
      ContentFault content h (.seekFailed h.offset (.offsetTooWide .memory))
  | cut (htype : h.type ≠ Abi.sectionNobits) (hoffset : h.offset < wordLimit)
      (hcount : h.size ≠ 0) (hsize : content.size < h.offset + h.size) :
      ContentFault content h (.truncated h.size (content.size - h.offset))

variable {h : SectionHeader}

/-- A section without space in the file has no content, wherever its header points. -/
theorem sectionData_of_nobits (htype : h.type = Abi.sectionNobits) :
    sectionData content medium h = .ok #[] := by
  rw [sectionData, if_pos htype]

/-- A section whose content lies within the bytes of the file can be read. -/
theorem sectionData_of_spans (htype : h.type ≠ Abi.sectionNobits)
    (hspans : Spans content h.offset h.size 1) :
    sectionData content .memory h = .ok (content.extract h.offset (h.offset + h.size)) := by
  obtain ⟨hoffset, hfits⟩ := hspans
  rw [sectionData, if_neg htype, Medium.memory_offsetFault?, if_neg (by omega), delivered,
    if_pos (by omega)]

/-- Any cause for a section's content not to be read is what reading it ends with. -/
theorem sectionData_of_fault {cause : DecodeError} (hfault : ContentFault content h cause) :
    sectionData content .memory h = .error cause := by
  rcases hfault with ⟨htype, hoffset⟩ | ⟨htype, hoffset, hcount, hsize⟩
  · rw [sectionData, if_neg htype, Medium.memory_offsetFault?, if_pos hoffset]
  · rw [sectionData, if_neg htype, Medium.memory_offsetFault?, if_neg (by omega), delivered,
      if_neg (by omega)]

/-- The content of a section can be read from memory. -/
def ContentSpans (content : Bytes) (h : SectionHeader) : Prop :=
  h.type ≠ Abi.sectionNobits → Spans content h.offset h.size 1

instance (content : Bytes) (h : SectionHeader) : Decidable (ContentSpans content h) :=
  inferInstanceAs (Decidable (_ → _))

/-- The bytes that a section holds: none, or those that its header says. -/
def bytesOf (content : Bytes) (h : SectionHeader) : Bytes :=
  if h.type = Abi.sectionNobits then #[] else content.extract h.offset (h.offset + h.size)

/-- A section that can be read has the bytes that its header says. -/
theorem sectionData_of_contentSpans (hspans : ContentSpans content h) :
    sectionData content .memory h = .ok (bytesOf content h) := by
  rw [bytesOf]
  split
  · rename_i htype
    exact sectionData_of_nobits htype
  · rename_i htype
    exact sectionData_of_spans htype (hspans htype)

/-- A section can be read, or there is a cause for its failure. -/
theorem contentSpans_or_fault (content : Bytes) (h : SectionHeader) :
    ContentSpans content h ∨ ∃ cause, ContentFault content h cause := by
  by_cases htype : h.type = Abi.sectionNobits
  · exact .inl fun hne => absurd htype hne
  · rcases spans_or_fault content h.offset h.size 1 with
      hspans | hoffset | ⟨hoffset, hcount, hsize⟩
    · exact .inl fun _ => hspans
    · exact .inr ⟨_, .seek htype hoffset⟩
    · exact .inr ⟨_, .cut htype hoffset hcount (by omega)⟩

/-- A section with such a cause cannot be read. -/
theorem ContentFault.not_contentSpans {cause : DecodeError} (fault : ContentFault content h cause) :
    ¬ ContentSpans content h := by
  unfold ContentSpans Spans
  cases fault <;> omega

/-- **Section contents in memory.**  The content of a section is read exactly when it lies within
    the bytes of the file, or occupies none of them. -/
theorem sectionData_eq_ok_iff {data : Bytes} :
    sectionData content .memory h = .ok data ↔
      ContentSpans content h ∧ data = bytesOf content h := by
  rcases contentSpans_or_fault content h with hspans | ⟨cause, fault⟩
  · simp only [sectionData_of_contentSpans hspans, Except.ok.injEq, hspans, true_and, eq_comm]
  · simp only [sectionData_of_fault fault, fault.not_contentSpans, reduceCtorEq, false_and]

/-- A section that cannot be read fails, and its header determines the cause. -/
theorem sectionData_eq_error_iff {cause : DecodeError} :
    sectionData content .memory h = .error cause ↔ ContentFault content h cause := by
  refine ⟨fun hdata => ?_, sectionData_of_fault⟩
  rcases contentSpans_or_fault content h with hspans | ⟨cause', fault⟩
  · rw [sectionData_of_contentSpans hspans] at hdata
    cases hdata
  · rw [sectionData_of_fault fault] at hdata
    rw [← Except.error.inj hdata]
    exact fault

end Stored

/-- The content of a section is read in chunks of any size, as long as the device can represent the
    first request, which is the largest. -/
theorem Yields.readContent_of_grants (h : SectionHeader) {chunk : Int} (hchunk : 1 ≤ chunk)
    (hgrants : h.type ≠ Abi.sectionNobits → medium.offsetFault? h.offset = none →
      medium.Grants (requestSize (some chunk.toNat) h.size)) :
    Yields (Device.Holds content medium) (h.readContent chunk)
      (Stored.sectionData content medium h) (Device.Holds content medium) := by
  rintro d ⟨position, hd⟩
  rw [SectionHeader.readContent, ElfInspect.readContent, Stored.sectionData]
  split
  · exact ⟨d, rfl, position, hd⟩
  · rename_i htype
    rw [if_neg (by omega)]
    -- what follows depends on whether the device can go where the content is
    cases hoffset : medium.offsetFault? h.offset with
    | some fault =>
      obtain ⟨d', hrun, hd'⟩ := bind_error (seekTo_fault hoffset)
        (f := fun _ => ElfInspect.accumulate (some chunk.toNat) (.contentReadFailed h.offset)
          h.size #[]) d hd
      exact ⟨d', hrun, position, hd'⟩
    | none =>
      have hmost : some chunk.toNat ≠ some 0 := by simp; omega
      obtain ⟨d', hrun, hd'⟩ := bind_ok (seekTo hoffset)
        (f := fun _ => ElfInspect.accumulate (some chunk.toNat) (.contentReadFailed h.offset)
          h.size #[]) (accumulate hmost (hgrants htype hoffset)) d hd
      exact ⟨d', hrun, _, hd'⟩

/-- The content of a section is read in chunks of any size that the device can represent. -/
theorem Yields.readContent (h : SectionHeader) {chunk : Int} (hchunk : 1 ≤ chunk)
    (hgrants : medium.Grants chunk.toNat) :
    Yields (Device.Holds content medium) (h.readContent chunk)
      (Stored.sectionData content medium h) (Device.Holds content medium) :=
  readContent_of_grants h hchunk fun _ _ size hsize =>
    hgrants size (Nat.le_trans hsize (Nat.min_le_left _ _))

end ElfInspect
