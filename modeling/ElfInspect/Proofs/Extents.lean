import ElfInspect.Proofs.Offsets
import ElfInspect.Proofs.Tables

namespace ElfInspect

/-!
# Bytes that two contents share

What is read at a place depends on the bytes at that place only.  So two contents that agree in a
range hold the same numbers, records and section contents there, whatever they hold elsewhere and
however long they are.

* `Extent` — a range of positions, given by its offset and its length;
* `Agree content content' x` — both contents have the same bytes, or both have none, at all
  positions of the extent;
* `Agree.mono`, `Agree.item` — smaller ranges, and the items of a table;
* `Agree.uint`, `Agree.programHeader`, `Agree.sectionHeader`, `Agree.bytesOf` — what is read there;
* `Agree.spans` — a range that lies within the one content lies within the other.
-/

/-- A range of positions. -/
structure Extent where
  offset : Nat
  length : Nat
  deriving Repr, DecidableEq, Inhabited

instance : Membership Nat Extent where
  mem x p := x.offset ≤ p ∧ p < x.offset + x.length

namespace Extent

variable {x : Extent} {p : Nat}

theorem mem_iff : p ∈ x ↔ x.offset ≤ p ∧ p < x.offset + x.length := Iff.rfl

instance (p : Nat) (x : Extent) : Decidable (p ∈ x) :=
  inferInstanceAs (Decidable (_ ∧ _))

end Extent

namespace Stored

variable {content content' : Bytes} {x : Extent}

/-- The two contents agree at all positions of an extent. -/
def Agree (content content' : Bytes) (x : Extent) : Prop :=
  ∀ p ∈ x, content'[p]? = content[p]?

/-! ### Records from their bytes -/

/-- A record is decoded from its own bytes only. -/
theorem decode_take {α : Type} (layout : Layout α) (order : ByteOrder) (start : α)
    (bytes : List UInt8) :
    layout.decode order start (bytes.take layout.size) = layout.decode order start bytes := by
  -- the first field is taken off, and the other fields are decoded from what is left
  induction layout generalizing start bytes with
  | nil => rfl
  | cons slot rest ih =>
    have hfirst : (bytes.take (slot.width + Layout.size rest)).take slot.width =
        bytes.take slot.width := by
      rw [List.take_take, Nat.min_eq_left (Nat.le_add_right _ _)]
    have hrest : (bytes.take (slot.width + Layout.size rest)).drop slot.width =
        (bytes.drop slot.width).take (Layout.size rest) := by
      rw [List.drop_take, Nat.add_sub_cancel_left]
    rw [Layout.size_cons]
    simp only [Layout.decode]
    rw [hfirst, hrest, ih]

namespace Agree

/-! ### Smaller ranges -/

/-- Contents that agree in a range agree in any range within it. -/
theorem mono (h : Agree content content' x) {offset length : Nat} (hlow : x.offset ≤ offset)
    (hhigh : offset + length ≤ x.offset + x.length) : Agree content content' ⟨offset, length⟩ := by
  intro p hp
  obtain ⟨hleft, hright⟩ := Extent.mem_iff.mp hp
  exact h p (Extent.mem_iff.mpr ⟨Nat.le_trans hlow hleft, Nat.lt_of_lt_of_le hright hhigh⟩)

/-- Contents that agree in a table agree in each of its items. -/
theorem item {offset count width i : Nat} (h : Agree content content' ⟨offset, count * width⟩)
    (hi : i < count) : Agree content content' ⟨offset + i * width, width⟩ := by
  have hle : (i + 1) * width ≤ count * width := Nat.mul_le_mul_right width hi
  rw [Nat.succ_mul] at hle
  refine h.mono (Nat.le_add_right _ _) ?_
  show offset + i * width + width ≤ offset + count * width
  omega

/-! ### What is read in a range -/

/-- The bytes of the range, as many as there are. -/
theorem take_drop (h : Agree content content' x) :
    (content'.toList.drop x.offset).take x.length =
      (content.toList.drop x.offset).take x.length := by
  refine List.ext_getElem? fun i => ?_
  rw [List.getElem?_take, List.getElem?_take, List.getElem?_drop, List.getElem?_drop,
    Array.getElem?_toList, Array.getElem?_toList]
  by_cases hi : i < x.length
  · rw [if_pos hi, if_pos hi]
    exact h (x.offset + i) (Extent.mem_iff.mpr ⟨by omega, by omega⟩)
  · rw [if_neg hi, if_neg hi]

/-- Bytes at a position of the range, and zero behind the end. -/
theorem getD (h : Agree content content' x) {p : Nat} (hp : p ∈ x) :
    content'.getD p 0 = content.getD p 0 := by
  rw [Array.getD_eq_getD_getElem?, Array.getD_eq_getD_getElem?, h p hp]

/-- An integer whose bytes lie in the range. -/
theorem uint {offset width : Nat} (h : Agree content content' ⟨offset, width⟩)
    (order : ByteOrder) : uint content' order offset width = uint content order offset width := by
  have hbytes := h.take_drop
  unfold Stored.uint
  exact congrArg (decodeUint order) hbytes

/-- A record in the range. -/
theorem decode {α : Type} {layout : Layout α} {offset : Nat}
    (h : Agree content content' ⟨offset, layout.size⟩) (order : ByteOrder) (start : α) :
    layout.decode order start (content'.toList.drop offset) =
      layout.decode order start (content.toList.drop offset) := by
  have hbytes := h.take_drop
  rw [← decode_take layout order start (content'.toList.drop offset),
    ← decode_take layout order start (content.toList.drop offset)]
  exact congrArg (layout.decode order start) hbytes

/-- A program header whose bytes lie in the range. -/
theorem programHeader {e : Encoding} {offset : Nat}
    (h : Agree content content' ⟨offset, segmentSize e⟩) :
    programHeader e content' offset = programHeader e content offset := by
  rw [← size_programHeader] at h
  rw [← decode_programHeader, ← decode_programHeader]
  exact h.decode e.order {}

/-- A section header whose bytes lie in the range. -/
theorem sectionHeader {e : Encoding} {offset : Nat}
    (h : Agree content content' ⟨offset, sectionSize e⟩) :
    sectionHeader e content' offset = sectionHeader e content offset := by
  rw [← size_sectionHeader] at h
  rw [← decode_sectionHeader, ← decode_sectionHeader]
  exact h.decode e.order {}

/-- The bytes of a section whose content lies in the range. -/
theorem bytesOf {header : SectionHeader}
    (h : header.type ≠ Abi.sectionNobits →
      Agree content content' ⟨header.offset, header.size⟩) :
    bytesOf content' header = bytesOf content header := by
  unfold Stored.bytesOf
  by_cases htype : header.type = Abi.sectionNobits
  · rw [if_pos htype, if_pos htype]
  · have hbytes := (h htype).take_drop
    rw [if_neg htype, if_neg htype, ← Array.toList_inj, Array.toList_extract,
      Array.toList_extract, List.extract_eq_take_drop, List.extract_eq_take_drop,
      Nat.add_sub_cancel_left]
    exact hbytes

/-! ### Ranges within a content -/

/-- Where the one content has bytes, so has the other. -/
theorem lt_size (h : Agree content content' x) {p : Nat} (hp : p ∈ x) (hlt : p < content.size) :
    p < content'.size := by
  have hsome : (content'[p]?).isSome := by
    rw [h p hp, Array.getElem?_eq_getElem hlt]
    rfl
  obtain ⟨b, hb⟩ := Option.isSome_iff_exists.mp hsome
  exact (Array.getElem?_eq_some_iff.mp hb).1

/-- The end of the range lies within both contents, unless the range is empty. -/
theorem add_le_size (h : Agree content content' x) (hpos : 0 < x.length)
    (hle : x.offset + x.length ≤ content.size) : x.offset + x.length ≤ content'.size := by
  have hlast : x.offset + x.length - 1 ∈ x := Extent.mem_iff.mpr ⟨by omega, by omega⟩
  have hlt := h.lt_size hlast (by omega)
  omega

/-- What lies within the one content lies within the other. -/
theorem spans {offset count width : Nat} (h : Agree content content' ⟨offset, count * width⟩)
    (hwidth : 0 < width) (hspans : Spans content offset count width) :
    Spans content' offset count width := by
  obtain ⟨hoffset, hfits⟩ := hspans
  refine ⟨hoffset, ?_⟩
  rcases hfits with hzero | hle
  · exact .inl hzero
  · by_cases hzero : count = 0
    · exact .inl hzero
    · exact .inr (h.add_le_size (Nat.mul_pos (Nat.pos_of_ne_zero hzero) hwidth) hle)

end Agree

/-- A range that lies within the content has no position outside of it. -/
theorem Spans.lt_size {offset count width : Nat} (h : Spans content offset count width) {p : Nat}
    (hp : p ∈ (⟨offset, count * width⟩ : Extent)) : p < content.size := by
  obtain ⟨-, hfits⟩ := h
  obtain ⟨hlow, hhigh⟩ := Extent.mem_iff.mp hp
  have hlow' : offset ≤ p := hlow
  have hhigh' : p < offset + count * width := hhigh
  rcases hfits with hzero | hle
  · rw [hzero, Nat.zero_mul] at hhigh'
    omega
  · omega

end Stored

end ElfInspect
