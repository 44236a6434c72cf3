import ElfInspect.Proofs.Delivery
import ElfInspect.Layout

namespace ElfInspect

/-!
# Records in stored bytes

What the decoder of a record comes to on a device that delivers, as a function of the content alone.

* `Layout.cut widths available` — the first field of a record that does not fit into the bytes
  that are left, with the number of bytes left for it;
* `Stored.record` — the record at an offset, or why it cannot be read;
* `Yields.readLayout` — reading field by field comes to this.
-/

variable {α : Type} {content : Bytes} {medium : Medium} {position : Nat}

/-! ### Fields -/

namespace Layout

/-- The first of some consecutive fields that does not fit into the bytes that are available: its
    width and what is left for it. -/
def cut : (widths : List Nat) → (available : Nat) → Option (Nat × Nat)
  | [], _ => none
  | width :: rest, available =>
    if width ≤ available then cut rest (available - width) else some (width, available)

@[simp] theorem total_cons (width : Nat) (rest : List Nat) :
    total (width :: rest) = width + total rest := rfl

/-- All fields fit just if there is room for their widths all together. -/
theorem cut_eq_none_iff {widths : List Nat} {available : Nat} :
    cut widths available = none ↔ total widths ≤ available := by
  induction widths generalizing available with
  | nil => simp [cut, total]
  | cons width rest ih =>
    rw [cut, total_cons]
    split
    · rw [ih]
      omega
    · simp only [reduceCtorEq, false_iff]
      omega

/-- Where there is no room for all fields, one of them is cut off. -/
theorem exists_cut {widths : List Nat} {available : Nat} (h : available < total widths) :
    ∃ expected actual, cut widths available = some (expected, actual) := by
  cases hcut : cut widths available with
  | none =>
    have hfits := cut_eq_none_iff.mp hcut
    omega
  | some field => exact ⟨field.1, field.2, rfl⟩

theorem size_cons (slot : Slot α) (layout : Layout α) :
    Layout.size (slot :: layout) = slot.width + layout.size := rfl

end Layout

namespace Stored

/-- The record at an offset, or the field that is cut off by the end of the content. -/
def record (content : Bytes) (layout : Layout α) (order : ByteOrder) (start : α) (offset : Nat) :
    Except DecodeError α :=
  match Layout.cut layout.widths (content.size - offset) with
  | none => .ok (layout.decode order start (content.toList.drop offset))
  | some (expected, actual) => .error (.truncated expected actual)

/-- A record that lies within the content is decoded. -/
theorem record_of_le {layout : Layout α} {order : ByteOrder} {start : α} {offset : Nat}
    (h : layout.size ≤ content.size - offset) :
    record content layout order start offset =
      .ok (layout.decode order start (content.toList.drop offset)) := by
  rw [record, Layout.cut_eq_none_iff.mpr h]

/-- A record that the end of the content cuts off is reported by the field it cuts. -/
theorem record_of_cut {layout : Layout α} (order : ByteOrder) (start : α)
    {offset expected actual : Nat}
    (h : Layout.cut layout.widths (content.size - offset) = some (expected, actual)) :
    record content layout order start offset = .error (.truncated expected actual) := by
  rw [record, h]

end Stored

namespace Yields

/-- An integer that lies within the content is decoded from its bytes. -/
theorem readUint_of_le {order : ByteOrder} {width : Nat} (hwidth : width < leastRoom)
    (h : width ≤ content.size - position) :
    Yields (Device.Serves content medium position) (ElfInspect.readUint order width)
      (.ok (decodeUint order ((content.toList.drop position).take width)))
      (Device.Serves content medium (position + width)) := by
  have hread : Yields (Device.Serves content medium position) (ElfInspect.readExact width) _ _ :=
    readExact hwidth
  rw [delivered, if_pos h, Nat.min_eq_left h] at hread
  have hbytes : (content.extract position (position + width)).toList =
      (content.toList.drop position).take width := by
    simp
  rw [← hbytes]
  exact bind_ok hread (pure _)

/-- An integer that the end of the content cuts off is reported with the bytes there are of it. -/
theorem readUint_of_lt {order : ByteOrder} {width : Nat} (hwidth : width < leastRoom)
    (h : content.size - position < width) :
    Yields (Device.Serves content medium position) (ElfInspect.readUint order width)
      (.error (.truncated width (content.size - position)))
      (Device.Serves content medium (position + (content.size - position))) := by
  have hread : Yields (Device.Serves content medium position) (ElfInspect.readExact width) _ _ :=
    readExact hwidth
  rw [delivered, if_neg (by omega), Nat.min_eq_right (by omega)] at hread
  exact bind_error hread

/-- A record is read field by field, and comes to the record at the position. -/
theorem readLayout {layout : Layout α} {order : ByteOrder} (start : α)
    (hwidths : ∀ slot ∈ layout, slot.width < leastRoom) :
    Yields (Device.Serves content medium position) (layout.read order start)
      (Stored.record content layout order start position)
      (Device.Serves content medium (position + min layout.size (content.size - position))) := by
  -- the induction is on the fields that are left, with the position behind those already read
  induction layout generalizing start position with
  | nil =>
    have hstop : position + min (Layout.size (α := α) []) (content.size - position) = position := by
      simp [Layout.size, Layout.total, Layout.widths]
    rw [hstop]
    exact pure start
  | cons slot rest ih =>
    have hwidth := hwidths slot List.mem_cons_self
    rw [Layout.size_cons]
    by_cases hfits : slot.width ≤ content.size - position
    -- the field is there: the rest of the record is read behind it, with its value set
    · have hrest := @ih (position + slot.width)
        (slot.set (decodeUint order ((content.toList.drop position).take slot.width)) start)
        fun s hs => hwidths s (List.mem_cons_of_mem _ hs)
      have hleft : content.size - (position + slot.width) =
          content.size - position - slot.width := by
        omega
      have hstop : position + slot.width +
          min (Layout.size rest) (content.size - (position + slot.width)) =
          position + min (slot.width + Layout.size rest) (content.size - position) := by
        omega
      have hrecord : Stored.record content rest order
          (slot.set (decodeUint order ((content.toList.drop position).take slot.width)) start)
          (position + slot.width) = Stored.record content (slot :: rest) order start position := by
        simp only [Stored.record, Layout.widths, List.map_cons, Layout.cut, if_pos hfits, hleft,
          Layout.decode, List.drop_drop]
      rw [hstop, hrecord] at hrest
      exact bind_ok (readUint_of_le hwidth hfits) hrest
    -- the field is cut off, which ends the record
    · have hrecord : Stored.record content (slot :: rest) order start position =
          .error (.truncated slot.width (content.size - position)) := by
        simp only [Stored.record, Layout.widths, List.map_cons, Layout.cut, if_neg hfits]
      rw [hrecord, Nat.min_eq_right (by omega)]
      exact bind_error (readUint_of_lt hwidth (by omega))

end Yields

end ElfInspect
