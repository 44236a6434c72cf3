import ElfInspect.Proofs.Utf8
import ElfInspect.StringTable

namespace ElfInspect.StringTable

/-!
# Looking up names

A look-up has one of three outcomes, and each is described by the bytes of the table alone:

* `Resolves table offset` — the offset lies in the table and the bytes from it to the next NUL, or
  to the end, are well formed;
* `LookupFault table offset cause` — the offset lies outside, or the bytes are ill formed;
* `lookup_eq_ok_iff`, `lookup_eq_error_iff` — the look-up answers accordingly, and a name that it
  finds has exactly these bytes as its encoding.
-/

variable {table : Bytes} {offset : Nat}

/-- There is a name at an offset of a table. -/
def Resolves (table : Bytes) (offset : Nat) : Prop :=
  offset < table.size ∧ Utf8.WellFormed (bytesAt table offset)

/-- Why there is no name at an offset: it lies outside the table, or else the bytes there are no
    text. -/
inductive LookupFault (table : Bytes) (offset : Nat) : DecodeError → Prop
  | outside (h : table.size ≤ offset) :
      LookupFault table offset (.stringOutside offset table.size)
  | illFormed (h : offset < table.size) (hbytes : ¬ Utf8.WellFormed (bytesAt table offset))
      (defect : Utf8.Defect) (hdefect : Utf8.decode (bytesAt table offset) = .error defect) :
      LookupFault table offset (.invalidText offset defect)

/-- There are no names behind the end of the table. -/
theorem lookup_of_le (h : table.size ≤ offset) :
    lookup table offset = .error (.stringOutside offset table.size) := by
  rw [lookup, if_pos (by omega)]

/-- Within the table a name is found if its bytes are well-formed. -/
theorem lookup_of_lt (h : offset < table.size) :
    lookup table offset =
      match Utf8.decode (bytesAt table offset) with
      | .ok chars => .ok (String.ofList chars)
      | .error defect => .error (.invalidText offset defect) := by
  have hinside : ¬ ((offset : Int) < 0 ∨ (table.size : Int) ≤ offset) := by omega
  unfold lookup
  exact if_neg hinside

/-- **Names that are found.**  Their encoding is what the table holds at the offset. -/
theorem lookup_eq_ok_iff {name : String} :
    lookup table offset = .ok name ↔
      offset < table.size ∧ Utf8.encode name.toList = bytesAt table offset := by
  by_cases h : offset < table.size
  · rw [lookup_of_lt h]
    -- a name is found just if its bytes are those that its characters are encoded by
    cases hd : Utf8.decode (bytesAt table offset) with
    | ok chars =>
      have hbytes := Utf8.decode_eq_ok_iff.mp hd
      constructor
      · intro hname
        rw [← Except.ok.inj hname, String.toList_ofList]
        exact ⟨h, hbytes.symm⟩
      · rintro ⟨-, hname⟩
        have hchars := Utf8.decode_eq_ok_iff.mpr hname.symm
        rw [hd] at hchars
        simp only [Except.ok.inj hchars, String.ofList_toList]
    | error defect =>
      simp only [reduceCtorEq, false_iff]
      rintro ⟨-, hname⟩
      rw [Utf8.decode_eq_ok_iff.mpr hname.symm] at hd
      simp at hd
  · rw [lookup_of_le (by omega)]
    simp [h]

/-- **Names that are not found.**  The cause is determined by the table and the offset. -/
theorem lookup_eq_error_iff {cause : DecodeError} :
    lookup table offset = .error cause ↔ LookupFault table offset cause := by
  constructor
  · intro hlookup
    -- a lookup fails at the offset or else at the bytes
    by_cases h : offset < table.size
    · rw [lookup_of_lt h] at hlookup
      split at hlookup
      · simp at hlookup
      · rename_i defect hdefect
        rw [← Except.error.inj hlookup]
        exact .illFormed h (Utf8.not_wellFormed_iff.mpr ⟨defect, hdefect⟩) defect hdefect
    · rw [lookup_of_le (by omega)] at hlookup
      rw [← Except.error.inj hlookup]
      exact .outside (by omega)
  · rintro (h | ⟨h, -, defect, hdefect⟩)
    · exact lookup_of_le h
    · rw [lookup_of_lt h, hdefect]

/-- A name can be found just if looking it up succeeds. -/
theorem resolves_iff : Resolves table offset ↔ ∃ name, lookup table offset = .ok name := by
  constructor
  · rintro ⟨h, chars, hbytes⟩
    refine ⟨String.ofList chars, lookup_eq_ok_iff.mpr ⟨h, ?_⟩⟩
    rw [String.toList_ofList, hbytes]
  · rintro ⟨name, hname⟩
    obtain ⟨h, hbytes⟩ := lookup_eq_ok_iff.mp hname
    exact ⟨h, name.toList, hbytes.symm⟩

instance (table : Bytes) (offset : Nat) : Decidable (Resolves table offset) :=
  match h : lookup table offset with
  | .ok name => .isTrue (resolves_iff.mpr ⟨name, h⟩)
  | .error _ => .isFalse fun hresolves => by
    obtain ⟨name, hname⟩ := resolves_iff.mp hresolves
    rw [h] at hname
    cases hname

/-- A failed look-up is no truncated input. -/
theorem LookupFault.isTruncated_eq {cause : DecodeError} (h : LookupFault table offset cause) :
    cause.isTruncated = false := by
  cases h <;> rfl

end ElfInspect.StringTable
