import ElfInspect.Proofs.Load.Independence
import ElfInspect.Proofs.Load.Outcome

namespace ElfInspect

/-!
# Images that are cut short

A load reads each part of an image in its place, and does not ask what follows.  So bytes behind the
end of an image make no difference to its load, unless they are missed: then it reports truncation.

* `Layout.decode_append` — a record is decoded from its own bytes only;
* `Stored.load_append` — a content with and without more bytes behind it is loaded alike, truncation
  excepted;
* `Load.prefix_stable` — so are the image and any beginning of it that are loaded from memory.
-/

variable {α : Type} {medium : Medium}

/-- Truncation is the one cause of its kind. -/
theorem DecodeError.isTruncated_iff {cause : DecodeError} :
    cause.isTruncated = true ↔ ∃ expected actual, cause = .truncated expected actual := by
  cases cause <;> simp [isTruncated]

/-! ### Bytes behind a record -/

/-- Bytes behind those of a record do not matter to its fields. -/
theorem Layout.decode_append {layout : Layout α} (order : ByteOrder) (start : α)
    {bytes : List UInt8} (more : List UInt8) (h : layout.size ≤ bytes.length) :
    layout.decode order start (bytes ++ more) = layout.decode order start bytes := by
  induction layout generalizing start bytes with
  | nil => rfl
  | cons slot rest ih =>
    rw [size_cons] at h
    have hrest : Layout.size rest ≤ (bytes.drop slot.width).length := by
      rw [List.length_drop]
      omega
    simp only [decode]
    rw [List.take_append_of_le_length (by omega), List.drop_append_of_le_length (by omega),
      ih _ hrest]

namespace Stored

/-- The results are the same, or the first is that the input has ended. -/
abbrev AgreesUnlessCut (r r' : Except DecodeError α) : Prop :=
  AgreesUnless (fun cause => cause.isTruncated = true) r r'

/-! ### One step each -/

/-- A request that is answered is answered in the same way with more bytes behind. -/
theorem delivered_append (content more : Bytes) (position wanted : Nat) :
    AgreesUnlessCut (delivered content position wanted)
      (delivered (content ++ more) position wanted) := by
  unfold delivered
  rw [Array.size_append]
  by_cases h : wanted ≤ content.size - position
  · -- none of the bytes behind are wanted, even where the position is itself behind
    have hsame : (content ++ more).extract position (position + wanted) =
        content.extract position (position + wanted) := by
      have hmore :
          more.extract (position - content.size) (position + wanted - content.size) = #[] :=
        Array.extract_eq_empty_of_le (by omega)
      rw [Array.extract_append, hmore, Array.append_empty]
    rw [if_pos h, if_pos (by omega), hsame]
    exact .refl _
  · rw [if_neg h]
    exact .inr ⟨_, rfl, rfl⟩

/-- So is a record that can be read. -/
theorem record_append (content more : Bytes) (layout : Layout α) (order : ByteOrder) (start : α)
    (offset : Nat) :
    AgreesUnlessCut (record content layout order start offset)
      (record (content ++ more) layout order start offset) := by
  by_cases h : layout.size ≤ content.size - offset
  · have hsame : layout.decode order start
        (content.toList.drop offset ++ more.toList.drop (offset - content.size)) =
          layout.decode order start (content.toList.drop offset) :=
      Layout.decode_append order start _ (by simpa using h)
    rw [record_of_le h, record_of_le (by rw [Array.size_append]; omega), Array.toList_append,
      List.drop_append, Array.length_toList, hsame]
    exact .refl _
  · obtain ⟨expected, actual, hcut⟩ := Layout.exists_cut (Nat.lt_of_not_le h)
    rw [record_of_cut order start hcut]
    exact .inr ⟨_, rfl, rfl⟩

/-- So is a table. -/
theorem table_append (content more : Bytes) (layout : Layout α) (order : ByteOrder) (start : α)
    (offset count : Nat) :
    AgreesUnlessCut (table content medium layout order start offset count)
      (table (content ++ more) medium layout order start offset count) := by
  unfold table
  cases medium.offsetFault? offset with
  | some fault => exact .refl _
  | none => exact .mapM _ fun i _ => record_append content more layout order start _

/-- So is the content of a section. -/
theorem sectionData_append (content more : Bytes) (h : SectionHeader) :
    AgreesUnlessCut (sectionData content medium h) (sectionData (content ++ more) medium h) := by
  unfold sectionData
  split
  · exact .refl _
  · cases medium.offsetFault? h.offset with
    | some fault => exact .refl _
    | none => exact delivered_append content more h.offset h.size

/-- So is the identification. -/
theorem ident_append (content more : Bytes) :
    AgreesUnlessCut (ident content) (ident (content ++ more)) :=
  .bind (delivered_append content more 0 _) fun _ => .refl _

/-- So is the file header. -/
theorem header_append (content more ident : Bytes) :
    AgreesUnlessCut (header content ident) (header (content ++ more) ident) :=
  record_append content more _ _ _ _

/-! ### All steps -/

/-- **Bytes behind an image** make no difference to loading it, unless they are missed. -/
theorem load_append (content more : Bytes) (medium : Medium) :
    AgreesUnless (fun failure => failure.error.isTruncated = true)
      (load content medium) (load (content ++ more) medium) := by
  unfold load loadWith
  refine .bind (.attributed _ (ident_append content more)) fun ident => ?_
  refine .bind (.attributed _ (header_append content more ident)) fun header => ?_
  refine .bind (.attributed _ (table_append content more _ _ _ _ _)) fun segments => ?_
  refine .bind (.attributed _ (table_append content more _ _ _ _ _)) fun headers => ?_
  refine .bind (.attributed _ (.mapM _ fun h _ => sectionData_append content more h))
    fun contents => ?_
  -- names are looked up in the contents, which are the same by now
  exact .refl _

end Stored

/-! ### Loads -/

/-- **Prefix stability.**  A load that does not report truncation has the same outcome whatever
    follows the image.  Cutting an image short leaves the outcome as it was, or turns it into
    truncation. -/
theorem Load.prefix_stable {chunk : Int} (hpos : 1 ≤ chunk) (hlt : chunk < wordLimit) :
    (∀ p t : Bytes,
        (∀ failure, Load.ofBytes p chunk = .error failure → failure.error.isTruncated = false) →
          Load.ofBytes (p ++ t) chunk = Load.ofBytes p chunk) ∧
      ∀ (image : Bytes) (n : Nat),
        Load.ofBytes (image.extract 0 n) chunk = Load.ofBytes image chunk ∨
          ∃ expected actual phase,
            Load.ofBytes (image.extract 0 n) chunk =
              .error ⟨.truncated expected actual, some phase⟩ := by
  have hagrees (p t : Bytes) : AgreesUnless (fun failure => failure.error.isTruncated = true)
      (Load.ofBytes p chunk) (Load.ofBytes (p ++ t) chunk) := by
    rw [Load.ofBytes_eq hpos hlt, Load.ofBytes_eq hpos hlt]
    exact Stored.load_append p t .memory
  constructor
  · intro p t hcomplete
    rcases hagrees p t with hsame | ⟨failure, hcut, hload⟩
    · exact hsame.symm
    · rw [hcomplete failure hload] at hcut
      cases hcut
  · intro image n
    have hparts : image.extract 0 n ++ image.extract n image.size = image := by
      rw [Array.extract_append_extract, Nat.zero_min, Array.extract_eq_self_of_le (by omega)]
    have hcut := hagrees (image.extract 0 n) (image.extract n image.size)
    rw [hparts] at hcut
    refine hcut.imp_right ?_
    rintro ⟨failure, htruncated, hload⟩
    -- a failure that the input is at fault for carries the phase that the load has reached
    obtain ⟨cause, rfl⟩ := Load.phase_run_of_error _ _ _ hload
    obtain ⟨expected, actual, rfl⟩ := DecodeError.isTruncated_iff.mp htruncated
    exact ⟨expected, actual, _, hload⟩

/-- What follows a header does not help where its tables are out of reach. -/
theorem Load.prefix_stable_brokenImage :
    1 ≤ (5 : Int) ∧ (5 : Int) < wordLimit ∧
      Load.ofBytes Loader.brokenImage 5 =
        .error ⟨.seekFailed wordLimit (.offsetTooWide .memory), some .decodeSegments⟩ ∧
      Load.ofBytes (Loader.brokenImage ++ #[1, 2, 3]) 5 =
        .error ⟨.seekFailed wordLimit (.offsetTooWide .memory), some .decodeSegments⟩ := by
  have hpos : 1 ≤ (5 : Int) := by decide
  have hlt : (5 : Int) < wordLimit := by decide
  have hload : Load.ofBytes Loader.brokenImage 5 =
      .error ⟨.seekFailed wordLimit (.offsetTooWide .memory), some .decodeSegments⟩ := by
    rw [Load.ofBytes_eq hpos hlt, Stored.load_of_violation Loader.violation_brokenImage]
    rfl
  have hstable := (Load.prefix_stable hpos hlt).1 Loader.brokenImage #[1, 2, 3]
  refine ⟨hpos, hlt, hload, (hstable fun failure hfailure => ?_).trans hload⟩
  rw [hload] at hfailure
  rw [← Except.error.inj hfailure]
  rfl

end ElfInspect
