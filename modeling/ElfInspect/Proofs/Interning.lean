import ElfInspect.Proofs.Placement

namespace ElfInspect

/-!
# String tables that are built

A table is built by adding one text after another behind those that it has.  Texts that are there
already are not added again, and nothing that is there moves.  So at the end each text is found at
the offset that is noted for it.

* `StringTable.Holds table offsets` — each text of `offsets` stands in the table at its offset;
* `StringTable.Holds.insertAll`, `StringTable.exists_mem_insertAll` — adding texts keeps this, and
  notes an offset for each of them;
* `StringTable.lookup_build` — the texts of a table are looked up where they are said to be.
-/

namespace Stored.Carries

variable {content : Bytes} {offset : Nat} {bytes : List UInt8}

/-- What is carried is carried with more bytes behind the content. -/
theorem append (h : Carries content offset bytes) (more : Bytes) :
    Carries (content ++ more) offset bytes := by
  unfold Carries at h ⊢
  rw [Array.toList_append, List.drop_append]
  exact h.trans (List.prefix_append _ _)

/-- The bytes behind a content are carried at its end. -/
theorem behind (content : Bytes) (bytes : List UInt8) :
    Carries (content ++ bytes.toArray) content.size bytes := by
  have hdrop : (content ++ bytes.toArray).toList.drop content.size = bytes := by
    rw [Array.toList_append, ← Array.length_toList, List.drop_left]
  exact ⟨[], (List.append_nil bytes).trans hdrop.symm⟩

end Stored.Carries

namespace StringTable

/-- Each text of a list stands in the table at its offset, with the NUL that ends it. -/
def Holds (table : List UInt8) (offsets : List (String × Nat)) : Prop :=
  ∀ entry ∈ offsets, Stored.Carries table.toArray entry.2 (terminated entry.1)

variable {table : List UInt8} {offsets : List (String × Nat)} {names : List String} {s : String}

/-- The table that every other one is built from. -/
theorem holds_empty : Holds [0] [("", 0)] := by
  intro entry hentry
  have hempty : terminated "" = [0] := by
    rw [terminated, String.toList_empty, Utf8.encode_nil, List.nil_append]
  rw [List.mem_singleton.mp hentry]
  exact ⟨[], hempty⟩

/-- A text added at the end moves none of the others. -/
theorem Holds.insert (h : Holds table offsets) (s : String) :
    Holds (table ++ terminated s) (offsets ++ [(s, table.length)]) := by
  have hsplit : (table ++ terminated s).toArray = table.toArray ++ (terminated s).toArray := by
    rw [List.append_toArray]
  intro entry hentry
  rw [hsplit]
  rcases List.mem_append.mp hentry with hold | hnew
  · exact (h entry hold).append _
  · rw [List.mem_singleton.mp hnew]
    exact Stored.Carries.behind table.toArray (terminated s)

/-- Texts that are put in one after another are all found, those put in before among them. -/
theorem Holds.insertAll (h : Holds table offsets) (names : List String) :
    Holds (insertAll table offsets names).1 (insertAll table offsets names).2 := by
  induction names generalizing table offsets with
  | nil => exact h
  | cons s rest ih =>
    unfold StringTable.insertAll
    split
    · exact ih h
    · exact ih (h.insert s)

/-- Offsets that are noted stay noted, and one is noted for each text that is added. -/
theorem exists_mem_insertAll (h : s ∈ names ∨ ∃ n, (s, n) ∈ offsets) :
    ∃ n, (s, n) ∈ (insertAll table offsets names).2 := by
  induction names generalizing table offsets with
  | nil =>
    rcases h with hname | hnoted
    · cases hname
    · exact hnoted
  | cons first rest ih =>
    unfold insertAll
    split
    · rename_i hfound
      refine ih ?_
      rcases h with hname | hnoted
      · rcases List.mem_cons.mp hname with rfl | hrest
        · -- the text has been added before
          obtain ⟨⟨text, n⟩, hentry, htext⟩ := List.any_eq_true.mp hfound
          obtain rfl : text = s := of_decide_eq_true htext
          exact .inr ⟨n, hentry⟩
        · exact .inl hrest
      · exact .inr hnoted
    · refine ih ?_
      rcases h with hname | ⟨n, hentry⟩
      · rcases List.mem_cons.mp hname with rfl | hrest
        · exact .inr ⟨table.length, List.mem_append_right offsets (List.mem_singleton.mpr rfl)⟩
        · exact .inl hrest
      · exact .inr ⟨n, List.mem_append_left _ hentry⟩

/-- The offset of a text is one that is noted for it. -/
theorem offsetOf_mem {n : Nat} (h : (s, n) ∈ offsets) : (s, offsetOf offsets s) ∈ offsets := by
  -- the search finds an entry for the text, since there is one
  cases hfind : offsets.find? fun entry => entry.1 = s with
  | none =>
    have hnone := List.find?_eq_none.mp hfind (s, n) h
    exact absurd (decide_eq_true rfl) hnone
  | some entry =>
    have htext : entry.1 = s := by simpa using List.find?_some hfind
    have hoffset : offsetOf offsets s = entry.2 := by
      unfold offsetOf
      rw [hfind]
      rfl
    rw [hoffset, ← htext]
    exact List.mem_of_find?_eq_some hfind

/-- The texts that a table is built from stand at their offsets, and so does the empty text. -/
theorem carries_build (h : s = "" ∨ s ∈ names) :
    Stored.Carries (build names).1.toArray (offsetOf (build names).2 s) (terminated s) := by
  have hnoted : ∃ n, (s, n) ∈ (build names).2 := by
    refine exists_mem_insertAll ?_
    rcases h with rfl | hname
    · exact .inr ⟨0, List.mem_singleton.mpr rfl⟩
    · exact .inl hname
  obtain ⟨n, hentry⟩ := hnoted
  have hholds : Holds (build names).1 (build names).2 := holds_empty.insertAll names
  exact hholds (s, offsetOf (build names).2 s) (offsetOf_mem hentry)

/-- Every text begins within the table. -/
theorem offsetOf_lt (h : s = "" ∨ s ∈ names) :
    offsetOf (build names).2 s < (build names).1.length := by
  have hle := (carries_build h).length_le
  rw [terminated, List.length_append, List.size_toArray] at hle
  have hone : [(0 : UInt8)].length = 1 := rfl
  omega

/-- **Texts of a built table.**  Each is found at its offset, unless it has a NUL of its own. -/
theorem lookup_build (h : s = "" ∨ s ∈ names) (hnul : '\x00' ∉ s.toList) :
    lookup (build names).1.toArray (offsetOf (build names).2 s) = .ok s := by
  refine lookup_eq_ok_iff.mpr ⟨?_, ((carries_build h).bytesAt hnul).symm⟩
  rw [List.size_toArray]
  exact offsetOf_lt h

end StringTable

end ElfInspect
