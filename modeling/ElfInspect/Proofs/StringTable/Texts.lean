import ElfInspect.Proofs.StringTable
import ElfInspect.Proofs.Utf8.Sequences
import Mathlib.Data.List.TakeWhile

namespace ElfInspect.StringTable

/-!
# The texts of a table

From every offset in a table a text runs up to the next NUL, or to the end.  What is found there
depends on these bytes alone, and the texts that begin within another one are its tails.

* `Runs table start stop` — the bytes of a text, by where they begin and end;
* `Alike` — two look-ups find the same text, or the same defect;
* `lookup_exact` — what is found at an offset, and when nothing is;
* `bytesAt_add` — the bytes of a text that begins within another;
* `lookup_tail` — what is found at the offsets within a text and at its end.
-/

variable {table : Bytes} {start stop : Nat}

/-! ### Where texts end -/

/-- The bytes from `start` on have no NUL before `stop`, where one stands or the table ends. -/
structure Runs (table : Bytes) (start stop : Nat) : Prop where
  le : start ≤ stop
  le_size : stop ≤ table.size
  before : ∀ i, start ≤ i → i < stop → table[i]? ≠ some 0
  last : stop = table.size ∨ table[stop]? = some 0

/-- The bytes of a name end before the first NUL. -/
theorem zero_notMem_bytesAt (table : Bytes) (start : Nat) : 0 ∉ bytesAt table start := by
  intro hzero
  simpa using List.mem_takeWhile_imp hzero

/-- The bytes behind a start are those of its text and the rest, which a NUL begins. -/
theorem exists_rest (table : Bytes) (start : Nat) :
    ∃ rest, table.toList.drop start = bytesAt table start ++ rest ∧
      ∀ b more, rest = b :: more → b = 0 := by
  refine ⟨_, List.takeWhile_append_dropWhile.symm, fun b more hrest => ?_⟩
  have hb := List.head?_dropWhile_not (· ≠ (0 : UInt8)) (table.toList.drop start)
  rw [hrest] at hb
  simpa using hb

/-- The bytes without a NUL up to where one stands or the table ends are those of the text. -/
theorem bytesAt_eq {bytes rest : List UInt8} (hdrop : table.toList.drop start = bytes ++ rest)
    (hbytes : 0 ∉ bytes) (hrest : ∀ b more, rest = b :: more → b = 0) :
    bytesAt table start = bytes := by
  have hpos : ∀ b ∈ bytes, decide (b ≠ 0) = true := by
    intro b hb
    exact decide_eq_true fun hzero => hbytes (hzero ▸ hb)
  rw [bytesAt, hdrop, List.takeWhile_append_of_pos hpos]
  cases rest with
  | nil => rw [List.takeWhile_nil, List.append_nil]
  | cons b more =>
    rw [hrest b more rfl, List.takeWhile_cons_of_neg (by decide), List.append_nil]

/-- A text that begins within another one is a tail of it. -/
theorem bytesAt_add {k : Nat} (h : k ≤ (bytesAt table start).length) :
    bytesAt table (start + k) = (bytesAt table start).drop k := by
  obtain ⟨rest, hdrop, hrest⟩ := exists_rest table start
  refine bytesAt_eq ?_ (fun hzero => ?_) hrest
  · rw [← List.drop_drop, hdrop, List.drop_append_of_le_length h]
  · exact zero_notMem_bytesAt table start (List.mem_of_mem_drop hzero)

/-- The bytes of a text are those between its ends. -/
theorem Runs.toList_extract (h : Runs table start stop) :
    (table.extract start stop).toList = bytesAt table start := by
  have htake : (table.extract start stop).toList =
      (table.toList.drop start).take (stop - start) := by
    rw [Array.toList_extract]
  have hget (i : Nat) : (table.toList.drop start)[i]? = table[start + i]? := by
    rw [List.getElem?_drop, Array.getElem?_toList]
  rw [htake]
  refine (bytesAt_eq (List.take_append_drop _ _).symm (fun hzero => ?_) fun b more hrest => ?_).symm
  · obtain ⟨i, hi⟩ := List.mem_iff_getElem?.mp hzero
    rw [List.getElem?_take] at hi
    split at hi
    · rename_i hlt
      exact h.before (start + i) (by omega) (by omega) (hget i ▸ hi)
    · cases hi
  · -- what comes after the text stands where it stops
    have hb : table[stop]? = some b := by
      have hhead := congrArg List.head? hrest
      rwa [List.head?_drop, hget, Nat.add_sub_cancel' h.le] at hhead
    rcases h.last with hend | hzero
    · rw [hend, Array.getElem?_size] at hb
      cases hb
    · exact Option.some.inj (hb.symm.trans hzero)

/-- The text at an offset in a table ends behind its bytes. -/
theorem runs_bytesAt (h : start ≤ table.size) :
    Runs table start (start + (bytesAt table start).length) := by
  obtain ⟨rest, hdrop, hrest⟩ := exists_rest table start
  have hget (i : Nat) : table[start + i]? = (bytesAt table start ++ rest)[i]? := by
    rw [← hdrop, List.getElem?_drop, Array.getElem?_toList]
  have hlength := congrArg List.length hdrop
  rw [List.length_drop, List.length_append, Array.length_toList] at hlength
  refine ⟨Nat.le_add_right _ _, by omega, fun i hi hlt hzero => ?_, ?_⟩
  · rw [← Nat.add_sub_cancel' hi, hget, List.getElem?_append_left (by omega)] at hzero
    exact zero_notMem_bytesAt table start (List.mem_of_getElem? hzero)
  -- behind the bytes of the name the table has ended or has a NUL
  · cases rest with
    | nil =>
      rw [List.length_nil] at hlength
      exact .inl (by omega)
    | cons b more =>
      rw [hget, List.getElem?_append_right (Nat.le_refl _), Nat.sub_self, List.getElem?_cons_zero,
        hrest b more rfl]
      exact .inr rfl

/-! ### Single look-ups -/

/-- Two look-ups find the same text, or report the same defect, each at its own offset. -/
inductive Alike (offset offset' : Int) :
    Except DecodeError String → Except DecodeError String → Prop
  | text (s : String) : Alike offset offset' (.ok s) (.ok s)
  | illFormed (defect : Utf8.Defect) :
      Alike offset offset' (.error (.invalidText offset defect))
        (.error (.invalidText offset' defect))

/-- What is found in a table depends on the bytes of the text alone. -/
theorem lookup_alike {table' : Bytes} {start' : Nat} (h : start < table.size)
    (h' : start' < table'.size) (hbytes : bytesAt table' start' = bytesAt table start) :
    Alike start start' (lookup table start) (lookup table' start') := by
  rw [lookup_of_lt h, lookup_of_lt h', hbytes]
  cases Utf8.decode (bytesAt table start) with
  | ok chars => exact .text _
  | error defect => exact .illFormed defect

/-- Offsets that are negative or behind the table are the ones that are reported as outside. -/
theorem lookup_eq_outside_iff {offset : Int} :
    lookup table offset = .error (.stringOutside offset table.size) ↔
      offset < 0 ∨ (table.size : Int) ≤ offset := by
  unfold lookup
  constructor
  · intro h
    by_contra hinside
    rw [if_neg hinside] at h
    cases hd : Utf8.decode (bytesAt table offset.toNat) with
    | ok chars =>
      rw [hd] at h
      cases h
    | error defect =>
      rw [hd] at h
      cases h
  · intro h
    rw [if_pos h]

/-- A text that is found holds no NUL. -/
theorem nul_notMem_of_lookup {s : String} (h : lookup table start = .ok s) :
    '\x00' ∉ s.toList := by
  intro hnul
  obtain ⟨-, hbytes⟩ := lookup_eq_ok_iff.mp h
  refine zero_notMem_bytesAt table start (hbytes ▸ List.mem_flatMap.mpr ⟨_, hnul, ?_⟩)
  decide

/-- **Look-ups.**  Outside the table there is nothing.  From an offset in it the bytes up to the
    first NUL, or to the end, decide alone: when they are legal, there is a text, which holds no NUL
    and has just these bytes as its encoding; and otherwise the defect is reported at the end of
    their longest legal beginning. -/
theorem lookup_exact (table : Bytes) (offset : Int) :
    (lookup table offset = .error (.stringOutside offset table.size) ↔
      offset < 0 ∨ (table.size : Int) ≤ offset) ∧
    ∀ start : Nat, offset = start → start < table.size → ∃ stop, Runs table start stop ∧
      let bytes := (table.extract start stop).toList
      ((∃ s, lookup table offset = .ok s) ↔ Utf8.Legal bytes) ∧
      (∀ s, lookup table offset = .ok s → '\x00' ∉ s.toList ∧ Utf8.encode s.toList = bytes) ∧
      (¬ Utf8.Legal bytes → ∃ defect, lookup table offset = .error (.invalidText offset defect) ∧
        IsGreatest {n | n ≤ bytes.length ∧ Utf8.Legal (bytes.take n)} defect.start) ∧
      ∀ (table' : Bytes) (start' stop' : Nat), start' < table'.size → Runs table' start' stop' →
        (table'.extract start' stop').toList = bytes →
          Alike offset start' (lookup table offset) (lookup table' start') := by
  refine ⟨lookup_eq_outside_iff, ?_⟩
  rintro start rfl hstart
  have hruns := runs_bytesAt (Nat.le_of_lt hstart)
  refine ⟨_, hruns, ?_⟩
  rw [hruns.toList_extract]
  refine ⟨?found, fun s hs => ?text, fun hlegal => ?illFormed, ?alike⟩
  case found =>
    rw [← resolves_iff, Utf8.legal_iff_wellFormed]
    exact and_iff_right hstart
  case text => exact ⟨nul_notMem_of_lookup hs, (lookup_eq_ok_iff.mp hs).2⟩
  case illFormed =>
    rw [Utf8.legal_iff_wellFormed] at hlegal
    obtain ⟨defect, hdefect⟩ := Utf8.not_wellFormed_iff.mp hlegal
    refine ⟨defect, ?_, Utf8.isGreatest_start hdefect⟩
    exact lookup_eq_error_iff.mpr (.illFormed hstart hlegal defect hdefect)
  case alike =>
    intro table' start' stop' hstart' hruns' hbytes
    rw [hruns'.toList_extract] at hbytes
    exact lookup_alike hstart hstart' hbytes

/-- Two texts, the second of which breaks off within a character. -/
def mixedTable : Bytes :=
  #[0x61, 0xF0, 0x9F, 0x98, 0x80, 0x00, 0x62, 0xE2, 0x82]

/-- The first text is found, and the defect of the second one is reported behind its first
    character. -/
theorem lookup_exact_mixedTable :
    (∃ s, lookup mixedTable 0 = .ok s ∧
      Utf8.encode s.toList = [0x61, 0xF0, 0x9F, 0x98, 0x80]) ∧
    ∃ defect, lookup mixedTable 6 = .error (.invalidText 6 defect) ∧ defect.start = 1 := by
  constructor
  · obtain ⟨stop, hruns, hfound, htext, -⟩ := (lookup_exact mixedTable 0).2 0 rfl (by decide)
    rw [hruns.toList_extract] at hfound htext
    obtain ⟨s, hs⟩ := hfound.mpr (Utf8.legal_iff_wellFormed.mpr ⟨['a', '😀'], by decide⟩)
    exact ⟨s, hs, (htext s hs).2⟩
  · obtain ⟨stop, hruns, -, -, hillFormed, -⟩ := (lookup_exact mixedTable 6).2 6 rfl (by decide)
    have hdecode : Utf8.decode (bytesAt mixedTable 6) = .error ⟨1, 2, 0xE2, .unexpectedEnd⟩ := by
      decide
    rw [hruns.toList_extract, Utf8.legal_iff_wellFormed] at hillFormed
    obtain ⟨defect, hlookup, hstart⟩ := hillFormed (Utf8.not_wellFormed_iff.mpr ⟨_, hdecode⟩)
    exact ⟨defect, hlookup, IsGreatest.unique hstart (Utf8.isGreatest_start hdecode)⟩

/-! ### Texts within texts -/

/-- The bytes of a text are counted by the library as well. -/
theorem length_encode_toList (s : String) : (Utf8.encode s.toList).length = s.utf8ByteSize := by
  have hbytes : s.toByteArray = (Utf8.encode s.toList).toByteArray := by
    conv_lhs => rw [← String.ofList_toList (s := s), String.toByteArray_ofList]
    rfl
  rw [String.utf8ByteSize, hbytes, List.size_toByteArray]

/-- A position in the encoding of a text either divides the text in two, or it is taken by a
    continuation byte. -/
theorem divides_or_within (s : String) {k : Nat} (hk : k ≤ s.utf8ByteSize) :
    (∃ before rest : String, s = before ++ rest ∧ before.utf8ByteSize = k) ∨
      ∃ b rest, (Utf8.encode s.toList).drop k = b :: rest ∧ Utf8.Within b (0x80, 0xBF) := by
  by_cases hend : k = s.utf8ByteSize
  · exact .inl ⟨s, "", (String.append_empty).symm, hend.symm⟩
  · have hlt : k < (Utf8.encode s.toList).length := by
      rw [length_encode_toList]
      omega
    rcases Utf8.drop_encode s.toList hlt with ⟨before, rest, hs, hlength⟩ | hwithin
    · refine .inl ⟨.ofList before, .ofList rest, ?_, ?_⟩
      · rw [← String.ofList_append, ← hs, String.ofList_toList]
      · rw [← length_encode_toList, String.toList_ofList, hlength]
    · exact .inr hwithin

/-- What the encoding of a text goes on with after its first part. -/
theorem drop_encode_append (before rest : String) :
    (Utf8.encode (before ++ rest).toList).drop before.utf8ByteSize = Utf8.encode rest.toList := by
  rw [String.toList_append, Utf8.encode_append, ← length_encode_toList, List.drop_left]

/-- **Shared tails.**  Where a text is found, the texts that begin at its characters are its tails,
    and from within a character nothing is found: the defect is reported at once.  At its end there
    is the empty text when a NUL stands there, and nothing when the table ends.  So every text that
    is found within another one is a tail of it. -/
theorem lookup_tail {offset : Int} {s : String} (h : lookup table offset = .ok s) :
    (∀ before rest : String, s = before ++ rest → before.utf8ByteSize < s.utf8ByteSize →
      lookup table (offset + before.utf8ByteSize) = .ok rest) ∧
    (∀ k < s.utf8ByteSize,
      (¬ ∃ before rest : String, s = before ++ rest ∧ before.utf8ByteSize = k) →
      ∃ b, lookup table (offset + k) =
        .error (.invalidText (offset + k) ⟨0, 1, b, .invalidStart⟩)) ∧
    (table[(offset + s.utf8ByteSize).toNat]? = some 0 ∧
        lookup table (offset + s.utf8ByteSize) = .ok "" ∨
      offset + s.utf8ByteSize = table.size ∧
        lookup table (offset + s.utf8ByteSize) =
          .error (.stringOutside (offset + s.utf8ByteSize) table.size)) ∧
    ∀ k ≤ s.utf8ByteSize, ∀ tail, lookup table (offset + k) = .ok tail →
      ∃ before : String, s = before ++ tail := by
  have hinside : ¬ (offset < 0 ∨ (table.size : Int) ≤ offset) := by
    rw [← lookup_eq_outside_iff, h]
    nofun
  obtain ⟨start, rfl⟩ : ∃ start : Nat, offset = start := ⟨offset.toNat, by omega⟩
  obtain ⟨hstart, hbytes⟩ := lookup_eq_ok_iff.mp h
  have hlength : (bytesAt table start).length = s.utf8ByteSize := by
    rw [← hbytes, length_encode_toList]
  have hruns := runs_bytesAt (Nat.le_of_lt hstart)
  rw [hlength] at hruns
  -- the bytes of a text that begins within this one
  have htail {k : Nat} (hk : k ≤ s.utf8ByteSize) :
      bytesAt table (start + k) = (Utf8.encode s.toList).drop k := by
    rw [bytesAt_add (by omega), hbytes]
  have hcast (k : Nat) : (start : Int) + k = (start + k : Nat) := rfl
  simp only [hcast, Int.toNat_natCast]
  refine ⟨fun before rest hs hk => ?tail, fun k hk hdivides => ?within, ?stop,
    fun k hk tail hlookup => ?suffix⟩
  case tail =>
    have hle := hruns.le_size
    refine lookup_eq_ok_iff.mpr ⟨by omega, ?_⟩
    rw [htail (Nat.le_of_lt hk), hs, drop_encode_append]
  case within =>
    have hle := hruns.le_size
    rcases divides_or_within s (Nat.le_of_lt hk) with hdivides' | ⟨b, rest, hdrop, hb⟩
    · exact absurd hdivides' hdivides
    · refine ⟨b, ?_⟩
      rw [lookup_of_lt (by omega), htail (Nat.le_of_lt hk), hdrop, Utf8.decode_continuation hb]
  case stop =>
    rcases hruns.last with hend | hnul
    · exact .inr ⟨by rw [hend], lookup_of_le (Nat.le_of_eq hend.symm)⟩
    · obtain ⟨hlt, -⟩ := Array.getElem?_eq_some_iff.mp hnul
      refine .inl ⟨hnul, lookup_eq_ok_iff.mpr ⟨hlt, ?_⟩⟩
      rw [htail (Nat.le_refl _), ← length_encode_toList, List.drop_length]
      rfl
  case suffix =>
    obtain ⟨-, hencode⟩ := lookup_eq_ok_iff.mp hlookup
    rw [htail hk] at hencode
    rcases divides_or_within s hk with ⟨before, rest, rfl, rfl⟩ | ⟨b, rest, hdrop, hb⟩
    · rw [drop_encode_append, Utf8.encode_inj, String.toList_inj] at hencode
      exact ⟨before, by rw [hencode]⟩
    · -- no text begins with a continuation byte
      have hdecode := Utf8.decode_encode tail.toList
      rw [hencode, hdrop, Utf8.decode_continuation hb] at hdecode
      cases hdecode

/-- One text with a character of two bytes, ended by a NUL. -/
def accentedTable : Bytes :=
  #[0x61, 0xC3, 0xA9, 0x00]

/-- The text is found in part from its second character on, not from within it, and at its end as
    the empty one. -/
theorem lookup_tail_accentedTable :
    lookup accentedTable 0 = .ok "aé" ∧ lookup accentedTable 1 = .ok "é" ∧
      (∃ defect, lookup accentedTable 2 = .error (.invalidText 2 defect) ∧ defect.start = 0) ∧
      lookup accentedTable 3 = .ok "" := by
  have h : lookup accentedTable 0 = .ok "aé" := by decide
  obtain ⟨htail, hwithin, hstop, -⟩ := lookup_tail h
  refine ⟨h, htail "a" "é" (by decide) (by decide), ?_, ?_⟩
  -- the second byte is within the accented letter, so that no text begins there
  · have hdivides : ¬ ∃ before rest : String, "aé" = before ++ rest ∧ before.utf8ByteSize = 2 := by
      rintro ⟨before, rest, hs, hsize⟩
      have hdrop := drop_encode_append before rest
      have hdecode : Utf8.decode ((Utf8.encode "aé".toList).drop 2) =
          .error ⟨0, 1, 0xA9, .invalidStart⟩ := by
        decide
      rw [← hs, hsize] at hdrop
      rw [hdrop, Utf8.decode_encode] at hdecode
      cases hdecode
    obtain ⟨b, hlookup⟩ := hwithin 2 (by decide) hdivides
    exact ⟨_, hlookup, rfl⟩
  · rcases hstop with ⟨-, hempty⟩ | ⟨hend, -⟩
    · exact hempty
    · exact absurd hend (by decide)

end ElfInspect.StringTable
