import ElfInspect.Proofs.Utf8
import Mathlib.Data.List.Forall2
import Mathlib.Order.Bounds.Basic

namespace ElfInspect.Utf8

/-!
# Well-formed sequences

The Unicode standard gives the well-formed byte sequences of single characters as a table of ranges.
A byte string is legal when it is made of such sequences.  Here the legal strings are proved to be
the ones that encoding produces, and the strict decoder is located on all others.

* `sequenceRanges`, `IsSequence`, `Legal` — the table, its sequences, and the strings made of them;
* `isSequence_iff`, `legal_iff_wellFormed` — they are the encodings of characters and of character
  strings;
* `isGreatest_start` — a defect is reported at the end of the longest legal beginning;
* `drop_encode` — the bytes within the sequence of a character begin no sequence.
-/

/-- The ranges of the bytes of a well-formed sequence, one row for each kind. -/
def sequenceRanges : List (List (Nat × Nat)) :=
  [[(0x00, 0x7F)],
   [(0xC2, 0xDF), (0x80, 0xBF)],
   [(0xE0, 0xE0), (0xA0, 0xBF), (0x80, 0xBF)],
   [(0xE1, 0xEC), (0x80, 0xBF), (0x80, 0xBF)],
   [(0xED, 0xED), (0x80, 0x9F), (0x80, 0xBF)],
   [(0xEE, 0xEF), (0x80, 0xBF), (0x80, 0xBF)],
   [(0xF0, 0xF0), (0x90, 0xBF), (0x80, 0xBF), (0x80, 0xBF)],
   [(0xF1, 0xF3), (0x80, 0xBF), (0x80, 0xBF), (0x80, 0xBF)],
   [(0xF4, 0xF4), (0x80, 0x8F), (0x80, 0xBF), (0x80, 0xBF)]]

/-- A byte lies in a range, ends included. -/
def Within (b : UInt8) (range : Nat × Nat) : Prop :=
  range.1 ≤ b.toNat ∧ b.toNat ≤ range.2

/-- The bytes lie in the ranges of one row. -/
def IsSequence (bytes : List UInt8) : Prop :=
  ∃ ranges ∈ sequenceRanges, List.Forall₂ Within bytes ranges

/-- The bytes are well-formed sequences one after another. -/
def Legal (bytes : List UInt8) : Prop :=
  ∃ sequences : List (List UInt8), (∀ s ∈ sequences, IsSequence s) ∧ bytes = sequences.flatten

/-! ### Sequences and characters -/

/-- The ranges of the bytes after a lead byte. -/
def Lead.ranges (l : Lead) : List (Nat × Nat) :=
  (l.low, l.high) :: List.replicate (l.more - 1) (0x80, 0xBF)

/-- A lead byte is the head of a row. -/
theorem Lead.exists_row {b : UInt8} {l : Lead} (h : Lead.ofByte? b = some l) :
    ∃ first, Within b first ∧ first :: l.ranges ∈ sequenceRanges := by
  simp only [Lead.ofByte?] at h
  repeat' split at h
  all_goals
    simp only [reduceCtorEq, Option.some.injEq] at h
  all_goals
    subst h
    simp only [Lead.ranges, Nat.reduceSub, List.replicate]
  · exact ⟨(0xC2, 0xDF), ⟨by omega, by omega⟩, by decide⟩
  · exact ⟨(0xE0, 0xE0), ⟨by omega, by omega⟩, by decide⟩
  · exact ⟨(0xED, 0xED), ⟨by omega, by omega⟩, by decide⟩
  · -- the three-byte sequences without restriction stand in two rows
    by_cases hb : b.toNat ≤ 0xEC
    · exact ⟨(0xE1, 0xEC), ⟨by omega, hb⟩, by decide⟩
    · exact ⟨(0xEE, 0xEF), ⟨by omega, by omega⟩, by decide⟩
  · exact ⟨(0xF0, 0xF0), ⟨by omega, by omega⟩, by decide⟩
  · exact ⟨(0xF1, 0xF3), ⟨by omega, by omega⟩, by decide⟩
  · exact ⟨(0xF4, 0xF4), ⟨by omega, by omega⟩, by decide⟩

/-- A row begins with an ASCII byte or with a lead byte that announces the others. -/
theorem ofByte?_of_row {b : UInt8} {first : Nat × Nat} {ranges : List (Nat × Nat)}
    (hrow : first :: ranges ∈ sequenceRanges) (hb : Within b first) :
    b.toNat < 0x80 ∧ ranges = [] ∨ ∃ l, Lead.ofByte? b = some l ∧ l.ranges = ranges := by
  simp only [sequenceRanges, List.mem_cons, List.cons.injEq, List.not_mem_nil, or_false] at hrow
  obtain ⟨hlow, hhigh⟩ := hb
  rcases hrow with ⟨rfl, rfl⟩ | ⟨rfl, rfl⟩ | ⟨rfl, rfl⟩ | ⟨rfl, rfl⟩ | ⟨rfl, rfl⟩ | ⟨rfl, rfl⟩ |
    ⟨rfl, rfl⟩ | ⟨rfl, rfl⟩ | ⟨rfl, rfl⟩
  case inl => exact .inl ⟨by simp only at hhigh; omega, rfl⟩
  -- each of the other rows has a lead of its own
  all_goals
    refine .inr ?_
    simp only at hlow hhigh
  · exact ⟨⟨1, 0x80, 0xBF, b.toNat - 0xC0⟩, by grind [Lead.ofByte?], rfl⟩
  · exact ⟨⟨2, 0xA0, 0xBF, 0⟩, by grind [Lead.ofByte?], rfl⟩
  · exact ⟨⟨2, 0x80, 0xBF, b.toNat - 0xE0⟩, by grind [Lead.ofByte?], rfl⟩
  · exact ⟨⟨2, 0x80, 0x9F, b.toNat - 0xE0⟩, by grind [Lead.ofByte?], rfl⟩
  · exact ⟨⟨2, 0x80, 0xBF, b.toNat - 0xE0⟩, by grind [Lead.ofByte?], rfl⟩
  · exact ⟨⟨3, 0x90, 0xBF, 0⟩, by grind [Lead.ofByte?], rfl⟩
  · exact ⟨⟨3, 0x80, 0xBF, b.toNat - 0xF0⟩, by grind [Lead.ofByte?], rfl⟩
  · exact ⟨⟨3, 0x80, 0x8F, b.toNat - 0xF0⟩, by grind [Lead.ofByte?], rfl⟩

/-- A byte that carries six payload bits. -/
theorem toNat_payload (n : Nat) : (UInt8.ofNat (n % 64 + 0x80)).toNat = n % 64 + 0x80 := by
  rw [UInt8.toNat_ofNat']
  omega

/-- Six bits make a continuation byte. -/
theorem within_payload (n : Nat) : Within (UInt8.ofNat (n % 64 + 0x80)) (0x80, 0xBF) := by
  simp only [Within, toNat_payload]
  omega

/-- The last bytes of a sequence are continuation bytes. -/
theorem within_of_mem_tailBytes {count n : Nat} {b : UInt8} (h : b ∈ tailBytes count n) :
    Within b (0x80, 0xBF) := by
  induction count with
  | zero => cases h
  | succ count ih =>
    rcases List.mem_cons.mp h with rfl | h
    · exact within_payload _
    · exact ih h

/-- All continuation bytes are in their range, but the first may have a narrower one. -/
theorem forall₂_tailBytes (count n : Nat) :
    List.Forall₂ Within (tailBytes count n) (List.replicate count (0x80, 0xBF)) := by
  induction count with
  | zero => exact .nil
  | succ count ih => exact .cons (within_payload _) ih

/-- Continuation bytes are the last bytes of some code point, whatever its bits before them. -/
theorem exists_tailBytes_eq (value : Nat) {count : Nat} {rest : List UInt8}
    (h : List.Forall₂ Within rest (List.replicate count (0x80, 0xBF))) :
    ∃ n, n / 64 ^ count = value ∧ rest = tailBytes count n := by
  induction count generalizing value rest with
  | zero =>
    cases h
    exact ⟨value, Nat.div_one value, rfl⟩
  | succ count ih =>
    obtain ⟨b, rest, ⟨hlow, hhigh⟩, hrest, rfl⟩ := List.forall₂_cons_right_iff.mp h
    -- the first of them adds its payload to the bits before
    obtain ⟨n, hn, rfl⟩ := ih (value * 64 + (b.toNat - 0x80)) hrest
    simp only at hlow hhigh
    refine ⟨n, ?_, ?_⟩
    · rw [Nat.pow_succ, ← Nat.div_div_eq_div_mul, hn]
      omega
    · have hbyte : n / 64 ^ count % 64 + 0x80 = b.toNat := by omega
      rw [tailBytes, hbyte, UInt8.ofNat_toNat]

/-- What may follow a lead byte are the last bytes of the code points that complete it. -/
theorem Lead.forall₂_ranges_iff {l : Lead} (hmore : 1 ≤ l.more) (hlow : 0x80 ≤ l.low)
    (hhigh : l.high ≤ 0xBF) {rest : List UInt8} :
    List.Forall₂ Within rest l.ranges ↔
      ∃ n, rest = tailBytes l.more n ∧ Completes n l.more l.low l.high l.value := by
  obtain ⟨k, hk⟩ : ∃ k, l.more = k + 1 := ⟨l.more - 1, by omega⟩
  rw [Lead.ranges, hk, Nat.add_sub_cancel]
  constructor
  · intro h
    obtain ⟨b, rest, ⟨hb, hb'⟩, hrest, rfl⟩ := List.forall₂_cons_right_iff.mp h
    -- the range of the first continuation byte is a part of that of the others
    have hwhole : List.Forall₂ Within (b :: rest) (List.replicate (k + 1) (0x80, 0xBF)) :=
      .cons ⟨Nat.le_trans hlow hb, Nat.le_trans hb' hhigh⟩ hrest
    obtain ⟨n, hn, htail⟩ := exists_tailBytes_eq l.value hwhole
    obtain ⟨rfl, -⟩ := List.cons.inj htail
    rw [toNat_payload] at hb hb'
    exact ⟨n, htail, hn, hb, hb'⟩
  · rintro ⟨n, rfl, -, hb, hb'⟩
    refine .cons ?_ (forall₂_tailBytes k n)
    rw [Within, toNat_payload]
    exact ⟨hb, hb'⟩

/-- **Sequences.**  The table lists the encodings of the characters. -/
theorem isSequence_iff {bytes : List UInt8} :
    IsSequence bytes ↔ ∃ c, bytes = String.utf8EncodeChar c := by
  constructor
  · rintro ⟨row, hrow, hbytes⟩
    cases hbytes with
    | nil => simp [sequenceRanges] at hrow
    | @cons b first rest ranges hb hrest =>
      -- a row is for ASCII or for a lead byte
      rcases ofByte?_of_row hrow hb with ⟨hascii, rfl⟩ | ⟨l, hl, rfl⟩
      · cases hrest
        have hc : (Char.ofNat b.toNat).toNat = b.toNat :=
          toNat_ofNat_of_isValidChar (by simp only [Nat.isValidChar]; omega)
        exact ⟨Char.ofNat b.toNat, by rw [encodeChar_one (by omega), hc, UInt8.ofNat_toNat]⟩
      · obtain ⟨-, hmore, hlow, hhigh⟩ := Lead.ofByte?_bounds hl
        obtain ⟨n, rfl, hn⟩ := (Lead.forall₂_ranges_iff hmore hlow hhigh).mp hrest
        exact ⟨Char.ofNat n, (encodeChar_of_lead hl hn).symm⟩
  · rintro ⟨c, rfl⟩
    by_cases hc : c.toNat < 0x80
    · have hb : (UInt8.ofNat c.toNat).toNat = c.toNat := by
        rw [UInt8.toNat_ofNat']
        omega
      rw [encodeChar_one hc]
      exact ⟨[(0x00, 0x7F)], by decide, .cons ⟨Nat.zero_le _, by omega⟩ .nil⟩
    · obtain ⟨b, l, hl, hbytes, hn⟩ := exists_lead c (by omega)
      obtain ⟨-, hmore, hlow, hhigh⟩ := Lead.ofByte?_bounds hl
      obtain ⟨first, hb, hrow⟩ := Lead.exists_row hl
      rw [hbytes]
      exact ⟨_, hrow, .cons hb ((Lead.forall₂_ranges_iff hmore hlow hhigh).mpr ⟨_, rfl, hn⟩)⟩

/-- **Legal strings.**  They are the encodings of the character strings. -/
theorem legal_iff_wellFormed {bytes : List UInt8} : Legal bytes ↔ WellFormed bytes := by
  constructor
  · rintro ⟨sequences, hsequences, rfl⟩
    -- each sequence is the encoding of a character
    induction sequences with
    | nil => exact ⟨[], rfl⟩
    | cons s rest ih =>
      obtain ⟨hs, hrest⟩ := List.forall_mem_cons.mp hsequences
      obtain ⟨c, rfl⟩ := isSequence_iff.mp hs
      obtain ⟨chars, hchars⟩ := ih hrest
      exact ⟨c :: chars, by rw [List.flatten_cons, hchars, encode_cons]⟩
  · rintro ⟨chars, rfl⟩
    refine ⟨chars.map String.utf8EncodeChar, fun s hs => ?_, rfl⟩
    obtain ⟨c, -, rfl⟩ := List.mem_map.mp hs
    exact isSequence_iff.mpr ⟨c, rfl⟩

/-! ### Where a defect is reported -/

/-- The bytes before a defect are taken without one, unless it is the sequence that has begun which
    cannot go on. -/
theorem before_defect {position : Nat} {done : List Char} {pending : Option Pending}
    {bytes : List UInt8} {defect : Defect}
    (h : decodeFrom position done pending bytes = .error defect) :
    pending.map Pending.start = some defect.start ∨
      position ≤ defect.start ∧ ∃ chars,
        decodeFrom position done pending (bytes.take (defect.start - position)) = .ok chars := by
  -- a step that goes on takes one byte, both here and among the bytes before the defect
  have hstep {position : Nat} {b : UInt8} {rest : List UInt8} (hle : position + 1 ≤ defect.start) :
      (b :: rest).take (defect.start - position) =
        b :: rest.take (defect.start - (position + 1)) := by
    rw [show defect.start - position = defect.start - (position + 1) + 1 by omega,
      List.take_succ_cons]
  fun_induction decodeFrom position done pending bytes with
  | case1 position done => cases h
  | case2 position done p =>
    cases h
    exact .inl rfl
  | case3 position done b rest hb ih =>
    rcases ih h with hp | ⟨hle, chars, hrun⟩
    · cases hp
    · refine .inr ⟨by omega, chars, ?_⟩
      rw [hstep hle, decodeFrom, if_pos hb]
      exact hrun
  | case4 position done b rest hb hl =>
    cases h
    exact .inr ⟨Nat.le_refl _, done.reverse, by rw [Nat.sub_self, List.take_zero, decodeFrom]⟩
  | case5 position done b rest hb l hl ih =>
    rcases ih h with hp | ⟨hle, chars, hrun⟩
    · -- the sequence that begins here is the one that cannot go on
      have hstart : position = defect.start := Option.some.inj hp
      refine .inr ⟨by omega, done.reverse, ?_⟩
      rw [hstart, Nat.sub_self, List.take_zero, decodeFrom]
    · refine .inr ⟨by omega, chars, ?_⟩
      rw [hstep hle]
      simp only [decodeFrom, if_neg hb, hl]
      exact hrun
  | case6 position done p b rest hrange value hlast ih =>
    rcases ih h with hp | ⟨hle, chars, hrun⟩
    · cases hp
    · refine .inr ⟨by omega, chars, ?_⟩
      rw [hstep hle, decodeFrom, if_pos hrange, if_pos hlast]
      exact hrun
  | case7 position done p b rest hrange value hlast ih =>
    rcases ih h with hp | ⟨hle, chars, hrun⟩
    · exact .inl hp
    · refine .inr ⟨by omega, chars, ?_⟩
      rw [hstep hle, decodeFrom, if_pos hrange, if_neg hlast]
      exact hrun
  | case8 position done p b rest hrange =>
    cases h
    exact .inl rfl

/-- **Defects.**  A defect is reported at the end of the longest legal beginning. -/
theorem isGreatest_start {bytes : List UInt8} {defect : Defect} (h : decode bytes = .error defect) :
    IsGreatest {n | n ≤ bytes.length ∧ Legal (bytes.take n)} defect.start := by
  rcases before_defect h with hp | ⟨-, chars, hbefore⟩
  · cases hp
  rw [Nat.sub_zero] at hbefore
  refine ⟨⟨?_, ?_⟩, ?_⟩
  · -- otherwise all bytes stand before the defect
    by_contra hlt
    rw [List.take_of_length_le (by omega), ← decode, h] at hbefore
    cases hbefore
  · exact legal_iff_wellFormed.mpr ⟨chars, decode_eq_ok_iff.mp hbefore⟩
  · rintro n ⟨hn, hlegal⟩
    obtain ⟨taken, htaken⟩ := legal_iff_wellFormed.mp hlegal
    -- the decoder gets past a legal beginning
    rw [decode, ← List.take_append_drop n bytes, htaken, decodeFrom_encode_append] at h
    rcases before_defect h with hp | ⟨hle, -⟩
    · cases hp
    · rwa [← htaken, List.length_take, Nat.min_eq_left hn, Nat.zero_add] at hle

/-! ### Within a sequence -/

/-- A continuation byte begins no sequence. -/
theorem decode_continuation {b : UInt8} (h : Within b (0x80, 0xBF)) (rest : List UInt8) :
    decode (b :: rest) = .error ⟨0, 1, b, .invalidStart⟩ := by
  obtain ⟨hlow, hhigh⟩ := h
  simp only at hlow hhigh
  have hlead : Lead.ofByte? b = none := by
    simp only [Lead.ofByte?]
    exact if_pos (by omega)
  simp only [decode, decodeFrom, if_neg (show ¬ b.toNat < 0x80 by omega), hlead]

/-- The sequence of a character goes on with continuation bytes. -/
theorem exists_encodeChar (c : Char) :
    ∃ b rest, String.utf8EncodeChar c = b :: rest ∧ ∀ x ∈ rest, Within x (0x80, 0xBF) := by
  by_cases hc : c.toNat < 0x80
  · exact ⟨_, [], encodeChar_one hc, nofun⟩
  · obtain ⟨b, l, -, hbytes, -⟩ := exists_lead c (by omega)
    exact ⟨b, _, hbytes, fun x hx => within_of_mem_tailBytes hx⟩

/-- **Inside characters.**  Each position in an encoding either stands between two characters, or a
    continuation byte stands there. -/
theorem drop_encode (chars : List Char) {k : Nat} (hk : k < (encode chars).length) :
    (∃ before rest, chars = before ++ rest ∧ (encode before).length = k) ∨
      ∃ b rest, (encode chars).drop k = b :: rest ∧ Within b (0x80, 0xBF) := by
  induction chars generalizing k with
  | nil => cases hk
  | cons c chars ih =>
    obtain ⟨b, rest, hbytes, hrest⟩ := exists_encodeChar c
    rw [encode_cons, List.length_append] at hk
    -- the cut is in the first character, or else behind it
    by_cases hfirst : k < (String.utf8EncodeChar c).length
    · cases k with
      | zero => exact .inl ⟨[], c :: chars, rfl, rfl⟩
      | succ k =>
        rw [hbytes, List.length_cons] at hfirst
        have hk' : k < rest.length := by omega
        refine .inr ⟨rest[k], rest.drop (k + 1) ++ encode chars, ?_,
          hrest _ (List.getElem_mem hk')⟩
        rw [encode_cons, hbytes, List.cons_append, List.drop_succ_cons,
          List.drop_append_of_le_length (by omega), List.drop_eq_getElem_cons hk', List.cons_append]
    · rcases ih (show k - (String.utf8EncodeChar c).length < _ by omega) with
        ⟨before, after, rfl, hlength⟩ | ⟨b', rest', hdrop, hb'⟩
      · refine .inl ⟨c :: before, after, rfl, ?_⟩
        rw [encode_cons, List.length_append, hlength]
        omega
      · refine .inr ⟨b', rest', ?_, hb'⟩
        rw [encode_cons, List.drop_append, List.drop_of_length_le (by omega), hdrop,
          List.nil_append]

end ElfInspect.Utf8
