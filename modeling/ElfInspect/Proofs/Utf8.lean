import ElfInspect.Text.Utf8
import Mathlib.Algebra.GroupWithZero.Nat

namespace ElfInspect.Utf8

/-!
# Strict decoding inverts encoding

The decoder of `ElfInspect.Text.Utf8` runs byte by byte with a sequence that has begun; the encoder
writes one character after another.  The two meet in the code points that complete a sequence:

* `tailBytes count n` — the last `count` bytes of the sequence of a code point `n`;
* `Completes n more low high value` — `n` has the payload bits read so far, and its next byte is in
  the range that the decoder accepts;
* `encodeChar_of_lead`, `exists_lead` — a lead byte announces exactly the sequences of the
  characters that complete it;
* `decodeFrom_tailBytes`, `exists_tailBytes` — from within a sequence, the decoder accepts exactly
  the bytes of such a code point;
* `decode_eq_ok_iff` — the decoder accepts exactly the encodings of character strings;
* `zero_notMem_encode` — no encoding has a zero byte unless it is that of a NUL.
-/

/-- The last `count` bytes of the sequence of a code point: six payload bits each. -/
def tailBytes : (count n : Nat) → List UInt8
  | 0, _ => []
  | count + 1, n => UInt8.ofNat (n / 64 ^ count % 64 + 0x80) :: tailBytes count n

theorem length_tailBytes (count n : Nat) : (tailBytes count n).length = count := by
  induction count with
  | zero => rfl
  | succ count ih => rw [tailBytes, List.length_cons, ih]

/-- A code point has the payload bits `value` before its last `more` bytes, and the first of these
    lies between `low` and `high`. -/
structure Completes (n more low high value : Nat) : Prop where
  value_eq : n / 64 ^ more = value
  low_le : low ≤ n / 64 ^ (more - 1) % 64 + 0x80
  le_high : n / 64 ^ (more - 1) % 64 + 0x80 ≤ high

/-- Valid code points are those of characters. -/
theorem toNat_ofNat_of_isValidChar {n : Nat} (h : n.isValidChar) : (Char.ofNat n).toNat = n := by
  rw [Char.ofNat, dif_pos h]
  rfl

/-! ### The sequences of one character -/

/-- Characters of ASCII are encoded by themselves. -/
theorem encodeChar_one {c : Char} (h : c.toNat < 0x80) :
    String.utf8EncodeChar c = [UInt8.ofNat c.toNat] := by
  simp only [Char.toNat] at h ⊢
  rw [String.utf8EncodeChar, if_pos (by omega)]

/-- Two bytes have room for eleven bits. -/
theorem encodeChar_two {c : Char} (h0 : 0x80 ≤ c.toNat) (h1 : c.toNat < 0x800) :
    String.utf8EncodeChar c = UInt8.ofNat (c.toNat / 64 + 0xC0) :: tailBytes 1 c.toNat := by
  simp only [Char.toNat] at h0 h1 ⊢
  have hlead : c.val.toNat / 64 % 0x20 = c.val.toNat / 64 := by omega
  rw [String.utf8EncodeChar, if_neg (by omega), if_pos (by omega), hlead]
  simp [tailBytes]

/-- Three bytes have room for sixteen bits. -/
theorem encodeChar_three {c : Char} (h0 : 0x800 ≤ c.toNat) (h1 : c.toNat < 0x10000) :
    String.utf8EncodeChar c = UInt8.ofNat (c.toNat / 4096 + 0xE0) :: tailBytes 2 c.toNat := by
  simp only [Char.toNat] at h0 h1 ⊢
  have hlead : c.val.toNat / 4096 % 0x10 = c.val.toNat / 4096 := by omega
  rw [String.utf8EncodeChar, if_neg (by omega), if_neg (by omega), if_pos (by omega), hlead]
  simp [tailBytes]

/-- Four bytes have room for all characters. -/
theorem encodeChar_four {c : Char} (h : 0x10000 ≤ c.toNat) :
    String.utf8EncodeChar c = UInt8.ofNat (c.toNat / 262144 + 0xF0) :: tailBytes 3 c.toNat := by
  have hvalid := c.valid
  simp only [UInt32.isValidChar, Nat.isValidChar] at hvalid
  simp only [Char.toNat] at h ⊢
  have hlead : c.val.toNat / 262144 % 0x08 = c.val.toNat / 262144 := by omega
  rw [String.utf8EncodeChar, if_neg (by omega), if_neg (by omega), if_neg (by omega), hlead]
  simp [tailBytes]

/-- A lead byte is no ASCII byte, announces at least one more byte, and restricts it to
    continuation bytes. -/
theorem Lead.ofByte?_bounds {b : UInt8} {l : Lead} (h : Lead.ofByte? b = some l) :
    0x80 ≤ b.toNat ∧ 1 ≤ l.more ∧ 0x80 ≤ l.low ∧ l.high ≤ 0xBF := by
  simp only [Lead.ofByte?] at h
  repeat' split at h
  all_goals
    simp only [reduceCtorEq, Option.some.injEq] at h
  all_goals
    subst h
    simp only
    omega

/-- The code points that complete a lead byte are characters, and their sequences begin with it. -/
theorem encodeChar_of_lead {b : UInt8} {l : Lead} {n : Nat} (hb : Lead.ofByte? b = some l)
    (hn : Completes n l.more l.low l.high l.value) :
    String.utf8EncodeChar (Char.ofNat n) = b :: tailBytes l.more n := by
  obtain ⟨hvalue, hlow, hhigh⟩ := hn
  have hlt := b.toNat_lt
  have hbyte (k : Nat) (hk : k = b.toNat) : UInt8.ofNat k = b := by rw [hk, UInt8.ofNat_toNat]
  simp only [Lead.ofByte?] at hb
  repeat' split at hb
  all_goals
    simp only [reduceCtorEq, Option.some.injEq] at hb
  -- the range of the second byte keeps overlong forms, surrogates and large values out
  all_goals
    subst hb
    simp only [Nat.reduceSub, Nat.pow_zero, Nat.reducePow, Nat.div_one, Nat.pow_one]
      at hvalue hlow hhigh
    have hc : (Char.ofNat n).toNat = n :=
      toNat_ofNat_of_isValidChar (by simp only [Nat.isValidChar]; omega)
  · rw [encodeChar_two (by omega) (by omega), hc, hbyte _ (by omega)]
  · rw [encodeChar_three (by omega) (by omega), hc, hbyte _ (by omega)]
  · rw [encodeChar_three (by omega) (by omega), hc, hbyte _ (by omega)]
  · rw [encodeChar_three (by omega) (by omega), hc, hbyte _ (by omega)]
  · rw [encodeChar_four (by omega), hc, hbyte _ (by omega)]
  · rw [encodeChar_four (by omega), hc, hbyte _ (by omega)]
  · rw [encodeChar_four (by omega), hc, hbyte _ (by omega)]

/-- The sequence of a character beyond ASCII begins with a lead byte that the character
    completes. -/
theorem exists_lead (c : Char) (h : 0x80 ≤ c.toNat) :
    ∃ b l, Lead.ofByte? b = some l ∧ String.utf8EncodeChar c = b :: tailBytes l.more c.toNat ∧
      Completes c.toNat l.more l.low l.high l.value := by
  have hvalid : c.toNat < 0xD800 ∨ 0xDFFF < c.toNat ∧ c.toNat < 0x110000 := c.valid
  have hbyte (k : Nat) (hk : k < 256) : (UInt8.ofNat k).toNat = k := by
    rw [UInt8.toNat_ofNat', Nat.mod_eq_of_lt hk]
  -- the lead byte depends on how many bits there are, and on which characters would have a shorter
  -- encoding or none
  by_cases h2 : c.toNat < 0x800
  · have hb := hbyte (c.toNat / 64 + 0xC0) (by omega)
    refine ⟨_, ⟨1, 0x80, 0xBF, c.toNat / 64⟩, ?_, encodeChar_two h h2, ?_⟩
    · simp only [Lead.ofByte?, hb]
      rw [if_neg (by omega), if_pos (by omega), Nat.add_sub_cancel]
    · constructor <;> dsimp only <;> omega
  by_cases h3 : c.toNat < 0x10000
  · have hb := hbyte (c.toNat / 4096 + 0xE0) (by omega)
    obtain ⟨l, hl, hmore, hc⟩ : ∃ l,
        Lead.ofByte? (UInt8.ofNat (c.toNat / 4096 + 0xE0)) = some l ∧ l.more = 2 ∧
          Completes c.toNat l.more l.low l.high l.value := by
      simp only [Lead.ofByte?, hb]
      rw [if_neg (by omega), if_neg (by omega)]
      repeat' split
      all_goals first
        | omega
        | refine ⟨_, rfl, rfl, ?_⟩
          constructor <;> simp <;> omega
    exact ⟨_, l, hl, hmore ▸ encodeChar_three (by omega) h3, hc⟩
  · have hb := hbyte (c.toNat / 262144 + 0xF0) (by omega)
    obtain ⟨l, hl, hmore, hc⟩ : ∃ l,
        Lead.ofByte? (UInt8.ofNat (c.toNat / 262144 + 0xF0)) = some l ∧ l.more = 3 ∧
          Completes c.toNat l.more l.low l.high l.value := by
      simp only [Lead.ofByte?, hb]
      rw [if_neg (by omega), if_neg (by omega), if_neg (by omega), if_neg (by omega),
        if_neg (by omega)]
      repeat' split
      all_goals first
        | omega
        | refine ⟨_, rfl, rfl, ?_⟩
          constructor <;> simp <;> omega
    exact ⟨_, l, hl, hmore ▸ encodeChar_four (by omega), hc⟩

/-! ### From within a sequence -/

/-- The decoder takes the bytes of any code point that completes a sequence that has begun. -/
theorem decodeFrom_tailBytes (position : Nat) (done : List Char) (p : Pending) (n : Nat)
    (rest : List UInt8) (hmore : 1 ≤ p.more) (hn : Completes n p.more p.low p.high p.value) :
    decodeFrom position done (some p) (tailBytes p.more n ++ rest) =
      decodeFrom (position + p.more) (Char.ofNat n :: done) none rest := by
  -- the induction is on the continuation bytes that are left, of which there is at least one
  obtain ⟨k, hk⟩ : ∃ k, p.more = k + 1 := ⟨p.more - 1, by omega⟩
  obtain ⟨hvalue, hlow, hhigh⟩ := hn
  induction k generalizing position p with
  | zero =>
    simp only [hk, Nat.zero_add, Nat.pow_one, Nat.sub_self, Nat.pow_zero, Nat.div_one]
      at hvalue hlow hhigh
    have hb : (UInt8.ofNat (n % 64 + 0x80)).toNat = n % 64 + 0x80 := by simp; omega
    have hchar : p.value * 64 + (n % 64 + 0x80 - 0x80) = n := by omega
    simp only [hk, tailBytes, decodeFrom, List.cons_append, List.nil_append, Nat.pow_zero,
      Nat.div_one, hb, hchar]
    rw [if_pos ⟨hlow, hhigh⟩, if_pos (by omega)]
  | succ k ih =>
    simp only [hk, Nat.add_sub_cancel] at hvalue hlow hhigh
    have hb : (UInt8.ofNat (n / 64 ^ (k + 1) % 64 + 0x80)).toNat =
        n / 64 ^ (k + 1) % 64 + 0x80 := by
      simp; omega
    -- the bits taken so far, together with those of the next byte
    have hpow : n / 64 ^ (k + 1 + 1) = n / 64 ^ (k + 1) / 64 := by
      rw [Nat.div_div_eq_div_mul, ← Nat.pow_succ]
    have hnext : p.value * 64 + (n / 64 ^ (k + 1) % 64 + 0x80 - 0x80) = n / 64 ^ (k + 1) := by
      omega
    have hmore' : p.more - 1 = k + 1 := by omega
    rw [hk, tailBytes]
    simp only [List.cons_append, decodeFrom, hb, hnext, hmore']
    rw [if_pos ⟨hlow, hhigh⟩, if_neg (by omega)]
    rw [ih (position + 1) ⟨p.lead, p.start, p.taken + 1, k + 1, 0x80, 0xBF, n / 64 ^ (k + 1)⟩
      (by simp) rfl rfl (by simp) (by simp; omega)]
    rw [Nat.add_assoc, Nat.add_comm 1]

/-- Decoding that succeeds from within a sequence has read a code point that completes it. -/
theorem exists_tailBytes {position : Nat} {done chars : List Char} {p : Pending}
    {bytes : List UInt8} (hmore : 1 ≤ p.more) (hlow : 0x80 ≤ p.low) (hhigh : p.high ≤ 0xBF)
    (h : decodeFrom position done (some p) bytes = .ok chars) :
    ∃ n rest, bytes = tailBytes p.more n ++ rest ∧ Completes n p.more p.low p.high p.value := by
  -- again on the continuation bytes that are left
  obtain ⟨k, hk⟩ : ∃ k, p.more = k + 1 := ⟨p.more - 1, by omega⟩
  induction k generalizing position p bytes with
  | zero =>
    cases bytes with
    | nil => simp [decodeFrom] at h
    | cons b rest =>
      simp only [decodeFrom] at h
      split at h
      · rename_i hrange
        obtain ⟨n, hn⟩ : ∃ n, n = p.value * 64 + (b.toNat - 0x80) := ⟨_, rfl⟩
        have hb : n % 64 + 0x80 = b.toNat := by omega
        refine ⟨n, rest, ?_, ?_, ?_, ?_⟩
        · rw [hk, tailBytes, tailBytes, Nat.pow_zero, Nat.div_one, hb, UInt8.ofNat_toNat]
          rfl
        · rw [hk, Nat.zero_add, Nat.pow_one]
          omega
        · simpa [hk, hb] using hrange.1
        · simpa [hk, hb] using hrange.2
      · simp at h
  | succ k ih =>
    cases bytes with
    | nil => simp [decodeFrom] at h
    | cons b rest =>
      simp only [decodeFrom] at h
      split at h
      · rename_i hrange
        rw [if_neg (by omega)] at h
        obtain ⟨n, rest', rfl, hvalue, -, -⟩ :=
          ih (by simp; omega) (by simp) (by simp) h (by simp [hk])
        simp only [hk, Nat.add_sub_cancel] at hvalue
        have hb : n / 64 ^ (k + 1) % 64 + 0x80 = b.toNat := by omega
        refine ⟨n, rest', ?_, ?_, ?_, ?_⟩
        · simp [hk, tailBytes, hb]
        · rw [hk, Nat.pow_succ, ← Nat.div_div_eq_div_mul]
          omega
        · simpa [hk, hb] using hrange.1
        · simpa [hk, hb] using hrange.2
      · simp at h

/-! ### Whole strings -/

/-- The encoding of a character string is taken off the bytes and its characters are done. -/
theorem decodeFrom_encode_append (position : Nat) (done chars : List Char) (rest : List UInt8) :
    decodeFrom position done none (encode chars ++ rest) =
      decodeFrom (position + (encode chars).length) (chars.reverse ++ done) none rest := by
  induction chars generalizing position done with
  | nil => rfl
  | cons c chars ih =>
    rw [encode_cons, List.append_assoc]
    by_cases hc : c.toNat < 0x80
    · have hb : (UInt8.ofNat c.toNat).toNat = c.toNat := by simp; omega
      rw [encodeChar_one hc]
      simp only [List.cons_append, List.nil_append, decodeFrom, hb]
      rw [if_pos hc, ih, Char.ofNat_toNat, List.length_cons, List.reverse_cons]
      simp [Nat.add_assoc, Nat.add_comm 1]
    -- beyond ASCII a lead byte announces the others
    · obtain ⟨b, l, hb, hbytes, hcomplete⟩ := exists_lead c (by omega)
      obtain ⟨hhigh, hmore, -, -⟩ := Lead.ofByte?_bounds hb
      rw [hbytes]
      simp only [List.cons_append, decodeFrom, hb]
      rw [if_neg (by omega), decodeFrom_tailBytes _ _ _ _ _ hmore hcomplete, ih,
        Char.ofNat_toNat]
      simp [length_tailBytes, Nat.add_assoc, Nat.add_comm 1]

/-- Nothing but characters, decoded behind others. -/
theorem decodeFrom_encode (position : Nat) (done chars : List Char) :
    decodeFrom position done none (encode chars) = .ok (done.reverse ++ chars) := by
  have hrun := decodeFrom_encode_append position done chars []
  rw [List.append_nil] at hrun
  simp [hrun, decodeFrom]

/-- Only the encodings of characters are decoded. -/
theorem wellFormed_of_decodeFrom {position : Nat} {done chars : List Char} {bytes : List UInt8}
    (h : decodeFrom position done none bytes = .ok chars) : WellFormed bytes := by
  induction hk : bytes.length using Nat.strongRecOn generalizing position done bytes with
  | ind k ih =>
    cases bytes with
    | nil => exact ⟨[], rfl⟩
    | cons b rest =>
      simp only [decodeFrom] at h
      split at h
      · -- an ASCII byte is a character of its own
        rename_i hb
        obtain ⟨cs, rfl⟩ := ih rest.length (by simp [← hk]) h rfl
        have hc : (Char.ofNat b.toNat).toNat = b.toNat :=
          toNat_ofNat_of_isValidChar (by simp only [Nat.isValidChar]; omega)
        refine ⟨Char.ofNat b.toNat :: cs, ?_⟩
        rw [encode_cons, encodeChar_one (by omega), hc]
        simp
      · split at h
        · simp at h
        · rename_i l hl
          obtain ⟨-, hmore, hlow, hhigh⟩ := Lead.ofByte?_bounds hl
          obtain ⟨n, rest', rfl, hn⟩ := exists_tailBytes hmore hlow hhigh h
          rw [decodeFrom_tailBytes _ _ _ _ _ hmore hn] at h
          have hshorter : rest'.length < k := by
            rw [← hk, List.length_cons, List.length_append]
            omega
          obtain ⟨cs, rfl⟩ := ih rest'.length hshorter h rfl
          refine ⟨Char.ofNat n :: cs, ?_⟩
          rw [encode_cons, encodeChar_of_lead hl hn]
          rfl

/-- Encoded characters are decoded to themselves. -/
@[simp]
theorem decode_encode (chars : List Char) : decode (encode chars) = .ok chars :=
  decodeFrom_encode 0 [] chars

/-- Different characters are encoded differently. -/
theorem encode_inj {chars chars' : List Char} : encode chars = encode chars' ↔ chars = chars' := by
  refine ⟨fun h => ?_, congrArg encode⟩
  have hdecode := decode_encode chars
  rw [h, decode_encode] at hdecode
  exact (Except.ok.inj hdecode).symm

/-- **Strict decoding inverts encoding.**  A byte string is decoded to a character string exactly
    when it is the encoding of it. -/
theorem decode_eq_ok_iff {bytes : List UInt8} {chars : List Char} :
    decode bytes = .ok chars ↔ bytes = encode chars := by
  constructor
  · intro h
    obtain ⟨cs, rfl⟩ := wellFormed_of_decodeFrom h
    rw [decode_encode] at h
    rw [Except.ok.inj h]
  · rintro rfl
    exact decode_encode chars

/-- A byte string is ill formed exactly when the decoder reports a defect. -/
theorem not_wellFormed_iff {bytes : List UInt8} :
    ¬ WellFormed bytes ↔ ∃ defect, decode bytes = .error defect := by
  constructor
  · intro h
    cases hd : decode bytes with
    | ok chars => exact absurd ⟨chars, decode_eq_ok_iff.mp hd⟩ h
    | error defect => exact ⟨defect, rfl⟩
  · rintro ⟨defect, hd⟩ ⟨chars, rfl⟩
    simp at hd

/-! ### Zero bytes -/

theorem ofNat_ne_zero {n : Nat} (h : n % 256 ≠ 0) : UInt8.ofNat n ≠ 0 := by
  intro hzero
  have hbyte := congrArg UInt8.toNat hzero
  rw [UInt8.toNat_ofNat'] at hbyte
  exact h hbyte

/-- Continuation bytes are never zero. -/
theorem zero_notMem_tailBytes (count n : Nat) : 0 ∉ tailBytes count n := by
  induction count with
  | zero => exact List.not_mem_nil
  | succ count ih =>
    have hbyte : UInt8.ofNat (n / 64 ^ count % 64 + 0x80) ≠ 0 := ofNat_ne_zero (by omega)
    rw [tailBytes, List.mem_cons, not_or]
    exact ⟨hbyte.symm, ih⟩

/-- Only the NUL is encoded by a zero. -/
theorem zero_notMem_encodeChar {c : Char} (h : c ≠ '\x00') : 0 ∉ String.utf8EncodeChar c := by
  have hpos : c.toNat ≠ 0 := fun hzero => h (Char.ext (UInt32.toNat_inj.mp hzero))
  have hvalid := c.valid
  simp only [UInt32.isValidChar, Nat.isValidChar] at hvalid
  have hlt : c.toNat < 0x110000 := by
    show c.val.toNat < 0x110000
    omega
  have hlead (n : Nat) (hn : n % 256 ≠ 0) (count : Nat) :
      0 ∉ UInt8.ofNat n :: tailBytes count c.toNat := by
    rw [List.mem_cons, not_or]
    exact ⟨(ofNat_ne_zero hn).symm, zero_notMem_tailBytes count c.toNat⟩
  by_cases h1 : c.toNat < 0x80
  · rw [encodeChar_one h1]
    exact hlead c.toNat (by omega) 0
  by_cases h2 : c.toNat < 0x800
  · rw [encodeChar_two (by omega) h2]
    exact hlead _ (by omega) 1
  by_cases h3 : c.toNat < 0x10000
  · rw [encodeChar_three (by omega) h3]
    exact hlead _ (by omega) 2
  · rw [encodeChar_four (by omega)]
    exact hlead _ (by omega) 3

/-- Only the encoding of a NUL has a zero byte. -/
theorem zero_notMem_encode {chars : List Char} (h : '\x00' ∉ chars) : 0 ∉ encode chars := by
  rw [encode, List.mem_flatMap]
  rintro ⟨c, hc, hzero⟩
  exact zero_notMem_encodeChar (fun hnul => h (hnul ▸ hc)) hzero

end ElfInspect.Utf8
