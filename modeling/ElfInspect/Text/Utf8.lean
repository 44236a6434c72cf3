namespace ElfInspect.Utf8

/-!
# Strict UTF-8

A decoder that accepts exactly the well-formed sequences of the Unicode standard: no overlong
forms, no surrogates and nothing above U+10FFFF.  It reads one byte at a time and stops at the
first ill-formed sequence, which it reports with its position and extent.

Main definitions:

* `Lead.ofByte?`: what a lead byte announces, with the legal range of the byte after it;
* `decode`: the characters of a byte string, or the first defect;
* `encode`: the bytes of a character string;
* `WellFormed`: the byte strings that `encode` produces.
-/

/-- Why a byte string is not well formed. -/
inductive Reason
  | invalidStart
  | invalidContinuation
  | unexpectedEnd
  deriving Repr, DecidableEq

/-- The wording of a reason. -/
def Reason.text : Reason → String
  | .invalidStart => "invalid start byte"
  | .invalidContinuation => "invalid continuation byte"
  | .unexpectedEnd => "unexpected end of data"

/-- The first ill-formed sequence of a byte string: where it starts, how many bytes of it are at
    fault, and the first of them. -/
structure Defect where
  start : Nat
  length : Nat
  lead : UInt8
  reason : Reason
  deriving Repr, DecidableEq

/-- One faulty byte is shown with its value, several with the positions of the first and last. -/
def Defect.message (d : Defect) : String :=
  if d.length = 1 then
    let digits := Nat.toDigits 16 d.lead.toNat
    let value := String.ofList (digits.leftpad 2 '0')
    s!"'utf-8' codec can't decode byte 0x{value} in position {d.start}: {d.reason.text}"
  else
    let last := d.start + d.length - 1
    s!"'utf-8' codec can't decode bytes in position {d.start}-{last}: {d.reason.text}"

/-! ### Lead bytes -/

/-- What a lead byte announces: the number of bytes that follow, the legal range of the first of
    them, and the value of its own payload bits. -/
structure Lead where
  more : Nat
  low : Nat
  high : Nat
  value : Nat
  deriving Repr, DecidableEq

/-- The lead bytes of sequences of two to four bytes.  The narrowed ranges after `E0`, `ED`, `F0`
    and `F4` exclude overlong forms, surrogates and values above U+10FFFF. -/
def Lead.ofByte? (b : UInt8) : Option Lead :=
  let n := b.toNat
  if n < 0xC2 then none
  else if n < 0xE0 then some ⟨1, 0x80, 0xBF, n - 0xC0⟩
  else if n = 0xE0 then some ⟨2, 0xA0, 0xBF, 0⟩
  else if n = 0xED then some ⟨2, 0x80, 0x9F, n - 0xE0⟩
  else if n < 0xF0 then some ⟨2, 0x80, 0xBF, n - 0xE0⟩
  else if n = 0xF0 then some ⟨3, 0x90, 0xBF, 0⟩
  else if n < 0xF4 then some ⟨3, 0x80, 0xBF, n - 0xF0⟩
  else if n = 0xF4 then some ⟨3, 0x80, 0x8F, n - 0xF0⟩
  else none

/-! ### The decoder -/

/-- A sequence that has begun: its first byte and position, how many of its bytes have been taken,
    how many are still to come, the legal range of the next one, and the value so far. -/
structure Pending where
  lead : UInt8
  start : Nat
  taken : Nat
  more : Nat
  low : Nat
  high : Nat
  value : Nat
  deriving Repr, DecidableEq

/-- The defect of a sequence that cannot go on. -/
def Pending.defect (p : Pending) (reason : Reason) : Defect :=
  ⟨p.start, p.taken, p.lead, reason⟩

/-- Decodes the bytes from `position` on.  `done` holds the characters before, newest first, and
    `pending` the sequence that has begun, if any. -/
def decodeFrom (position : Nat) (done : List Char) :
    Option Pending → List UInt8 → Except Defect (List Char)
  | none, [] => .ok done.reverse
  | some p, [] => .error (p.defect .unexpectedEnd)
  | none, b :: rest =>
    if b.toNat < 0x80 then
      decodeFrom (position + 1) (Char.ofNat b.toNat :: done) none rest
    else
      match Lead.ofByte? b with
      | none => .error ⟨position, 1, b, .invalidStart⟩
      | some l =>
        decodeFrom (position + 1) done
          (some ⟨b, position, 1, l.more, l.low, l.high, l.value⟩) rest
  | some p, b :: rest =>
    if p.low ≤ b.toNat ∧ b.toNat ≤ p.high then
      let value := p.value * 64 + (b.toNat - 0x80)
      if p.more ≤ 1 then
        decodeFrom (position + 1) (Char.ofNat value :: done) none rest
      else
        -- The bounds that the lead byte sets hold for the second byte only.
        decodeFrom (position + 1) done
          (some { p with taken := p.taken + 1, more := p.more - 1, low := 0x80, high := 0xBF,
                         value := value }) rest
    else .error (p.defect .invalidContinuation)

/-- The characters of a byte string, or its first defect. -/
def decode (bytes : List UInt8) : Except Defect (List Char) :=
  decodeFrom 0 [] none bytes

/-! ### The encoder and well-formedness -/

/-- The bytes of a character string. -/
def encode (chars : List Char) : List UInt8 :=
  chars.flatMap String.utf8EncodeChar

/-- A byte string is well formed when it is the encoding of some character string. -/
def WellFormed (bytes : List UInt8) : Prop :=
  ∃ chars, bytes = encode chars

@[simp]
theorem encode_nil : encode [] = [] := rfl

@[simp]
theorem encode_cons (c : Char) (chars : List Char) :
    encode (c :: chars) = String.utf8EncodeChar c ++ encode chars := rfl

/-- Texts are encoded character by character. -/
@[simp]
theorem encode_append (a b : List Char) : encode (a ++ b) = encode a ++ encode b := by
  simp [encode]

@[simp]
theorem decode_nil : decode [] = .ok [] := rfl

end ElfInspect.Utf8
