import ElfInspect.Text.Hex
import Mathlib.Algebra.GroupWithZero.Nat

namespace ElfInspect

/-!
# Reading hexadecimal text

Numbers that are written with hexadecimal digits can be read back, however many zeros they are
filled up with.

* `forall_hexDigits`, `forall_paddedDigits` — what holds of all digits;
* `length_paddedDigits_of_lt` — numbers that are filled up exactly;
* `hexValue?` — the number that a hexadecimal text denotes, if it denotes one;
* `hexValue?_hexPadded` — a padded number denotes itself.
-/

/-- What holds of each digit holds of all digits of a number. -/
theorem forall_hexDigits {P : Char → Prop} (h : ∀ digit < 16, P (Nat.digitChar digit)) (n : Nat) :
    ∀ c ∈ hexDigits n, P c := by
  induction n using Nat.strongRecOn with
  | ind n ih =>
    unfold hexDigits
    -- the last digit is taken off
    rw [Nat.toDigits_eq_if (by decide)]
    split
    · rename_i hlt
      intro c hc
      rw [List.mem_singleton.mp hc]
      exact h n hlt
    · intro c hc
      rcases List.mem_append.mp hc with hc | hc
      · exact ih (n / 16) (by omega) c hc
      · rw [List.mem_singleton.mp hc]
        exact h _ (Nat.mod_lt n (by decide))

/-- A number is filled up with a digit. -/
theorem forall_paddedDigits {P : Char → Prop} (h : ∀ digit < 16, P (Nat.digitChar digit))
    (width n : Nat) : ∀ c ∈ paddedDigits width n, P c := by
  intro c hc
  rcases List.mem_append.mp hc with hc | hc
  · rw [(List.mem_replicate.mp hc).2]
    exact h 0 (by decide)
  · exact forall_hexDigits h n c hc

/-- A number that has few enough digits is filled up exactly. -/
theorem length_paddedDigits_of_lt {width n : Nat} (hwidth : 0 < width) (h : n < 16 ^ width) :
    (paddedDigits width n).length = width := by
  have hdigits : (hexDigits n).length ≤ width :=
    (Nat.length_toDigits_le_iff (by decide) hwidth).mpr h
  rw [length_paddedDigits]
  omega

/-- The number that digits denote behind those that denote `value`. -/
def hexDigitsValue? (value : Nat) : List Char → Option Nat
  | [] => some value
  | c :: rest => (hexDigitValue? c).bind fun digit => hexDigitsValue? (16 * value + digit) rest

/-- The number that a text denotes: its digits follow a `0x`. -/
def hexValue? (text : String) : Option Nat :=
  match text.toList with
  | '0' :: 'x' :: c :: rest => hexDigitsValue? 0 (c :: rest)
  | _ => none

/-- A digit is read back. -/
theorem hexDigitValue?_digitChar {digit : Nat} (h : digit < 16) :
    hexDigitValue? (Nat.digitChar digit) = some digit := by
  revert digit
  decide

/-- Digits that follow are read with the value of those before. -/
theorem hexDigitsValue?_append (value : Nat) (digits later : List Char) :
    hexDigitsValue? value (digits ++ later) =
      (hexDigitsValue? value digits).bind fun value => hexDigitsValue? value later := by
  induction digits generalizing value with
  | nil => rfl
  | cons c rest ih =>
    rw [List.cons_append, hexDigitsValue?, hexDigitsValue?]
    cases hexDigitValue? c with
    | none => rfl
    | some digit => exact ih (16 * value + digit)

/-- The digits of a number denote it. -/
theorem hexDigitsValue?_hexDigits (n : Nat) : hexDigitsValue? 0 (hexDigits n) = some n := by
  induction n using Nat.strongRecOn with
  | ind n ih =>
    by_cases hlt : n < 16
    · rw [hexDigits, Nat.toDigits_of_lt_base hlt, hexDigitsValue?, hexDigitValue?_digitChar hlt]
      exact congrArg some (Nat.zero_add n)
    · -- all digits but the last are those of a sixteenth
      have hlast : n % 16 < 16 := Nat.mod_lt n (by decide)
      have hdigits : hexDigits n = hexDigits (n / 16) ++ [Nat.digitChar (n % 16)] := by
        have happend := Nat.toDigits_append_toDigits (b := 16) (n := n / 16) (d := n % 16)
          (by decide) (by omega) hlast
        rw [Nat.div_add_mod, Nat.toDigits_of_lt_base hlast] at happend
        exact happend.symm
      rw [hdigits, hexDigitsValue?_append, ih (n / 16) (by omega), Option.bind_some,
        hexDigitsValue?, hexDigitValue?_digitChar hlast, Option.bind_some, hexDigitsValue?,
        Nat.div_add_mod]

/-- Zeros in front make no difference. -/
theorem hexDigitsValue?_paddedDigits (width n : Nat) :
    hexDigitsValue? 0 (paddedDigits width n) = some n := by
  have hzeros (count : Nat) : hexDigitsValue? 0 (List.replicate count '0') = some 0 := by
    induction count with
    | zero => rfl
    | succ count ih => exact ih
  rw [paddedDigits, List.leftpad, hexDigitsValue?_append, hzeros, Option.bind_some,
    hexDigitsValue?_hexDigits]

/-- A padded number has its prefix in front of its digits. -/
@[simp]
theorem toList_hexPadded (width n : Nat) :
    (hexPadded width n).toList = '0' :: 'x' :: paddedDigits width n := by
  simp [hexPadded]

/-- **Padded numbers** can be read back. -/
theorem hexValue?_hexPadded (width n : Nat) : hexValue? (hexPadded width n) = some n := by
  have hvalue := hexDigitsValue?_paddedDigits width n
  unfold hexValue?
  rw [toList_hexPadded]
  cases hpadded : paddedDigits width n with
  | nil => exact absurd (List.append_eq_nil_iff.mp hpadded).2 Nat.toDigits_ne_nil
  | cons c rest =>
    rw [hpadded] at hvalue
    exact hvalue

end ElfInspect
