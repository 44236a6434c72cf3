import ElfInspect.Abi.Codes
import ElfInspect.Proofs.Hex
import ElfInspect.Proofs.Json.Numbers

namespace ElfInspect

/-!
# Names and numbers of codes

A code is shown by its readable name, or else by its number.  What is shown tells which code it is:
the names of a family differ from each other, none of them reads as a number, and no two numbers
are written alike.

* `hexMarkedValue?` — the signed number that a marked hexadecimal text denotes;
* `hexMarked_injective`, `intText_injective` — different numbers are written differently;
* `Abi.injective_describeIn` — a table whose names differ and are no numbers loses no code;
* `Abi.describe_loses_no_code` — this holds of all families of codes and of section indices.
-/

/-! ### Signed numbers -/

/-- The number that digits denote, with a sign in front of them if it is negative. -/
def signedHexValue? : List Char → Option Int
  | '-' :: digits => (hexDigitsValue? 0 digits).map fun n => -(n : Int)
  | digits => (hexDigitsValue? 0 digits).map fun n => (n : Int)

/-- The number that a text denotes whose signed digits follow a `0x`. -/
def hexMarkedValue? (text : String) : Option Int :=
  match text.toList with
  | '0' :: 'x' :: digits => signedHexValue? digits
  | _ => none

/-- No digit is a sign, so that the digits of a number are not taken for those of its negative. -/
theorem head?_hexDigits (n : Nat) : (hexDigits n).head? ≠ some '-' := by
  intro h
  have hdigit : ∀ digit < 16, Nat.digitChar digit ≠ '-' := by decide
  exact forall_hexDigits (P := (· ≠ '-')) hdigit n '-' (List.mem_of_mem_head? h) rfl

/-- Digits without a sign denote a number that is not negative. -/
theorem signedHexValue?_hexDigits (n : Nat) : signedHexValue? (hexDigits n) = some (n : Int) := by
  have hsign := head?_hexDigits n
  have hvalue := hexDigitsValue?_hexDigits n
  unfold signedHexValue?
  split
  · rename_i digits hdigits
    exact absurd (by rw [hdigits]; rfl) hsign
  · rw [hvalue]
    rfl

/-- **Signed numbers** can be read back. -/
theorem hexMarkedValue?_hexMarked (code : Int) : hexMarkedValue? (hexMarked code) = some code := by
  cases code with
  | ofNat n =>
    have htext : (hexMarked (.ofNat n)).toList = '0' :: 'x' :: hexDigits n := by
      simp [hexMarked]
    rw [hexMarkedValue?, htext]
    exact signedHexValue?_hexDigits n
  | negSucc n =>
    have htext : (hexMarked (.negSucc n)).toList = '0' :: 'x' :: '-' :: hexDigits (n + 1) := by
      simp [hexMarked]
    rw [hexMarkedValue?, htext]
    show (hexDigitsValue? 0 (hexDigits (n + 1))).map (fun n => -(n : Int)) = _
    rw [hexDigitsValue?_hexDigits]
    rfl

/-- No two numbers are written alike. -/
theorem hexMarked_injective : Function.Injective hexMarked := by
  intro a b h
  have hvalue := hexMarkedValue?_hexMarked a
  rw [h, hexMarkedValue?_hexMarked] at hvalue
  exact (Option.some.inj hvalue).symm

/-- Decimal numbers are read back by the same reader that reads them in documents. -/
theorem intText_injective : Function.Injective intText := by
  intro a b h
  have hvalue := Json.scalar?_intText a Json.stops_nil
  rw [h, Json.scalar?_intText b Json.stops_nil] at hvalue
  simp only [Option.some.injEq, Prod.mk.injEq, Value.integer.injEq, and_true] at hvalue
  exact hvalue.symm

namespace Abi

/-! ### Tables -/

/-- What is shown of a code: its name in a table, or else its number. -/
def describeIn (table : List Code) (number : Int → String) (code : Int) : String :=
  match lookup? table code with
  | some entry => entry.name
  | none => number code

/-- All families are shown by one rule. -/
theorem describe_eq (kind : CodeKind) : kind.describe = describeIn kind.codes hexMarked := rfl

/-- The special section indices. -/
def sectionIndexCodes : List Code :=
  [⟨indexUndefined, "SHN_UNDEF", "UND"⟩,
   ⟨indexAbsolute, "SHN_ABS", "ABS"⟩,
   ⟨indexCommon, "SHN_COMMON", "COM"⟩]

/-- A section index is shown by the same rule. -/
theorem describeSectionIndex_eq : describeSectionIndex = describeIn sectionIndexCodes intText := by
  funext index
  unfold describeSectionIndex describeIn lookup? sectionIndexCodes
  by_cases hundefined : index = indexUndefined
  · simp [hundefined]
  · by_cases habsolute : index = indexAbsolute
    · simp [habsolute, indexAbsolute, indexUndefined]
    · by_cases hcommon : index = indexCommon
      · simp [hcommon, indexCommon, indexAbsolute, indexUndefined]
      · simp [Ne.symm hundefined, Ne.symm habsolute, Ne.symm hcommon, hundefined,
          habsolute, hcommon]

section Tables

variable {table : List Code} {number : Int → String} {code : Int} {entry : Code}

/-- An entry that is found is in the table and has the code. -/
theorem lookup?_eq_some (h : lookup? table code = some entry) :
    entry ∈ table ∧ (entry.value : Int) = code :=
  ⟨List.mem_of_find?_eq_some h, by simpa using List.find?_some h⟩

/-- **No code is lost** by a table whose names differ from each other and from all numbers. -/
theorem injective_describeIn (hnumber : number.Injective) (hnames : (table.map Code.name).Nodup)
    (hapart : ∀ code, number code ∉ table.map Code.name) :
    (describeIn table number).Injective := by
  have hname {entry : Code} {code : Int} (hentry : entry ∈ table) : entry.name ≠ number code :=
    fun h => hapart code (h ▸ List.mem_map_of_mem hentry)
  intro a b h
  unfold describeIn at h
  -- each of the two codes is shown by a name or by its number
  cases ha : lookup? table a with
  | none =>
    cases hb : lookup? table b with
    | none =>
      rw [ha, hb] at h
      exact hnumber h
    | some entry =>
      rw [ha, hb] at h
      exact absurd h.symm (hname (lookup?_eq_some hb).1)
  | some entry =>
    obtain ⟨hentry, rfl⟩ := lookup?_eq_some ha
    cases hb : lookup? table b with
    | none =>
      rw [ha, hb] at h
      exact absurd h (hname hentry)
    | some other =>
      obtain ⟨hother, rfl⟩ := lookup?_eq_some hb
      rw [ha, hb] at h
      rw [List.inj_on_of_nodup_map hnames hentry hother h]

end Tables

/-! ### All families -/

/-- No two codes of a family have the same name. -/
theorem nodup_names (kind : CodeKind) : (kind.codes.map Code.name).Nodup := by
  cases kind <;> decide

/-- No name of a family reads as a hexadecimal number. -/
theorem hexMarked_notMem_names (kind : CodeKind) (code : Int) :
    hexMarked code ∉ kind.codes.map Code.name := by
  have hnone : ∀ name ∈ kind.codes.map Code.name, hexMarkedValue? name = none := by
    cases kind <;> decide
  intro hmem
  have hvalue := hexMarkedValue?_hexMarked code
  rw [hnone _ hmem] at hvalue
  cases hvalue

/-- No special index has a name that reads as a decimal number. -/
theorem intText_notMem_names (index : Int) : intText index ∉ sectionIndexCodes.map Code.name := by
  have hnone : ∀ name ∈ sectionIndexCodes.map Code.name, Json.scalar? name.toList = none := by
    decide
  intro hmem
  have hvalue := Json.scalar?_intText index Json.stops_nil
  rw [List.append_nil, hnone _ hmem] at hvalue
  cases hvalue

/-- **Names and numbers** tell codes apart.  In each family, and among section indices, what is
    shown of a code belongs to no other code: names differ from each other and from the numbers of
    all codes, and different numbers are written differently. -/
theorem describe_loses_no_code :
    (∀ kind : CodeKind, kind.describe.Injective ∧ (kind.codes.map Code.name).Nodup ∧
      ∀ code, hexMarked code ∉ kind.codes.map Code.name) ∧
    describeSectionIndex.Injective ∧ ["UND", "ABS", "COM"].Nodup ∧
    (∀ index, intText index ∉ ["UND", "ABS", "COM"]) ∧
    hexMarked.Injective ∧ intText.Injective := by
  refine ⟨fun kind => ⟨?_, nodup_names kind, hexMarked_notMem_names kind⟩, ?_, by decide,
    intText_notMem_names, hexMarked_injective, intText_injective⟩
  · rw [describe_eq]
    exact injective_describeIn hexMarked_injective (nodup_names kind) (hexMarked_notMem_names kind)
  · rw [describeSectionIndex_eq]
    exact injective_describeIn intText_injective (by decide) intText_notMem_names

end Abi

end ElfInspect
