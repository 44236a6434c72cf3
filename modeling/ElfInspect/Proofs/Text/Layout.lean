import ElfInspect.Text.Wrap

namespace ElfInspect

/-!
# Texts of characters that take one column each

Most of what a console shows takes one column for each character.  Where such a text has room it is
laid out as it is, in one line.

* `OneColumn` — a character that takes one column and ends no line;
* `textColumns_of_oneColumn`, `measure_of_oneColumn` — the width of a text is its length;
* `wrap_of_fits`, `truncateLine_of_fits`, `alignLeft_of_fits` — a text that has room is neither
  broken nor cut.
-/

/-! ### Characters -/

/-- The printing characters of ASCII, the blank among them. -/
def Printing (c : Char) : Prop :=
  0x20 ≤ c.toNat ∧ c.toNat < 0x7F

instance (c : Char) : Decidable (Printing c) :=
  inferInstanceAs (Decidable (_ ∧ _))

/-- The character takes one column whatever stands beside it, and it ends no line. -/
structure OneColumn (c : Char) : Prop where
  columns : charColumns c = 1
  joins_not : c ≠ zeroWidthJoiner
  selects_not : c ≠ emojiSelector
  ends_not : isLineEnd c = false

theorem oneColumn_iff (c : Char) :
    OneColumn c ↔ charColumns c = 1 ∧ c ≠ zeroWidthJoiner ∧ c ≠ emojiSelector ∧
      isLineEnd c = false :=
  ⟨fun h => ⟨h.columns, h.joins_not, h.selects_not, h.ends_not⟩,
    fun ⟨hcolumns, hjoins, hselects, hends⟩ => ⟨hcolumns, hjoins, hselects, hends⟩⟩

instance (c : Char) : Decidable (OneColumn c) :=
  decidable_of_iff _ (oneColumn_iff c).symm

namespace Printing

variable {c : Char}

/-- Printing characters are none of those outside. -/
theorem ne (h : Printing c) {other : Char} (hother : ¬Printing other) : c ≠ other := by
  rintro rfl
  exact hother h

/-- Printing characters take one column each. -/
theorem oneColumn (h : Printing c) : OneColumn c := by
  have hlow := h.1
  have hhigh := h.2
  refine ⟨?_, h.ne (by decide), h.ne (by decide), ?_⟩
  · unfold charColumns
    dsimp only
    rw [if_pos (by omega), if_neg (by omega)]
  · unfold isLineEnd
    simp only [Bool.or_eq_false_iff, Bool.and_eq_false_iff, decide_eq_false_iff_not]
    omega

end Printing

/-! ### Widths -/

variable {chars : List Char} {width : Nat}

/-- A text without separators is one piece. -/
theorem splitWhere_of_forall {separates : Char → Bool} (h : ∀ c ∈ chars, separates c = false) :
    splitWhere separates chars = [chars] := by
  induction chars with
  | nil => rfl
  | cons c rest ih =>
    obtain ⟨hc, hrest⟩ := List.forall_mem_cons.mp h
    rw [splitWhere, ih hrest]
    simp only [hc, Bool.false_eq_true, if_false]

/-- Columns add up, whatever stands before. -/
theorem columnsFrom_of_oneColumn (h : ∀ c ∈ chars, OneColumn c) (total : Nat)
    (last : Option Char) : columnsFrom total last chars = total + chars.length := by
  induction chars generalizing total last with
  | nil => rfl
  | cons c rest ih =>
    obtain ⟨hc, hrest⟩ := List.forall_mem_cons.mp h
    cases rest with
    | nil => rw [columnsFrom, if_neg hc.joins_not, if_neg hc.selects_not, hc.columns]; rfl
    | cons next later =>
      rw [columnsFrom, if_neg hc.joins_not, if_neg hc.selects_not, hc.columns]
      dsimp only
      rw [ih hrest, List.length_cons (a := c)]
      omega

/-- **Columns.**  There are as many as characters. -/
theorem textColumns_of_oneColumn (h : ∀ c ∈ chars, OneColumn c) :
    textColumns chars = chars.length := by
  rw [textColumns, columnsFrom_of_oneColumn h, Nat.zero_add]

/-- A text of such characters is one line, as wide as it is long. -/
theorem measure_of_oneColumn (h : ∀ c ∈ chars, OneColumn c) : measure chars = chars.length := by
  rw [measure, splitWhere_of_forall fun c hc => (h c hc).ends_not, List.foldl_cons,
    List.foldl_nil, textColumns_of_oneColumn h, Nat.zero_max]

/-! ### Texts that have room -/

/-- There are no tabs among them. -/
theorem expandTabs_of_oneColumn (h : ∀ c ∈ chars, OneColumn c) : expandTabs chars = chars := by
  unfold expandTabs
  rw [if_neg]
  intro htab
  -- a tab has no columns of its own
  exact absurd (h '\t' (List.contains_iff_mem.mp htab)).columns (by decide)

/-- A line for which there is room is not cut off. -/
theorem truncateLine_of_fits (h : ∀ c ∈ chars, OneColumn c) (hfits : chars.length ≤ width)
    (overflow : Overflow) : truncateLine width overflow chars = chars := by
  unfold truncateLine
  exact if_pos (textColumns_of_oneColumn h ▸ hfits)

/-- A text that has room is one line. -/
theorem wrap_of_fits (h : ∀ c ∈ chars, OneColumn c) (hfits : chars.length ≤ width)
    (overflow : Overflow) : wrap width overflow chars = [chars] := by
  have hlines : splitAtChar '\n' chars = [chars] := by
    refine splitWhere_of_forall fun c hc => decide_eq_false ?_
    rintro rfl
    exact absurd (h '\n' hc).ends_not (by decide)
  rw [wrap, hlines, List.flatMap_singleton, expandTabs_of_oneColumn h, wrapLine,
    if_pos ⟨hfits, textColumns_of_oneColumn h ▸ hfits⟩]

/-- A text that has room stands at the left with blanks behind it. -/
theorem alignLeft_of_fits (h : ∀ c ∈ chars, OneColumn c) (hfits : chars.length ≤ width)
    (overflow : Overflow) :
    alignLeft width overflow chars = chars ++ blanks (width - chars.length) := by
  rw [alignLeft, truncateLine_of_fits h hfits, fillRight, textColumns_of_oneColumn h]

end ElfInspect
