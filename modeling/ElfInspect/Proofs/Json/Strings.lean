import ElfInspect.Json.Reader
import ElfInspect.Json.Writer
import ElfInspect.Proofs.Hex

namespace ElfInspect.Json

/-!
# JSON strings

A string that is written between quotes is read back, whether it stays within ASCII or not.  It
takes none but the characters of its style to write it.

* `stringTail_stringChar` — one character;
* `stringTail_string` — a string;
* `Style.Uses`, `uses_stringChars` — the characters that it is written with.
-/

/-! ### Escapes -/

/-- A UTF-16 code unit is written with four digits that denote it. -/
theorem exists_unit {n : Nat} (h : n < 0x10000) :
    ∃ a b c d, paddedDigits 4 n = [a, b, c, d] ∧ unitOf? a b c d = some n := by
  have hvalue := hexDigitsValue?_paddedDigits 4 n
  have hlength := length_paddedDigits_of_lt (by decide : 0 < 4) h
  match hpadded : paddedDigits 4 n, hlength with
  | [a, b, c, d], _ =>
    refine ⟨a, b, c, d, rfl, ?_⟩
    rw [hpadded] at hvalue
    simp only [hexDigitsValue?, Option.bind_eq_some_iff] at hvalue
    -- the reader takes the digits one by one, and the number is the same
    obtain ⟨a', ha, b', hb, c', hc, d', hd, hn⟩ := hvalue
    simp only [unitOf?, ha, hb, hc, hd, Option.bind_eq_bind, Option.bind_some]
    refine Eq.trans ?_ hn
    show some (((a' * 16 + b') * 16 + c') * 16 + d') = some _
    congr 1
    omega

/-- The numbers that are set aside for pairs are those of no character. -/
theorem not_surrogate (c : Char) : ¬ (0xD800 ≤ c.toNat ∧ c.toNat < 0xE000) := by
  have hvalid : c.toNat < 0xD800 ∨ 0xDFFF < c.toNat ∧ c.toNat < 0x110000 := c.valid
  omega

/-- No character is beyond the last code point. -/
theorem toNat_lt (c : Char) : c.toNat < 0x110000 := by
  have hvalid : c.toNat < 0xD800 ∨ 0xDFFF < c.toNat ∧ c.toNat < 0x110000 := c.valid
  omega

/-- A character that is written as an escape is read back. -/
theorem stringTail_charEscape (done : List Char) (c : Char) (rest : List Char) :
    stringTail done (charEscape c ++ rest) = stringTail (c :: done) rest := by
  have hnot := not_surrogate c
  unfold charEscape
  dsimp only
  split
  · rename_i hlow
    obtain ⟨x, y, z, w, hdigits, hunit⟩ := exists_unit hlow
    simp only [unitEscape, hdigits, List.cons_append, List.nil_append]
    rw [stringTail, hunit]
    dsimp only
    rw [if_neg (by omega), if_neg (by omega), Char.ofNat_toNat]
  · rename_i hhigh
    have hlt := toNat_lt c
    obtain ⟨x, y, z, w, hdigits, hunit⟩ :=
      exists_unit (show 0xD800 + (c.toNat - 0x10000) / 0x400 < 0x10000 by omega)
    obtain ⟨x', y', z', w', hdigits', hunit'⟩ :=
      exists_unit (show 0xDC00 + (c.toNat - 0x10000) % 0x400 < 0x10000 by omega)
    -- the two halves of a surrogate pair add up to the code point
    have hnumber : 0x10000 + (0xD800 + (c.toNat - 0x10000) / 0x400 - 0xD800) * 0x400 +
        (0xDC00 + (c.toNat - 0x10000) % 0x400 - 0xDC00) = c.toNat := by omega
    simp only [unitEscape, hdigits, hdigits', List.cons_append, List.nil_append]
    rw [stringTail, hunit]
    dsimp only
    rw [if_pos (by omega)]
    simp only [hunit']
    rw [if_pos (by omega), hnumber, Char.ofNat_toNat]

/-! ### Strings -/

/-- **One character** is read back as it has been written. -/
theorem stringTail_stringChar (ascii : Bool) (done : List Char) (c : Char) (rest : List Char) :
    stringTail done (stringChar ascii c ++ rest) = stringTail (c :: done) rest := by
  unfold stringChar
  split
  · rename_i h
    rcases h with rfl | rfl <;> rfl
  rename_i hquote
  -- the escapes of one letter each
  iterate 5
    split
    · rename_i h
      subst h
      rfl
  split
  · exact stringTail_charEscape done c rest
  · rename_i hcontrol
    have hvisible : ¬ c.toNat < 0x20 := fun h => hcontrol (.inl h)
    rw [List.singleton_append, stringTail, if_neg hvisible]
    · exact fun h => hquote (.inl h)
    · exact fun _ _ _ _ _ h _ => hquote (.inr h)
    · exact fun _ _ h _ => hquote (.inr h)

/-- **Strings** are read back up to their closing quote. -/
theorem stringTail_string (ascii : Bool) (s : String) (rest : List Char) :
    stringTail [] (s.toList.flatMap (stringChar ascii) ++ '"' :: rest) = some (s, rest) := by
  have hchars (done chars : List Char) :
      stringTail done (chars.flatMap (stringChar ascii) ++ '"' :: rest) =
        some (String.ofList (done.reverse ++ chars), rest) := by
    induction chars generalizing done with
    | nil => rw [List.flatMap_nil, List.nil_append, stringTail, List.append_nil]
    | cons c chars ih =>
      rw [List.flatMap_cons, List.append_assoc, stringTail_stringChar, ih, List.reverse_cons,
        List.append_assoc, List.singleton_append]
  rw [hchars, List.reverse_nil, List.nil_append, String.ofList_toList]

/-! ### Characters -/

/-- The character is a printable one of ASCII. -/
def Graphic (c : Char) : Prop :=
  0x20 ≤ c.toNat ∧ c.toNat < 0x7F

instance (c : Char) : Decidable (Graphic c) :=
  inferInstanceAs (Decidable (_ ∧ _))

/-- The characters that a style writes with: no control characters, but ends of lines where there
    is more than one line, and no others than those of ASCII where it stays within ASCII. -/
def Style.Uses (style : Style) (c : Char) : Prop :=
  (0x20 ≤ c.toNat ∨ c = '\n' ∧ style.indent ≠ none) ∧ (style.ascii = true → c.toNat < 0x80)

/-- Visible characters of ASCII belong to every style. -/
theorem Graphic.uses {c : Char} (h : Graphic c) (style : Style) : style.Uses c :=
  ⟨.inl h.1, fun _ => Nat.lt_trans h.2 (by decide)⟩

/-- Therefore a text of them can stand in a document of any style. -/
theorem uses_of_graphic {chars : List Char} (style : Style) (h : ∀ c ∈ chars, Graphic c) :
    ∀ c ∈ chars, style.Uses c :=
  fun c hc => (h c hc).uses style

/-- A few given characters can be checked one by one. -/
theorem graphic_of_all {chars : List Char} (h : chars.all (fun c => decide (Graphic c)) = true) :
    ∀ c ∈ chars, Graphic c := fun c hc =>
  of_decide_eq_true (List.all_eq_true.mp h c hc)

/-- An escaped code unit consists of visible characters of ASCII. -/
theorem graphic_unitEscape (n : Nat) : ∀ c ∈ unitEscape n, Graphic c := by
  have hdigits := forall_paddedDigits (P := Graphic) (by decide) 4 n
  simp only [unitEscape, List.mem_cons]
  rintro c (rfl | rfl | hc)
  · decide
  · decide
  · exact hdigits c hc

/-- So does an escaped character. -/
theorem graphic_charEscape (c : Char) : ∀ x ∈ charEscape c, Graphic x := by
  unfold charEscape
  dsimp only
  split
  · exact graphic_unitEscape _
  · intro x hx
    rcases List.mem_append.mp hx with hx | hx
    · exact graphic_unitEscape _ x hx
    · exact graphic_unitEscape _ x hx

/-- A character of a text is written in its style, escaped where it does not belong to it. -/
theorem uses_stringChar (style : Style) (c : Char) :
    ∀ x ∈ stringChar style.ascii c, style.Uses x := by
  unfold stringChar
  split
  · rename_i h
    rcases h with rfl | rfl <;> exact uses_of_graphic style (graphic_of_all rfl)
  iterate 5
    split
    · exact uses_of_graphic style (graphic_of_all rfl)
  split
  · exact uses_of_graphic style (graphic_charEscape c)
  · rename_i hplain
    intro x hx
    rw [List.mem_singleton.mp hx]
    refine ⟨.inl (Nat.not_lt.mp fun h => hplain (.inl h)), fun hascii => ?_⟩
    have hlow : ¬ 0x7F ≤ c.toNat := fun h => hplain (.inr ⟨hascii, h⟩)
    omega

/-- **The characters of strings.** -/
theorem uses_stringChars (style : Style) (s : String) :
    ∀ c ∈ stringChars style.ascii s, style.Uses c := by
  have hquote : style.Uses '"' := Graphic.uses (by decide) style
  intro c hc
  rcases List.mem_append.mp hc with hc | hc
  · rcases List.mem_cons.mp hc with rfl | hc
    · exact hquote
    · obtain ⟨x, -, hx⟩ := List.mem_flatMap.mp hc
      exact uses_stringChar style x c hx
  · rw [List.mem_singleton.mp hc]
    exact hquote

end ElfInspect.Json
