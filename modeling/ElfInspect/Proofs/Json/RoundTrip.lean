import ElfInspect.Proofs.Json.Numbers
import ElfInspect.Proofs.Json.Strings

namespace ElfInspect

/-!
# JSON texts

A value that has a JSON form of its own is read back from the text that it is written as, in every
style.

* `Value.IsJson` — the values without moments, whose real numbers are canonical;
* `Json.read_write` — a value is read back;
* `Json.uses_write` — its text has none but the characters of the style.
-/

/-- The values that have a JSON form of their own. -/
inductive Value.IsJson : Value → Prop
  | null : IsJson .null
  | boolean (b : Bool) : IsJson (.boolean b)
  | integer (i : Int) : IsJson (.integer i)
  | real (r : Binary64) (canonical : r.IsCanonical) : IsJson (.real r)
  | text (s : String) : IsJson (.text s)
  | list (items : List Value) (items_isJson : ∀ v ∈ items, IsJson v) : IsJson (.list items)
  | table (entries : List (String × Value)) (entries_isJson : ∀ entry ∈ entries, IsJson entry.2) :
    IsJson (.table entries)

namespace Json

/-! ### Blanks -/

theorem skipBlanks_append {blanks : List Char} (h : ∀ c ∈ blanks, isBlank c = true)
    (chars : List Char) : skipBlanks (blanks ++ chars) = skipBlanks chars :=
  List.dropWhile_append_of_pos h

theorem skipBlanks_cons {c : Char} (h : isBlank c = false) (chars : List Char) :
    skipBlanks (c :: chars) = c :: chars :=
  List.dropWhile_cons_of_neg (by rw [h]; decide)

/-- Lines begin with blanks only. -/
theorem isBlank_lead (style : Style) (depth : Nat) : ∀ c ∈ lead style depth, isBlank c = true := by
  unfold lead
  cases style.indent with
  | none => exact nofun
  | some width =>
    intro c hc
    rcases List.mem_cons.mp hc with rfl | hc
    · rfl
    · rw [(List.mem_replicate.mp hc).2]
      rfl

/-- A separator is a comma and blanks. -/
theorem exists_blanks_of_separator (style : Style) (depth : Nat) :
    ∃ blanks, separator style depth = ',' :: blanks ∧ ∀ c ∈ blanks, isBlank c = true := by
  unfold separator
  cases hindent : style.indent with
  | none => exact ⟨[' '], rfl, List.all_eq_true.mp rfl⟩
  | some width => exact ⟨lead style depth, rfl, isBlank_lead style depth⟩

/-- What closes a list or a table ends a number. -/
theorem stops_cons {c : Char} (hdigit : c.isDigit = false) (hpoint : c ≠ '.') (hmark : c ≠ 'e')
    (hMark : c ≠ 'E') (rest : List Char) : Stops (c :: rest) where
  noDigit := by
    rintro _ ⟨⟩
    exact hdigit
  noPoint := by
    rintro ⟨⟩
    exact hpoint rfl
  noMark := by
    constructor
    · rintro ⟨⟩
      exact hmark rfl
    · rintro ⟨⟩
      exact hMark rfl

/-! ### Single values -/

/-- The characters are read as the value, up to any text that ends a number. -/
def Reads (v : Value) (chars : List Char) : Prop :=
  ∀ fuel rest, chars.length ≤ fuel → Stops rest → value? fuel (chars ++ rest) = some (v, rest)

/-- Blanks before a value are skipped. -/
theorem value?_skipBlanks {blanks : List Char} (h : ∀ c ∈ blanks, isBlank c = true) (fuel : Nat)
    (chars : List Char) : value? fuel (blanks ++ chars) = value? fuel chars := by
  cases fuel with
  | zero => rfl
  | succ fuel => rw [value?, value?, skipBlanks_append h]

/-- What is neither a string nor a list nor a table is a scalar. -/
theorem value?_of_scalar? {chars : List Char} {result : Value × List Char}
    (h : scalar? chars = some result) (fuel : Nat) : value? (fuel + 1) chars = some result := by
  match chars with
  | [] => cases h
  | c :: later =>
    -- no scalar begins with a blank, nor with a quotation mark, a bracket or a brace
    have hblank : isBlank c = false := by
      by_contra hblank
      simp only [isBlank, Bool.not_eq_false, Bool.or_eq_true, decide_eq_true_eq] at hblank
      rcases hblank with ((rfl | rfl) | rfl) | rfl <;> cases h
    rw [value?, skipBlanks_cons hblank]
    split
    · rename_i heq
      cases heq
      cases h
    · rename_i heq
      cases heq
      cases h
    · rename_i heq
      cases heq
      cases h
    · exact h

/-- A scalar that is read back is read back as a value. -/
theorem reads_of_scalar? {v : Value} {chars : List Char}
    (h : ∀ rest, Stops rest → scalar? (chars ++ rest) = some (v, rest)) : Reads v chars := by
  intro fuel rest hfuel hrest
  cases fuel with
  | zero =>
    obtain rfl := List.eq_nil_of_length_eq_zero (Nat.le_zero.mp hfuel)
    cases h [] stops_nil
  | succ fuel => exact value?_of_scalar? (h rest hrest) fuel

/-- Texts are read back. -/
theorem reads_string (ascii : Bool) (s : String) : Reads (.text s) (stringChars ascii s) := by
  intro fuel rest hfuel hrest
  cases fuel with
  | zero => exact absurd hfuel (by simp [stringChars])
  | succ fuel =>
    have hsplit : stringChars ascii s ++ rest =
        '"' :: (s.toList.flatMap (stringChar ascii) ++ '"' :: rest) := by
      rw [stringChars, List.append_assoc]
      rfl
    rw [hsplit, value?, skipBlanks_cons rfl]
    simp only [stringTail_string, Option.map_some]

/-! ### Lists and tables -/

/-- A number stops at the end of its line. -/
theorem stops_lead (style : Style) (depth : Nat) {rest : List Char} (h : Stops rest) :
    Stops (lead style depth ++ rest) := by
  unfold lead
  cases style.indent with
  | none => exact h
  | some width => exact stops_cons rfl (by decide) (by decide) (by decide) _

/-- A number stops before what separates it from the next item. -/
theorem stops_separator (style : Style) (depth : Nat) (rest : List Char) :
    Stops (separator style depth ++ rest) := by
  obtain ⟨blanks, hseparator, -⟩ := exists_blanks_of_separator style depth
  rw [hseparator]
  exact stops_cons rfl (by decide) (by decide) (by decide) _

/-- Blanks before an item are skipped. -/
theorem items?_skipBlanks {blanks : List Char} (h : ∀ c ∈ blanks, isBlank c = true) (fuel : Nat)
    (done : List Value) (chars : List Char) :
    items? fuel done (blanks ++ chars) = items? fuel done chars := by
  cases fuel with
  | zero => rfl
  | succ fuel => rw [items?, items?, value?_skipBlanks h]

/-- Blanks before an entry are skipped. -/
theorem entries?_skipBlanks {blanks : List Char} (h : ∀ c ∈ blanks, isBlank c = true) (fuel : Nat)
    (done : List (String × Value)) (chars : List Char) :
    entries? fuel done (blanks ++ chars) = entries? fuel done chars := by
  cases fuel with
  | zero => rfl
  | succ fuel => rw [entries?, entries?, skipBlanks_append h]

/-- No value begins with the bracket that closes a list. -/
theorem skipBlanks_ne_of_value? {fuel : Nat} {chars : List Char} {result : Value × List Char}
    (h : value? fuel chars = some result) (later : List Char) :
    skipBlanks chars ≠ ']' :: later := by
  intro hclose
  cases fuel with
  | zero => cases h
  | succ fuel =>
    rw [value?, hclose] at h
    cases h

/-- A list that does not close at once is read by its items. -/
theorem value?_list (fuel : Nat) {chars : List Char}
    (h : ∀ later, skipBlanks chars ≠ ']' :: later) :
    value? (fuel + 1) ('[' :: chars) =
      (items? fuel [] chars).map fun result => (.list result.1, result.2) := by
  simp only [value?, skipBlanks_cons (show isBlank '[' = false from rfl)]

/-- A table that does not close at once is read by its entries. -/
theorem value?_table (fuel : Nat) {chars : List Char}
    (h : ∀ later, skipBlanks chars ≠ '\x7d' :: later) :
    value? (fuel + 1) ('\x7b' :: chars) =
      (entries? fuel [] chars).map fun result => (.table result.1, result.2) := by
  simp only [value?, skipBlanks_cons (show isBlank '\x7b' = false from rfl)]

/-- A number stops where the items behind it begin, or at what follows if there are none. -/
theorem stops_itemChars (style : Style) (depth : Nat) (items : List Value) {rest : List Char}
    (h : Stops rest) : Stops (itemChars style depth items ++ rest) := by
  cases items with
  | nil => exact h
  | cons v items =>
    rw [itemChars, List.append_assoc, List.append_assoc]
    exact stops_separator style depth _

section
variable {style : Style} {depth : Nat}

/-- The items of a list are read one by one.  Each of them takes a unit of fuel, and a character
    at least for its separator. -/
theorem items?_itemChars (outer : Nat) {items : List Value} (rest : List Char)
    (hitems : ∀ v ∈ items, Reads v (valueChars style depth v)) {v : Value}
    (hv : Reads v (valueChars style depth v)) (fuel : Nat) (done : List Value)
    (hfuel : (valueChars style depth v).length + (itemChars style depth items).length < fuel) :
    items? fuel done (valueChars style depth v ++
      (itemChars style depth items ++ (lead style outer ++ ']' :: rest))) =
        some (done.reverse ++ v :: items, rest) := by
  have hclose : Stops (lead style outer ++ ']' :: rest) :=
    stops_lead style outer (stops_cons rfl (by decide) (by decide) (by decide) rest)
  induction items generalizing v fuel done with
  | nil =>
    cases fuel with
    | zero => cases hfuel
    | succ fuel =>
      rw [itemChars, List.nil_append, items?,
        hv fuel (lead style outer ++ ']' :: rest) (by omega) hclose]
      dsimp only
      rw [skipBlanks_append (isBlank_lead style outer), skipBlanks_cons rfl]
      simp only [List.reverse_cons]
  | cons w items ih =>
    cases fuel with
    | zero => cases hfuel
    | succ fuel =>
      obtain ⟨blanks, hseparator, hblanks⟩ := exists_blanks_of_separator style depth
      have hlength : (itemChars style depth (w :: items)).length =
          1 + blanks.length + (valueChars style depth w).length +
            (itemChars style depth items).length := by
        rw [itemChars, hseparator, List.length_append, List.length_append, List.length_cons]
        omega
      have hw : Reads w (valueChars style depth w) := hitems w (.head items)
      -- the first item is read, and the others are read behind the separator
      have hlater := ih (fun x hx => hitems x (.tail w hx)) hw fuel (v :: done) (by omega)
      rw [itemChars, List.append_assoc, List.append_assoc, items?,
        hv fuel _ (by omega) (stops_separator style depth _)]
      dsimp only
      rw [hseparator, List.cons_append, skipBlanks_cons rfl]
      show items? fuel (v :: done) (blanks ++ _) = _
      rw [items?_skipBlanks hblanks, hlater, List.reverse_cons, List.append_assoc]
      rfl

/-- The entries of a table are read one by one. -/
theorem entries?_entryChars (outer : Nat) {entries : List (String × Value)} (rest : List Char)
    (hentries : ∀ entry ∈ entries, Reads entry.2 (valueChars style depth entry.2)) {v : Value}
    (hv : Reads v (valueChars style depth v)) (key : String) (fuel : Nat)
    (done : List (String × Value))
    (hfuel : (valueChars style depth v).length + (entryChars style depth entries).length < fuel) :
    entries? fuel done (stringChars style.ascii key ++ ':' :: ' ' :: (valueChars style depth v ++
      (entryChars style depth entries ++ (lead style outer ++ '\x7d' :: rest)))) =
        some (done.reverse ++ (key, v) :: entries, rest) := by
  have hclose : Stops (lead style outer ++ '\x7d' :: rest) :=
    stops_lead style outer (stops_cons rfl (by decide) (by decide) (by decide) rest)
  have hkey (key : String) (later : List Char) : stringChars style.ascii key ++ later =
      '"' :: (key.toList.flatMap (stringChar style.ascii) ++ '"' :: later) := by
    rw [stringChars, List.append_assoc]
    rfl
  have hblank : ∀ c ∈ [' '], isBlank c = true := List.all_eq_true.mp rfl
  have hvalue (fuel : Nat) (later : List Char) : value? fuel (' ' :: later) = value? fuel later :=
    value?_skipBlanks hblank fuel later
  induction entries generalizing v key fuel done with
  | nil =>
    cases fuel with
    | zero => cases hfuel
    | succ fuel =>
      rw [entryChars, List.nil_append, hkey, entries?, skipBlanks_cons rfl]
      simp only [stringTail_string, skipBlanks_cons (show isBlank ':' = false from rfl), hvalue,
        hv fuel (lead style outer ++ '\x7d' :: rest) (by omega) hclose,
        skipBlanks_append (isBlank_lead style outer),
        skipBlanks_cons (show isBlank '\x7d' = false from rfl), List.reverse_cons]
  | cons entry entries ih =>
    obtain ⟨key', w⟩ := entry
    cases fuel with
    | zero => cases hfuel
    | succ fuel =>
      obtain ⟨blanks, hseparator, hblanks⟩ := exists_blanks_of_separator style depth
      have hlength : (entryChars style depth ((key', w) :: entries)).length =
          1 + blanks.length + (stringChars style.ascii key').length + 2 +
            (valueChars style depth w).length + (entryChars style depth entries).length := by
        simp only [entryChars, hseparator, List.length_append, List.length_cons]
        omega
      have hw : Reads w (valueChars style depth w) := hentries (key', w) (.head entries)
      -- the first entry is read, and the others are read behind the separator
      have hlater := ih (fun x hx => hentries x (.tail (key', w) hx)) hw key' fuel
        ((key, v) :: done) (by omega)
      have hsplit : entryChars style depth ((key', w) :: entries) ++
          (lead style outer ++ '\x7d' :: rest) =
            separator style depth ++ (stringChars style.ascii key' ++ ':' :: ' ' ::
              (valueChars style depth w ++ (entryChars style depth entries ++
                (lead style outer ++ '\x7d' :: rest)))) := by
        simp only [entryChars, List.append_assoc, List.cons_append]
      rw [hsplit, hkey, entries?, skipBlanks_cons rfl]
      simp only [stringTail_string, skipBlanks_cons (show isBlank ':' = false from rfl), hvalue,
        hv fuel _ (by omega) (stops_separator style depth _)]
      rw [hseparator, List.cons_append, skipBlanks_cons rfl]
      show entries? fuel ((key, v) :: done) (blanks ++ _) = _
      rw [entries?_skipBlanks hblanks, hlater, List.reverse_cons, List.append_assoc]
      rfl

/-- A list is read if its items are. -/
theorem reads_list {items : List Value}
    (hitems : ∀ v ∈ items, Reads v (valueChars style (depth + 1) v)) :
    Reads (.list items) (valueChars style depth (.list items)) := by
  intro fuel rest hfuel hrest
  cases fuel with
  | zero => cases items <;> cases hfuel
  | succ fuel =>
    cases items with
    | nil => rfl
    | cons v items =>
      have hv := hitems v (.head items)
      have hlength : (valueChars style (depth + 1) v).length +
          (itemChars style (depth + 1) items).length < fuel := by
        simp only [valueChars, List.length_append, List.length_cons, List.length_nil] at hfuel
        omega
      have hread := items?_itemChars depth rest (fun x hx => hitems x (.tail v hx)) hv fuel []
        hlength
      have hsplit : valueChars style depth (.list (v :: items)) ++ rest =
          '[' :: (lead style (depth + 1) ++ (valueChars style (depth + 1) v ++
            (itemChars style (depth + 1) items ++ (lead style depth ++ ']' :: rest)))) := by
        simp only [valueChars, List.append_assoc, List.cons_append, List.nil_append]
      have hclose : Stops (lead style depth ++ ']' :: rest) :=
        stops_lead style depth (stops_cons rfl (by decide) (by decide) (by decide) rest)
      -- the first item keeps the list from being taken for an empty one
      have hfirst := hv fuel _ (by omega) (stops_itemChars style (depth + 1) items hclose)
      rw [hsplit, value?_list fuel, items?_skipBlanks (isBlank_lead style (depth + 1)), hread]
      · rfl
      · intro later
        rw [skipBlanks_append (isBlank_lead style (depth + 1))]
        exact skipBlanks_ne_of_value? hfirst later

/-- A table is read if the values of its entries are. -/
theorem reads_table {entries : List (String × Value)}
    (hentries : ∀ entry ∈ entries, Reads entry.2 (valueChars style (depth + 1) entry.2)) :
    Reads (.table entries) (valueChars style depth (.table entries)) := by
  intro fuel rest hfuel hrest
  cases fuel with
  | zero => cases entries <;> cases hfuel
  | succ fuel =>
    cases entries with
    | nil => rfl
    | cons entry entries =>
      obtain ⟨key, v⟩ := entry
      have hv : Reads v (valueChars style (depth + 1) v) := hentries (key, v) (.head entries)
      have hlength : (valueChars style (depth + 1) v).length +
          (entryChars style (depth + 1) entries).length < fuel := by
        simp only [valueChars, List.length_append, List.length_cons, List.length_nil] at hfuel
        omega
      have hread := entries?_entryChars depth rest (fun x hx => hentries x (.tail (key, v) hx)) hv
        key fuel [] hlength
      have hsplit : valueChars style depth (.table ((key, v) :: entries)) ++ rest =
          '\x7b' :: (lead style (depth + 1) ++ (stringChars style.ascii key ++ ':' :: ' ' ::
            (valueChars style (depth + 1) v ++ (entryChars style (depth + 1) entries ++
              (lead style depth ++ '\x7d' :: rest))))) := by
        simp only [valueChars, List.append_assoc, List.cons_append, List.nil_append]
      -- the quotation mark of the first key keeps the table from being taken for an empty one
      rw [hsplit, value?_table fuel, entries?_skipBlanks (isBlank_lead style (depth + 1)), hread]
      · rfl
      · intro later
        rw [skipBlanks_append (isBlank_lead style (depth + 1)), stringChars, List.append_assoc,
          List.cons_append, skipBlanks_cons rfl]
        rintro ⟨⟩

end

/-! ### Values -/

/-- A value is read back at every depth. -/
theorem reads_valueChars (style : Style) {v : Value} (hv : v.IsJson) (depth : Nat) :
    Reads v (valueChars style depth v) := by
  -- induction on the value; a list or a table is read at the depth below its own
  induction hv generalizing depth with
  | null => exact reads_of_scalar? fun rest _ => rfl
  | boolean b =>
    cases b with
    | true => exact reads_of_scalar? fun rest _ => rfl
    | false => exact reads_of_scalar? fun rest _ => rfl
  | integer i => exact reads_of_scalar? fun rest hrest => scalar?_intText i hrest
  | real r hcanonical => exact reads_of_scalar? fun rest hrest => scalar?_realChars hcanonical hrest
  | text s => exact reads_string style.ascii s
  | list items _ ih => exact reads_list fun v hv => ih v hv (depth + 1)
  | table entries _ ih => exact reads_table fun entry hentry => ih entry hentry (depth + 1)

/-- **JSON texts.**  A value is read back from its text in any style. -/
theorem read_write (style : Style) {v : Value} (hv : v.IsJson) :
    read (write style v) = some v := by
  have hread := reads_valueChars style hv 0 (2 * (valueChars style 0 v).length + 1) []
    (by omega) stops_nil
  rw [List.append_nil] at hread
  rw [read, write, String.toList_ofList]
  simp only [hread, skipBlanks, List.dropWhile_nil, List.isEmpty_nil, if_true]

/-! ### The characters of texts -/

/-- Digits are visible characters of ASCII. -/
theorem graphic_of_isDigit {digits : List Char} (h : ∀ c ∈ digits, c.isDigit = true) :
    ∀ c ∈ digits, Graphic c := by
  intro c hc
  have hdigit := h c hc
  simp only [Char.isDigit, Bool.and_eq_true, decide_eq_true_eq, ge_iff_le] at hdigit
  exact ⟨Nat.le_trans (show 0x20 ≤ '0'.toNat by decide) hdigit.1,
    Nat.lt_of_le_of_lt hdigit.2 (show '9'.toNat < 0x7F by decide)⟩

theorem graphic_zeros (count : Nat) : ∀ c ∈ List.replicate count '0', Graphic c :=
  graphic_of_isDigit (isDigit_zeros count)

/-- So are the digits of a number with a point in it. -/
theorem graphic_positional {digits : List Char} (h : ∀ c ∈ digits, Graphic c) (point : Int) :
    ∀ c ∈ positional digits point, Graphic c := by
  unfold positional
  split
  · simp only [List.forall_mem_append, List.forall_mem_cons]
    exact ⟨⟨by decide, by decide, graphic_zeros _⟩, h⟩
  dsimp only
  split
  · simp only [List.forall_mem_append]
    exact ⟨⟨h, graphic_zeros _⟩, graphic_of_all rfl⟩
  · simp only [List.forall_mem_append, List.forall_mem_cons]
    exact ⟨fun c hc => h c (List.mem_of_mem_take hc), by decide,
      fun c hc => h c (List.mem_of_mem_drop hc)⟩

/-- So is an exponent with its sign. -/
theorem graphic_exponentText (exponent : Int) : ∀ c ∈ exponentText 'e' exponent, Graphic c := by
  unfold exponentText
  simp only [List.forall_mem_cons]
  refine ⟨by decide, ?_, ?_⟩
  · split <;> decide
  · exact List.forall_mem_append.mpr
      ⟨graphic_zeros _, graphic_of_isDigit (isDigit_decimalDigits exponent.natAbs)⟩

/-- So are digits with an exponent. -/
theorem graphic_scientific {digits : List Char} (h : ∀ c ∈ digits, Graphic c) (exponent : Int) :
    ∀ c ∈ scientific 'e' digits exponent, Graphic c := by
  have hexponent := graphic_exponentText exponent
  match digits with
  | [] => exact nofun
  | [d] => exact List.forall_mem_cons.mpr ⟨h d (.head []), hexponent⟩
  | d :: e :: places =>
    obtain ⟨hfirst, hplaces⟩ := List.forall_mem_cons.mp h
    simp only [scientific, List.forall_mem_append, List.forall_mem_cons]
    exact ⟨⟨hfirst, by decide, List.forall_mem_cons.mp hplaces⟩, hexponent⟩

/-- So is a number without its sign, however it is laid out. -/
theorem graphic_magnitudeText (mantissa : Nat) (exponent : Int) :
    ∀ c ∈ Binary64.magnitudeText mantissa exponent, Graphic c := by
  unfold Binary64.magnitudeText
  split
  · exact graphic_of_all rfl
  have hdigits := graphic_of_isDigit (isDigit_decimalDigits (Binary64.shortest mantissa exponent).1)
  dsimp only
  split
  · exact graphic_positional hdigits _
  · exact graphic_scientific hdigits _

/-- So is an integer. -/
theorem graphic_intText (i : Int) : ∀ c ∈ (intText i).toList, Graphic c := by
  have hdigits := graphic_of_isDigit (isDigit_decimalDigits i.natAbs)
  rw [toList_intText]
  split
  · exact List.forall_mem_cons.mpr ⟨by decide, hdigits⟩
  · exact hdigits

/-- So is a real number, and so are the words for those that have no digits. -/
theorem graphic_realChars (r : Binary64) : ∀ c ∈ realChars r, Graphic c := by
  cases r with
  | nan => exact graphic_of_all rfl
  | infinite negative =>
    cases negative with
    | true => exact graphic_of_all rfl
    | false => exact graphic_of_all rfl
  | finite negative mantissa exponent =>
    have hmagnitude := graphic_magnitudeText mantissa exponent
    rw [realChars, Binary64.text, String.toList_ofList]
    cases negative with
    | true => exact List.forall_mem_cons.mpr ⟨by decide, hmagnitude⟩
    | false => exact hmagnitude

/-- A style without lines has no line feeds. -/
theorem uses_lead (style : Style) (depth : Nat) : ∀ c ∈ lead style depth, style.Uses c := by
  unfold lead
  cases hindent : style.indent with
  | none => exact nofun
  | some width =>
    intro c hc
    rcases List.mem_cons.mp hc with rfl | hc
    · exact ⟨.inr ⟨rfl, by rw [hindent]; nofun⟩, fun _ => by decide⟩
    · rw [(List.mem_replicate.mp hc).2]
      exact Graphic.uses (by decide) style

/-- Nor has it any between items. -/
theorem uses_separator (style : Style) (depth : Nat) :
    ∀ c ∈ separator style depth, style.Uses c := by
  have hcomma : style.Uses ',' := Graphic.uses (by decide) style
  unfold separator
  split
  · exact uses_of_graphic style (graphic_of_all rfl)
  · exact List.forall_mem_cons.mpr ⟨hcomma, uses_lead style depth⟩

section
variable {style : Style} {depth : Nat}

/-- Items use the characters of the style if each of them does. -/
theorem uses_itemChars {items : List Value}
    (h : ∀ v ∈ items, ∀ c ∈ valueChars style depth v, style.Uses c) :
    ∀ c ∈ itemChars style depth items, style.Uses c := by
  induction items with
  | nil => exact nofun
  | cons v items ih =>
    obtain ⟨hv, hitems⟩ := List.forall_mem_cons.mp h
    simp only [itemChars, List.forall_mem_append]
    exact ⟨⟨uses_separator style depth, hv⟩, ih hitems⟩

/-- Entries use the characters of the style if their values do. -/
theorem uses_entryChars {entries : List (String × Value)}
    (h : ∀ entry ∈ entries, ∀ c ∈ valueChars style depth entry.2, style.Uses c) :
    ∀ c ∈ entryChars style depth entries, style.Uses c := by
  have hcolon : style.Uses ':' ∧ style.Uses ' ' :=
    ⟨Graphic.uses (by decide) style, Graphic.uses (by decide) style⟩
  induction entries with
  | nil => exact nofun
  | cons entry entries ih =>
    obtain ⟨hentry, hentries⟩ := List.forall_mem_cons.mp h
    simp only [entryChars, List.forall_mem_append, List.forall_mem_cons]
    exact ⟨⟨⟨uses_separator style depth, uses_stringChars style _⟩, hcolon.1, hcolon.2, hentry⟩,
      ih hentries⟩

end

/-- **The characters of texts.**  A value is written with the characters of the style. -/
theorem uses_valueChars (style : Style) {v : Value} (hv : v.IsJson) (depth : Nat) :
    ∀ c ∈ valueChars style depth v, style.Uses c := by
  have hmark {c : Char} (h : Graphic c) : style.Uses c := h.uses style
  induction hv generalizing depth with
  | null => exact uses_of_graphic style (graphic_of_all rfl)
  | boolean b =>
    cases b with
    | true => exact uses_of_graphic style (graphic_of_all rfl)
    | false => exact uses_of_graphic style (graphic_of_all rfl)
  | integer i => exact uses_of_graphic style (graphic_intText i)
  | real r _ => exact uses_of_graphic style (graphic_realChars r)
  | text s => exact uses_stringChars style s
  | list items _ ih =>
    cases items with
    | nil => exact uses_of_graphic style (graphic_of_all rfl)
    | cons v items =>
      have hitems := uses_itemChars fun x hx => ih x (.tail v hx) (depth + 1)
      simp only [valueChars, List.forall_mem_append, List.forall_mem_cons]
      exact ⟨⟨⟨⟨⟨hmark (by decide), uses_lead style _⟩, ih v (.head items) (depth + 1)⟩, hitems⟩,
        uses_lead style _⟩, hmark (by decide), nofun⟩
  | table entries _ ih =>
    cases entries with
    | nil => exact uses_of_graphic style (graphic_of_all rfl)
    | cons entry entries =>
      have hentries := uses_entryChars fun x hx => ih x (.tail entry hx) (depth + 1)
      have hentry := ih entry (.head entries) (depth + 1)
      simp only [valueChars, List.forall_mem_append, List.forall_mem_cons]
      exact ⟨⟨⟨⟨⟨⟨hmark (by decide), uses_lead style _⟩, uses_stringChars style _⟩,
        hmark (by decide), hmark (by decide), hentry⟩, hentries⟩, uses_lead style _⟩,
        hmark (by decide), nofun⟩

/-- A document uses the characters of its style only. -/
theorem uses_write (style : Style) {v : Value} (hv : v.IsJson) :
    ∀ c ∈ (write style v).toList, style.Uses c := by
  rw [write, String.toList_ofList]
  exact uses_valueChars style hv 0

end Json

end ElfInspect
