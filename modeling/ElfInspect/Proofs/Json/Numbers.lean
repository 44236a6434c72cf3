import ElfInspect.Json.Reader
import ElfInspect.Json.Writer
import ElfInspect.Proofs.Number.Shortest

namespace ElfInspect.Json

/-!
# JSON numbers

The decimal text of a number is read back, in front of any text in which the number does not go
on.  Integers may have any number of digits.  A real number is read back from its shortest text,
whether that is positional or scientific.

* `Stops` — the texts that end a number;
* `unsigned?_intText` — the text of an integer;
* `unsigned?_magnitudeText` — the shortest text of a finite number, without its sign;
* `scalar?_intText`, `scalar?_realChars` — the same with the sign, and the special numbers.
-/

/-- A text that does not begin with a digit. -/
def NoDigit (rest : List Char) : Prop :=
  ∀ c, rest.head? = some c → c.isDigit = false

/-- A text that ends the number in front of it. -/
structure Stops (rest : List Char) : Prop where
  noDigit : NoDigit rest
  noPoint : rest.head? ≠ some '.'
  noMark : rest.head? ≠ some 'e' ∧ rest.head? ≠ some 'E'

/-- Nothing follows at the end of a text. -/
theorem stops_nil : Stops [] where
  noDigit := nofun
  noPoint := nofun
  noMark := ⟨nofun, nofun⟩

/-! ### Digits -/

/-- Digits that may stand in front of the point. -/
structure Whole (digits : List Char) : Prop where
  isDigit : ∀ c ∈ digits, c.isDigit = true
  nonempty : digits ≠ []
  noZero : ¬ (digits.head? = some '0' ∧ 1 < digits.length)

/-- Digits are taken up to the first character that is none. -/
theorem spanDigits_append {digits rest : List Char} (hdigits : ∀ c ∈ digits, c.isDigit = true)
    (hrest : NoDigit rest) : spanDigits (digits ++ rest) = (digits, rest) := by
  unfold spanDigits
  rw [List.takeWhile_append_of_pos hdigits, List.dropWhile_append_of_pos hdigits]
  cases rest with
  | nil => rw [List.takeWhile_nil, List.dropWhile_nil, List.append_nil]
  | cons c rest =>
    have hc : ¬ c.isDigit = true := by rw [hrest c rfl]; decide
    rw [List.takeWhile_cons_of_neg hc, List.dropWhile_cons_of_neg hc, List.append_nil]

theorem isDigit_decimalDigits (n : Nat) : ∀ c ∈ decimalDigits n, c.isDigit = true := fun _ hc =>
  Nat.isDigit_of_mem_toDigits (by decide) (by decide) hc

/-- The digits of a number denote it. -/
theorem digitsValue_decimalDigits (n : Nat) : digitsValue (decimalDigits n) = n :=
  Nat.ofDigitChars_ten_toDigits

/-- Digits that follow move those before them to higher places. -/
theorem digitsValue_append (digits later : List Char) :
    digitsValue (digits ++ later) = digitsValue digits * 10 ^ later.length + digitsValue later := by
  rw [digitsValue, Nat.ofDigitChars_append, Nat.ofDigitChars_eq_ofDigitChars_zero, Nat.mul_comm]
  rfl

/-- Leading zeros count for nothing. -/
theorem digitsValue_zeros_append (count : Nat) (digits : List Char) :
    digitsValue (List.replicate count '0' ++ digits) = digitsValue digits := by
  rw [digitsValue_append, digitsValue, Nat.ofDigitChars_replicate_zero, Nat.mul_zero, Nat.zero_mul,
    Nat.zero_add]

/-- Each zero behind a number is another factor of ten. -/
theorem digitsValue_append_zeros (digits : List Char) (count : Nat) :
    digitsValue (digits ++ List.replicate count '0') = digitsValue digits * 10 ^ count := by
  have hzeros : digitsValue (List.replicate count '0') = 0 := by
    rw [digitsValue, Nat.ofDigitChars_replicate_zero, Nat.mul_zero]
  rw [digitsValue_append, hzeros, List.length_replicate, Nat.add_zero]

theorem isDigit_zeros (count : Nat) : ∀ c ∈ List.replicate count '0', c.isDigit = true := by
  intro c hc
  rw [(List.mem_replicate.mp hc).2]
  decide

/-- The digits of a positive number begin with no zero. -/
theorem head?_decimalDigits {n : Nat} (h : 0 < n) : (decimalDigits n).head? ≠ some '0' := by
  induction n using Nat.strongRecOn with
  | ind n ih =>
    unfold decimalDigits at ih ⊢
    rw [Nat.toDigits_eq_if (by decide)]
    split
    · rename_i hlt
      have hdigit : ∀ digit < 10, 0 < digit → some (Nat.digitChar digit) ≠ some '0' := by decide
      exact hdigit n hlt h
    · rw [List.head?_append_of_ne_nil _ Nat.toDigits_ne_nil]
      exact ih (n / 10) (by omega) (by omega)

theorem whole_zero : Whole ['0'] where
  isDigit := isDigit_zeros 1
  nonempty := nofun
  noZero h := absurd h.2 (by decide)

/-- Digits that begin with no zero may stand in front of the point. -/
theorem whole_of_head? {digits : List Char} (hdigits : ∀ c ∈ digits, c.isDigit = true)
    (hnonempty : digits ≠ []) (hzero : digits.head? ≠ some '0') : Whole digits :=
  ⟨hdigits, hnonempty, fun h => hzero h.1⟩

/-- A number is written without leading zeros. -/
theorem whole_decimalDigits (n : Nat) : Whole (decimalDigits n) := by
  rcases Nat.eq_zero_or_pos n with rfl | hpos
  · exact whole_zero
  · exact whole_of_head? (isDigit_decimalDigits n) Nat.toDigits_ne_nil (head?_decimalDigits hpos)

/-! ### Parts of a number -/

/-- Where a number stops there are no decimal places. -/
theorem fraction_of_stops {rest : List Char} (h : Stops rest) : fraction rest = ([], rest) := by
  unfold fraction
  split
  · exact absurd rfl h.noPoint
  · rfl

/-- Decimal places are taken behind a point. -/
theorem fraction_append {places rest : List Char} (hdigits : ∀ c ∈ places, c.isDigit = true)
    (hnonempty : places ≠ []) (hrest : NoDigit rest) :
    fraction ('.' :: (places ++ rest)) = (places, rest) := by
  unfold fraction
  simp only [spanDigits_append hdigits hrest]

/-- Where a number stops there is no exponent. -/
theorem exponent?_of_stops {rest : List Char} (h : Stops rest) : exponent? rest = (none, rest) := by
  unfold exponent?
  cases rest with
  | nil => rfl
  | cons c rest =>
    have hc : ¬ (c = 'e' ∨ c = 'E') := by
      rintro (rfl | rfl)
      · exact h.noMark.1 rfl
      · exact h.noMark.2 rfl
    exact if_neg hc

/-- An exponent is read back. -/
theorem exponent?_exponentText (n : Int) {rest : List Char} (hrest : NoDigit rest) :
    exponent? (exponentText 'e' n ++ rest) = (some n, rest) := by
  have hdigits : ∀ c ∈ (decimalDigits n.natAbs).leftpad 2 '0', c.isDigit = true :=
    List.forall_mem_append.mpr ⟨isDigit_zeros _, isDigit_decimalDigits _⟩
  have hvalue : digitsValue ((decimalDigits n.natAbs).leftpad 2 '0') = n.natAbs := by
    rw [List.leftpad, digitsValue_zeros_append, digitsValue_decimalDigits]
  have hnonempty : (decimalDigits n.natAbs).leftpad 2 '0' ≠ [] := by
    intro h
    exact Nat.toDigits_ne_nil (List.append_eq_nil_iff.mp h).2
  have hspan := spanDigits_append hdigits hrest
  unfold exponentText
  generalize (decimalDigits n.natAbs).leftpad 2 '0' = digits at hvalue hnonempty hspan
  match digits, hnonempty with
  | c :: digits, _ =>
    -- the sign is written in either case
    rcases lt_or_ge n 0 with hneg | hpos
    · rw [if_pos hneg]
      simp only [exponent?, List.cons_append, true_or, if_true] at hspan ⊢
      simp only [hspan, hvalue]
      rw [Int.ofNat_natAbs_of_nonpos (Int.le_of_lt hneg), Int.neg_neg]
    · rw [if_neg (Int.not_lt.mpr hpos)]
      simp only [exponent?, List.cons_append, true_or, if_true] at hspan ⊢
      simp only [hspan, hvalue, Bool.false_eq_true, if_false]
      rw [Int.natAbs_of_nonneg hpos]

/-! ### Unsigned numbers -/

section
variable {whole places tail rest : List Char}

/-- A number is made of its digits, of what stands behind a point and of an exponent.  It is an
    integer if only the digits are there. -/
theorem unsigned?_append (negative : Bool) {later : List Char} {exponent : Option Int}
    (hwhole : Whole whole) (hlater : NoDigit later) (hfraction : fraction later = (places, tail))
    (hexponent : exponent? tail = (exponent, rest)) :
    unsigned? negative (whole ++ later) =
      if places.isEmpty ∧ exponent.isNone then
        some (.integer (if negative then -digitsValue whole else digitsValue whole), rest)
      else
        some (.real (.ofDecimal negative (digitsValue (whole ++ places))
          (exponent.getD 0 - places.length)), rest) := by
  unfold unsigned?
  rw [spanDigits_append hwhole.isDigit hlater]
  obtain ⟨c, digits, rfl⟩ := List.exists_cons_of_ne_nil hwhole.nonempty
  dsimp only
  rw [if_neg hwhole.noZero]
  simp only [hfraction, hexponent]

/-- Digits alone are an integer. -/
theorem unsigned?_whole (negative : Bool) (hwhole : Whole whole) (hrest : Stops rest) :
    unsigned? negative (whole ++ rest) =
      some (.integer (if negative then -digitsValue whole else digitsValue whole), rest) := by
  rw [unsigned?_append negative hwhole hrest.noDigit (fraction_of_stops hrest)
    (exponent?_of_stops hrest)]
  exact if_pos ⟨rfl, rfl⟩

/-- Digits, a point, more digits and perhaps an exponent are a real number. -/
theorem unsigned?_point (negative : Bool) {exponent : Option Int} (hwhole : Whole whole)
    (hdigits : ∀ c ∈ places, c.isDigit = true) (hnonempty : places ≠ []) (htail : NoDigit tail)
    (hexponent : exponent? tail = (exponent, rest)) :
    unsigned? negative (whole ++ '.' :: (places ++ tail)) =
      some (.real (.ofDecimal negative (digitsValue (whole ++ places))
        (exponent.getD 0 - places.length)), rest) := by
  have hpoint : NoDigit ('.' :: (places ++ tail)) := by
    rintro c ⟨⟩
    rfl
  rw [unsigned?_append negative hwhole hpoint (fraction_append hdigits hnonempty htail) hexponent]
  exact if_neg fun h => hnonempty (List.isEmpty_iff.mp h.1)

/-- Digits and an exponent are a real number. -/
theorem unsigned?_mark (negative : Bool) (exponent : Int) (hwhole : Whole whole)
    (hrest : NoDigit rest) :
    unsigned? negative (whole ++ (exponentText 'e' exponent ++ rest)) =
      some (.real (.ofDecimal negative (digitsValue whole) exponent), rest) := by
  have hmark : NoDigit (exponentText 'e' exponent ++ rest) := by
    rintro c ⟨⟩
    rfl
  rw [unsigned?_append negative hwhole hmark rfl (exponent?_exponentText exponent hrest),
    if_neg (fun h => Bool.false_ne_true h.2), List.append_nil]
  simp only [Option.getD_some, List.length_nil, Nat.cast_zero, Int.sub_zero]

end

/-! ### Shortest texts -/

section
variable {digits rest : List Char} (hdigits : ∀ c ∈ digits, c.isDigit = true)
  (hzero : digits.head? ≠ some '0')
include hdigits hzero

/-- The first digits of a number do not begin with a zero. -/
theorem whole_take (count : Nat) (hcount : 0 < count) (hnonempty : digits ≠ []) :
    Whole (digits.take count) := by
  refine whole_of_head? (fun c hc => hdigits c (List.mem_of_mem_take hc)) ?_ ?_
  · intro h
    rcases List.take_eq_nil_iff.mp h with h | h
    · exact absurd h hcount.ne'
    · exact hnonempty h
  · rwa [List.head?_take, if_neg hcount.ne']

/-- Digits with a point are read back, wherever the point stands. -/
theorem unsigned?_positional (negative : Bool) (point : Int) (hnonempty : digits ≠ [])
    (hrest : Stops rest) :
    unsigned? negative (positional digits point ++ rest) =
      some (.real (.ofDecimal negative (digitsValue digits) (point - digits.length)), rest) := by
  have hexponent := exponent?_of_stops hrest
  unfold positional
  split
  · -- the point stands in front of all digits
    rename_i hfront
    have hplaces : ∀ c ∈ List.replicate (-point).toNat '0' ++ digits, c.isDigit = true :=
      List.forall_mem_append.mpr ⟨isDigit_zeros _, hdigits⟩
    have hvalue : digitsValue (['0'] ++ (List.replicate (-point).toNat '0' ++ digits)) =
        digitsValue digits :=
      digitsValue_zeros_append ((-point).toNat + 1) digits
    have hlength : (0 : Int) - (List.replicate (-point).toNat '0' ++ digits).length =
        point - digits.length := by
      rw [List.length_append, List.length_replicate]
      omega
    have hread := unsigned?_point negative whole_zero hplaces (by simp [hnonempty]) hrest.noDigit
      hexponent
    rw [hvalue, Option.getD_none, hlength] at hread
    rw [← hread]
    simp only [List.cons_append, List.nil_append, List.append_assoc]
  · rename_i hbehind
    dsimp only
    split
    · -- the point stands behind all digits and some zeros
      rename_i hlong
      have hwhole : Whole (digits ++ List.replicate (point.toNat - digits.length) '0') := by
        refine whole_of_head? (List.forall_mem_append.mpr ⟨hdigits, isDigit_zeros _⟩)
          (List.append_ne_nil_of_left_ne_nil hnonempty _) ?_
        rwa [List.head?_append_of_ne_nil _ hnonempty]
      have hvalue : digitsValue (digits ++ List.replicate (point.toNat - digits.length) '0' ++
          ['0']) = digitsValue digits * 10 ^ (point.toNat - digits.length + 1) := by
        rw [← digitsValue_append_zeros, List.replicate_succ', List.append_assoc]
      have hplaces : ∀ c ∈ ['0'], c.isDigit = true := isDigit_zeros 1
      have hread := unsigned?_point negative hwhole hplaces nofun hrest.noDigit hexponent
      have hunit : (0 : Int) - ((['0'] : List Char).length : Int) +
          (point.toNat - digits.length + 1 : Nat) = point - digits.length := by
        simp only [List.length_singleton]
        omega
      rw [hvalue, Binary64.ofDecimal_shift, Option.getD_none, hunit] at hread
      rw [← hread]
      simp only [List.cons_append, List.nil_append, List.append_assoc]
    · -- the point stands between two digits
      rename_i hshort
      have hwhole := whole_take hdigits hzero point.toNat (by omega) hnonempty
      have hplaces : ∀ c ∈ digits.drop point.toNat, c.isDigit = true := fun c hc =>
        hdigits c (List.mem_of_mem_drop hc)
      have hread := unsigned?_point negative hwhole hplaces
        (fun h => hshort (List.drop_eq_nil_iff.mp h)) hrest.noDigit hexponent
      have hlength : (0 : Int) - (digits.drop point.toNat).length = point - digits.length := by
        rw [List.length_drop]
        omega
      rw [List.take_append_drop, Option.getD_none, hlength] at hread
      rw [← hread, List.append_assoc, List.cons_append]

/-- Digits in scientific form are read back. -/
theorem unsigned?_scientific (negative : Bool) (exponent : Int) (hnonempty : digits ≠ [])
    (hrest : Stops rest) :
    unsigned? negative (scientific 'e' digits exponent ++ rest) =
      some (.real (.ofDecimal negative (digitsValue digits) (exponent + 1 - digits.length)),
        rest) := by
  have hwhole := whole_take hdigits hzero 1 (by decide) hnonempty
  match digits, hnonempty with
  | [d], _ =>
    have hread := unsigned?_mark negative exponent hwhole hrest.noDigit
    -- without decimal places the exponent is that of the last digit
    have hunit : exponent + 1 - (([d] : List Char).length : Int) = exponent := by
      rw [List.length_singleton]
      omega
    rw [hunit]
    exact hread
  | d :: e :: places, _ =>
    have hplaces : ∀ c ∈ e :: places, c.isDigit = true := fun c hc =>
      hdigits c (List.mem_cons_of_mem d hc)
    have hmark : NoDigit (exponentText 'e' exponent ++ rest) := by
      rintro c ⟨⟩
      rfl
    have hread := unsigned?_point negative hwhole hplaces (by simp) hmark
      (exponent?_exponentText exponent hrest.noDigit)
    -- each decimal place lowers the exponent of the last digit by one
    have hunit : exponent + 1 - ((d :: e :: places).length : Int) =
        exponent - ((e :: places).length : Int) := by
      rw [List.length_cons]
      omega
    have hsplit : scientific 'e' (d :: e :: places) exponent ++ rest =
        [d] ++ '.' :: (e :: places ++ (exponentText 'e' exponent ++ rest)) :=
      List.append_assoc (d :: '.' :: e :: places) (exponentText 'e' exponent) rest
    rw [hunit, hsplit]
    exact hread

end

/-- **Real numbers.**  The shortest text of a number is read back. -/
theorem unsigned?_magnitudeText (negative : Bool) {mantissa : Nat} {exponent : Int}
    {rest : List Char} (hcanonical : Binary64.Canonical mantissa exponent) (hrest : Stops rest) :
    unsigned? negative (Binary64.magnitudeText mantissa exponent ++ rest) =
      some (.real (.finite negative mantissa exponent), rest) := by
  unfold Binary64.magnitudeText
  rcases Nat.eq_zero_or_pos mantissa with rfl | hpos
  · have hexponent : exponent = -1074 := by
      rcases hcanonical.normal with h | h
      · omega
      · exact h
    rw [if_pos rfl, hexponent]
    exact unsigned?_point negative whole_zero (isDigit_zeros 1) nofun hrest.noDigit
      (exponent?_of_stops hrest)
  -- the shortest digits denote the number itself, however they are laid out
  · have hback := Binary64.ofDecimal_shortest negative hcanonical hpos
    have hdigits := isDigit_decimalDigits (Binary64.shortest mantissa exponent).1
    have hzero := head?_decimalDigits (Binary64.shortest_pos hcanonical hpos)
    rw [if_neg hpos.ne']
    dsimp only
    split
    · rw [unsigned?_positional hdigits hzero negative _ Nat.toDigits_ne_nil hrest,
        digitsValue_decimalDigits, add_sub_cancel_left, hback]
    · rw [unsigned?_scientific hdigits hzero negative _ Nat.toDigits_ne_nil hrest,
        digitsValue_decimalDigits, sub_add_cancel, add_sub_cancel_left, hback]

/-! ### Numbers with their signs -/

/-- A word that begins with another character is not there. -/
theorem word?_of_head? {word : String} {first c : Char} (hword : word.toList.head? = some first)
    (hne : first ≠ c) (chars : List Char) : word? word (c :: chars) = none := by
  obtain ⟨letters, hletters⟩ := List.head?_eq_some_iff.mp hword
  rw [word?, hletters, List.isPrefixOf_cons_cons, beq_false_of_ne hne]
  rfl

/-- Words do not begin with digits. -/
theorem word?_of_isDigit {word : String} {first c : Char} (hword : word.toList.head? = some first)
    (hfirst : first.isDigit = false) (hc : c.isDigit = true) (chars : List Char) :
    word? word (c :: chars) = none := by
  refine word?_of_head? hword ?_ chars
  rintro rfl
  exact Bool.false_ne_true (hfirst.symm.trans hc)

/-- What begins with a digit is read as a number. -/
theorem scalar?_of_isDigit {c : Char} (hc : c.isDigit = true) (chars : List Char) :
    scalar? (c :: chars) = unsigned? false (c :: chars) := by
  have hword {word : String} (first : Char) (hword : word.toList.head? = some first)
      (hfirst : first.isDigit = false) : word? word (c :: chars) = none :=
    word?_of_isDigit hword hfirst hc chars
  unfold scalar?
  split
  · rename_i heq
    cases heq
    exact absurd hc (by decide)
  · rw [hword 'n' rfl rfl, hword 't' rfl rfl, hword 'f' rfl rfl, hword 'N' rfl rfl,
      hword 'I' rfl rfl]

/-- What begins with a minus and a digit is read as a negative number. -/
theorem scalar?_minus {c : Char} (hc : c.isDigit = true) (chars : List Char) :
    scalar? ('-' :: c :: chars) = unsigned? true (c :: chars) := by
  have hletter : 'I'.isDigit = false := rfl
  have hword : word? "Infinity" (c :: chars) = none := word?_of_isDigit rfl hletter hc chars
  simp only [scalar?, hword]

/-- An unsigned number begins with a digit. -/
theorem exists_digit_of_unsigned? {negative : Bool} {chars : List Char}
    {result : Value × List Char} (h : unsigned? negative chars = some result) :
    ∃ c later, chars = c :: later ∧ c.isDigit = true := by
  match chars with
  | [] => cases h
  | c :: later =>
    refine ⟨c, later, rfl, ?_⟩
    by_contra hc
    rw [unsigned?, spanDigits, List.takeWhile_cons_of_neg hc] at h
    cases h

/-- A sign in front of an unsigned number is read with it. -/
theorem scalar?_of_unsigned? {negative : Bool} {chars : List Char} {result : Value × List Char}
    (h : unsigned? negative chars = some result) :
    scalar? (if negative then '-' :: chars else chars) = some result := by
  obtain ⟨c, later, rfl, hc⟩ := exists_digit_of_unsigned? h
  rw [← h]
  cases negative with
  | true => exact scalar?_minus hc later
  | false => exact scalar?_of_isDigit hc later

/-- An integer is written by its digits, behind a minus if it is negative. -/
theorem toList_intText (i : Int) :
    (intText i).toList =
      if i < 0 then '-' :: decimalDigits i.natAbs else decimalDigits i.natAbs := by
  show (Int.repr i).toList = _
  rw [Int.repr_eq_if]
  rcases lt_or_ge i 0 with hneg | hpos
  · have habs : (-i).toNat = i.natAbs := by omega
    rw [if_neg (not_le.mpr hneg), if_pos hneg, String.toList_append, Nat.toList_repr, habs]
    rfl
  · have habs : i.toNat = i.natAbs := by omega
    rw [if_pos hpos, if_neg (not_lt.mpr hpos), Nat.toList_repr, habs]
    rfl

/-- **Integers** of any size are read back. -/
theorem scalar?_intText (i : Int) {rest : List Char} (hrest : Stops rest) :
    scalar? ((intText i).toList ++ rest) = some (.integer i, rest) := by
  have hunsigned := unsigned?_whole (decide (i < 0)) (whole_decimalDigits i.natAbs) hrest
  have hsigned := scalar?_of_unsigned? hunsigned
  rw [digitsValue_decimalDigits] at hsigned
  rw [toList_intText]
  rcases lt_or_ge i 0 with hneg | hpos
  · simp only [hneg, decide_true, if_true] at hsigned ⊢
    rw [Int.ofNat_natAbs_of_nonpos hneg.le, Int.neg_neg] at hsigned
    exact hsigned
  · simp only [not_lt.mpr hpos, decide_false, if_false, Bool.false_eq_true] at hsigned ⊢
    rw [Int.natAbs_of_nonneg hpos] at hsigned
    exact hsigned

/-- **Real numbers**, the special ones too, are read back. -/
theorem scalar?_realChars {r : Binary64} {rest : List Char} (hcanonical : r.IsCanonical)
    (hrest : Stops rest) : scalar? (realChars r ++ rest) = some (.real r, rest) := by
  cases r with
  | nan => rfl
  | infinite negative =>
    cases negative with
    | true => rfl
    | false => rfl
  | finite negative mantissa exponent =>
    -- the sign is taken off before the digits are read
    have hsigned := scalar?_of_unsigned? (unsigned?_magnitudeText negative hcanonical hrest)
    rw [realChars, Binary64.text, String.toList_ofList, ← hsigned]
    cases negative with
    | true => rfl
    | false => rfl

end ElfInspect.Json
