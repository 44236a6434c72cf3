import ElfInspect.Proofs.Text.Layout
import ElfInspect.Text.Markup

namespace ElfInspect.Markup

/-!
# What escaping keeps

Text that is to be shown as it is gets escaped, so that nothing in it is read as a tag.  What is
shown is the text itself, but for two things: a backslash directly before a bracket that begins no
tag gets lost, and a single backslash at the end is doubled.

* `HasStray`, `dropStrays` — the backslashes that get lost, and the text without them;
* `pieces_induction` — induction on a text as it is divided into pieces;
* `pieces_escaped` — in an escaped text each tag has an odd number of backslashes before it, and
  nothing that was no tag before has become one;
* `shown_eq` — what is shown of any text;
* `shown_eq_self_iff` — the printing texts that are shown as they are.
-/

variable {chars content body rest plain : List Char} {slashes : Nat} {c : Char}

/-! ### Stray backslashes -/

/-- Whether a text begins with an opening bracket that begins no tag. -/
def startsBracket : List Char → Bool
  | '[' :: rest => (tag? rest).isNone
  | _ => false

/-- A text without the backslashes that stand directly before a bracket that begins no tag. -/
def dropStrays : List Char → List Char
  | [] => []
  | c :: rest =>
    if c = '\\' ∧ startsBracket rest then dropStrays rest else c :: dropStrays rest

/-- A backslash stands directly before an opening bracket that begins no tag. -/
def HasStray (chars : List Char) : Prop :=
  ∃ before rest, chars = before ++ '\\' :: '[' :: rest ∧ tag? rest = none

/-- What follows is a bracket that begins no tag. -/
theorem startsBracket_iff :
    startsBracket chars = true ↔ ∃ rest, chars = '[' :: rest ∧ tag? rest = none := by
  unfold startsBracket
  split
  · simp
  · rename_i hbracket
    simp only [Bool.false_eq_true, false_iff]
    rintro ⟨rest, rfl, -⟩
    exact hbracket rest rfl

/-- A stray backslash comes first or later. -/
theorem hasStray_cons :
    HasStray (c :: rest) ↔ (c = '\\' ∧ startsBracket rest = true) ∨ HasStray rest := by
  constructor
  · rintro ⟨before, later, heq, hnone⟩
    -- the backslash stands at the beginning, or else something stands before it
    cases before with
    | nil =>
      obtain ⟨rfl, rfl⟩ := List.cons.inj heq
      exact .inl ⟨rfl, startsBracket_iff.mpr ⟨later, rfl, hnone⟩⟩
    | cons first before =>
      obtain ⟨rfl, rfl⟩ := List.cons.inj heq
      exact .inr ⟨before, later, rfl, hnone⟩
  · rintro (⟨rfl, hbracket⟩ | ⟨before, later, rfl, hnone⟩)
    · obtain ⟨later, rfl, hnone⟩ := startsBracket_iff.mp hbracket
      exact ⟨[], later, rfl, hnone⟩
    · exact ⟨c :: before, later, rfl, hnone⟩

/-- Nothing is added and nothing moved. -/
theorem dropStrays_sublist (chars : List Char) : (dropStrays chars).Sublist chars := by
  induction chars with
  | nil => exact .slnil
  | cons c rest ih =>
    unfold dropStrays
    split
    · exact ih.cons c
    · exact ih.cons_cons c

/-- Only backslashes are lost. -/
theorem dropStrays_of_ne (h : c ≠ '\\') : dropStrays (c :: rest) = c :: dropStrays rest := by
  rw [dropStrays, if_neg fun hstray => h hstray.1]

/-- Without a stray backslash the text stays the same. -/
theorem dropStrays_of_not_hasStray (h : ¬HasStray chars) : dropStrays chars = chars := by
  induction chars with
  | nil => rfl
  | cons c rest ih =>
    rw [hasStray_cons, not_or] at h
    rw [dropStrays, if_neg h.1, ih h.2]

/-- What is left begins differently where a backslash has been lost, so that nothing put behind it
    makes up for it. -/
theorem not_hasStray_of_prefix (h : dropStrays chars <+: chars) : ¬HasStray chars := by
  induction chars with
  | nil => simp [HasStray]
  | cons c rest ih =>
    rw [hasStray_cons]
    unfold dropStrays at h
    split at h
    -- a stray backslash is lost, and what is kept goes on with a bracket instead
    · rename_i hstray
      obtain ⟨rfl, hbracket⟩ := hstray
      obtain ⟨later, rfl, -⟩ := startsBracket_iff.mp hbracket
      rw [dropStrays_of_ne (by decide)] at h
      exact absurd (List.cons_prefix_cons.mp h).1 (by decide)
    · rename_i hstray
      exact not_or.mpr ⟨hstray, ih (List.cons_prefix_cons.mp h).2⟩

/-! ### Tags -/

/-- What stands between the brackets of a tag. -/
structure IsTag (content : List Char) : Prop where
  starts : ∃ first body, content = first :: body ∧ startsTag first = true
  brackets_not : ∀ c ∈ content, c ≠ '[' ∧ c ≠ ']'

theorem tagBody_cons (hopens : c ≠ '[') (hcloses : c ≠ ']') :
    tagBody (c :: rest) = (tagBody rest).map fun (body, rest) => (c :: body, rest) :=
  tagBody.eq_4 c rest hcloses hopens

/-- A body without brackets ends at the bracket that closes it. -/
theorem tagBody_append (h : ∀ c ∈ body, c ≠ '[' ∧ c ≠ ']') (rest : List Char) :
    tagBody (body ++ ']' :: rest) = some (body, rest) := by
  induction body with
  | nil => rfl
  | cons c body ih =>
    obtain ⟨hc, hbody⟩ := List.forall_mem_cons.mp h
    rw [List.cons_append, tagBody_cons hc.1 hc.2, ih hbody]
    rfl

/-- What is found up to a closing bracket has no brackets in it. -/
theorem of_tagBody (h : tagBody chars = some (body, rest)) :
    chars = body ++ ']' :: rest ∧ ∀ c ∈ body, c ≠ '[' ∧ c ≠ ']' := by
  induction chars using tagBody.induct generalizing body with
  | case1 => cases h
  | case2 more =>
    rw [tagBody] at h
    obtain ⟨rfl, rfl⟩ := Prod.mk.inj (Option.some.inj h)
    exact ⟨rfl, fun c hc => absurd hc (List.not_mem_nil)⟩
  | case3 more => cases h
  | case4 c more hcloses hopens ih =>
    rw [tagBody_cons hopens hcloses, Option.map_eq_some_iff] at h
    obtain ⟨⟨inner, later⟩, hinner, heq⟩ := h
    obtain ⟨rfl, rfl⟩ := Prod.mk.inj heq
    obtain ⟨rfl, hbrackets⟩ := ih hinner
    exact ⟨rfl, List.forall_mem_cons.mpr ⟨⟨hopens, hcloses⟩, hbrackets⟩⟩

/-- The tag that a bracket begins. -/
theorem isTag_of_tag? (h : tag? chars = some (content, rest)) :
    IsTag content ∧ chars = content ++ ']' :: rest := by
  unfold tag? at h
  split at h
  · rename_i first more
    split at h
    · rename_i hstarts
      obtain ⟨⟨body, later⟩, hbody, heq⟩ := Option.map_eq_some_iff.mp h
      obtain ⟨rfl, rfl⟩ := Prod.mk.inj heq
      obtain ⟨rfl, hbrackets⟩ := of_tagBody hbody
      refine ⟨⟨⟨first, body, rfl, hstarts⟩, List.forall_mem_cons.mpr ⟨⟨?_, ?_⟩, hbrackets⟩⟩, rfl⟩
      · rintro rfl
        exact absurd hstarts (by decide)
      · rintro rfl
        exact absurd hstarts (by decide)
    · cases h
  · cases h

/-- A tag is one whatever stands behind it. -/
theorem IsTag.tag?_append (h : IsTag content) (rest : List Char) :
    tag? (content ++ ']' :: rest) = some (content, rest) := by
  obtain ⟨first, body, rfl, hstarts⟩ := h.starts
  obtain ⟨-, hbody⟩ := List.forall_mem_cons.mp h.brackets_not
  rw [List.cons_append, tag?, if_pos hstarts, tagBody_append hbody]
  rfl

/-- No backslash is lost within a tag, since no bracket follows on one there. -/
theorem IsTag.dropStrays_append (h : IsTag content) (rest : List Char) :
    dropStrays (content ++ ']' :: rest) = content ++ ']' :: dropStrays rest := by
  -- the induction is on the content, of which only that it has no brackets is left then
  have hbrackets := h.brackets_not
  clear h
  induction content with
  | nil => exact dropStrays_of_ne (by decide)
  | cons c content ih =>
    obtain ⟨-, hcontent⟩ := List.forall_mem_cons.mp hbrackets
    have hbracket : startsBracket (content ++ ']' :: rest) = false := by
      rw [← Bool.not_eq_true, startsBracket_iff]
      rintro ⟨later, heq, -⟩
      cases content with
      | nil => simp at heq
      | cons next content => exact (hcontent next List.mem_cons_self).1 (List.cons.inj heq).1
    rw [List.cons_append, dropStrays, if_neg (by simp [hbracket]), ih hcontent]
    rfl

/-! ### Text that is no tag stays none -/

/-- No tag is closed before an opening bracket. -/
theorem tagBody_cons_eq_none_iff :
    tagBody (c :: rest) = none ↔ c = '[' ∨ c ≠ ']' ∧ tagBody rest = none := by
  by_cases hopens : c = '['
  · subst hopens
    exact ⟨fun _ => .inl rfl, fun _ => rfl⟩
  · by_cases hcloses : c = ']'
    · subst hcloses
      simp [tagBody]
    · rw [tagBody_cons hopens hcloses, Option.map_eq_none_iff]
      simp [hopens, hcloses]

/-- Backslashes neither open nor close a tag. -/
theorem tagBody_eq_none_slashes (slashes : Nat) (h : tagBody rest = none) :
    tagBody (List.replicate slashes '\\' ++ rest) = none := by
  induction slashes with
  | zero => exact h
  | succ slashes ih => exact tagBody_cons_eq_none_iff.mpr (.inr ⟨by decide, ih⟩)

/-- Only some characters can follow on the bracket that begins a tag. -/
theorem tag?_eq_none_cons (h : startsTag c = false) : tag? (c :: rest) = none := by
  rw [tag?, if_neg (by rw [h]; decide)]

/-! ### Pieces -/

/-- Backslashes at the end of a text stand for themselves. -/
theorem piecesFrom_nil (slashes : Nat) :
    piecesFrom slashes [] = List.replicate slashes (.plain '\\') := by
  rw [piecesFrom]

/-- A backslash is counted until it is known what follows. -/
theorem piecesFrom_slash (slashes : Nat) (rest : List Char) :
    piecesFrom slashes ('\\' :: rest) = piecesFrom (slashes + 1) rest := by
  rw [piecesFrom]

/-- A tag takes the backslashes before it. -/
theorem piecesFrom_tag (h : IsTag content) (slashes : Nat) (rest : List Char) :
    piecesFrom slashes ('[' :: (content ++ ']' :: rest)) =
      .tag slashes content :: piecesFrom 0 rest := by
  rw [piecesFrom]
  split
  · rename_i found later htag
    rw [h.tag?_append] at htag
    obtain ⟨rfl, rfl⟩ := Prod.mk.inj (Option.some.inj htag)
    rfl
  · rename_i hnone
    rw [h.tag?_append] at hnone
    cases hnone

/-- Any other character leaves the backslashes before it as they are. -/
theorem piecesFrom_plain (hslash : c ≠ '\\') (hopens : c = '[' → tag? rest = none)
    (slashes : Nat) :
    piecesFrom slashes (c :: rest) =
      List.replicate slashes (.plain '\\') ++ .plain c :: piecesFrom 0 rest := by
  by_cases hbracket : c = '['
  · subst hbracket
    rw [piecesFrom]
    split
    · rename_i htag
      rw [hopens rfl] at htag
      cases htag
    · rfl
  · rw [piecesFrom]
    · exact hslash
    · exact hbracket

/-- Backslashes are counted one by one. -/
theorem piecesFrom_slashes (slashes more : Nat) (rest : List Char) :
    piecesFrom slashes (List.replicate more '\\' ++ rest) = piecesFrom (slashes + more) rest := by
  induction more generalizing slashes with
  | zero => rfl
  | succ more ih =>
    rw [List.replicate_succ, List.cons_append, piecesFrom_slash, ih, Nat.add_right_comm]
    rfl

/-- Induction on a text as it is divided into pieces: at its end, after a backslash, after a tag,
    and after any other character. -/
@[elab_as_elim]
theorem pieces_induction {motive : Nat → List Char → Prop}
    (done : ∀ slashes, motive slashes [])
    (slash : ∀ slashes rest, motive (slashes + 1) rest → motive slashes ('\\' :: rest))
    (tag : ∀ slashes content rest, IsTag content → motive 0 rest →
      motive slashes ('[' :: (content ++ ']' :: rest)))
    (plain : ∀ slashes c rest, c ≠ '\\' → (c = '[' → tag? rest = none) → motive 0 rest →
      motive slashes (c :: rest))
    (slashes : Nat) (chars : List Char) : motive slashes chars := by
  induction slashes, chars using piecesFrom.induct with
  | case1 slashes => exact done slashes
  | case2 slashes rest ih => exact slash slashes rest ih
  | case3 slashes rest content later htag ih =>
    obtain ⟨hcontent, rfl⟩ := isTag_of_tag? htag
    exact tag slashes content later hcontent ih
  | case4 slashes rest hnone ih =>
    exact plain slashes '[' rest (by decide) (fun _ => hnone) ih
  | case5 slashes c rest hslash hopens ih =>
    exact plain slashes c rest hslash (fun heq => absurd heq hopens) ih

/-! ### Escaped text -/

/-- The escaped text of what follows a number of backslashes, these included. -/
def escapedFrom (slashes : Nat) (chars : List Char) : List Char :=
  (piecesFrom slashes chars).flatMap escapePiece

theorem flatMap_escapePiece_slashes (slashes : Nat) :
    (List.replicate slashes (.plain '\\')).flatMap escapePiece = List.replicate slashes '\\' := by
  rw [List.flatMap_replicate]
  simp [escapePiece]

/-- Backslashes at the end are left alone, for the time being. -/
theorem escapedFrom_nil (slashes : Nat) : escapedFrom slashes [] = List.replicate slashes '\\' := by
  rw [escapedFrom, piecesFrom_nil, flatMap_escapePiece_slashes]

/-- A backslash is counted until it is known what follows. -/
theorem escapedFrom_slash (slashes : Nat) (rest : List Char) :
    escapedFrom slashes ('\\' :: rest) = escapedFrom (slashes + 1) rest := by
  rw [escapedFrom, piecesFrom_slash, escapedFrom]

/-- Before a tag all backslashes are doubled, and one more escapes the tag. -/
theorem escapedFrom_tag (h : IsTag content) (slashes : Nat) (rest : List Char) :
    escapedFrom slashes ('[' :: (content ++ ']' :: rest)) =
      List.replicate (2 * slashes + 1) '\\' ++ '[' :: (content ++ ']' :: escapedFrom 0 rest) := by
  rw [escapedFrom, piecesFrom_tag h, List.flatMap_cons, escapePiece, escapedFrom]
  simp only [List.append_assoc, List.cons_append, List.nil_append]

/-- Before any other character nothing is escaped. -/
theorem escapedFrom_plain (hslash : c ≠ '\\') (hopens : c = '[' → tag? rest = none)
    (slashes : Nat) :
    escapedFrom slashes (c :: rest) = List.replicate slashes '\\' ++ c :: escapedFrom 0 rest := by
  rw [escapedFrom, piecesFrom_plain hslash hopens, List.flatMap_append,
    flatMap_escapePiece_slashes, List.flatMap_cons, escapePiece, escapedFrom, List.singleton_append]

/-- Escaping closes no bracket that has been open: what it adds are backslashes. -/
theorem tagBody_escapedFrom (h : tagBody chars = none) (slashes more : Nat) :
    tagBody (escapedFrom slashes chars ++ List.replicate more '\\') = none := by
  induction slashes, chars using pieces_induction with
  | done slashes =>
    -- escaping leaves only backslashes behind, which close nothing
    have hend : tagBody (List.replicate (slashes + more) '\\' ++ []) = none :=
      tagBody_eq_none_slashes _ rfl
    rw [List.append_nil] at hend
    rw [escapedFrom_nil, List.replicate_append_replicate, hend]
  | slash slashes rest ih =>
    rw [escapedFrom_slash]
    rcases tagBody_cons_eq_none_iff.mp h with heq | ⟨-, hrest⟩
    · exact absurd heq (by decide)
    · exact ih hrest
  | tag slashes content rest hcontent ih =>
    rw [escapedFrom_tag hcontent, List.append_assoc]
    exact tagBody_eq_none_slashes _ rfl
  | plain slashes c rest hslash hopens ih =>
    rw [escapedFrom_plain hslash hopens, List.append_assoc]
    refine tagBody_eq_none_slashes _ (tagBody_cons_eq_none_iff.mpr ?_)
    exact (tagBody_cons_eq_none_iff.mp h).imp_right fun hrest => ⟨hrest.1, ih hrest.2⟩

/-- With a backslash before it an escaped text begins with one. -/
theorem escapedFrom_begins (h : 0 < slashes) (chars : List Char) :
    ∃ later, escapedFrom slashes chars = '\\' :: later := by
  have hbegins (n : Nat) (hn : 0 < n) (rest : List Char) :
      ∃ later, List.replicate n '\\' ++ rest = '\\' :: later := by
    obtain ⟨n, rfl⟩ := Nat.exists_eq_add_one_of_ne_zero (Nat.ne_of_gt hn)
    exact ⟨_, rfl⟩
  induction slashes, chars using pieces_induction with
  | done slashes =>
    rw [escapedFrom_nil, ← List.append_nil (List.replicate slashes _)]
    exact hbegins slashes h []
  | slash slashes rest ih =>
    rw [escapedFrom_slash]
    exact ih (Nat.succ_pos slashes)
  | tag slashes content rest hcontent ih =>
    rw [escapedFrom_tag hcontent]
    exact hbegins _ (Nat.succ_pos _) _
  | plain slashes c rest hslash hopens ih =>
    rw [escapedFrom_plain hslash hopens]
    exact hbegins slashes h _

/-- What begins no tag begins none once it is escaped. -/
theorem tag?_escapedFrom (h : tag? chars = none) (more : Nat) :
    tag? (escapedFrom 0 chars ++ List.replicate more '\\') = none := by
  have hslash (rest : List Char) : tag? ('\\' :: rest) = none := tag?_eq_none_cons (by decide)
  generalize hcount : 0 = slashes
  induction slashes, chars using pieces_induction with
  | done slashes =>
    rw [escapedFrom_nil, List.replicate_append_replicate, ← hcount, Nat.zero_add]
    cases more with
    | zero => rfl
    | succ more => exact hslash _
  | slash slashes rest =>
    obtain ⟨later, hlater⟩ := escapedFrom_begins (Nat.succ_pos slashes) rest
    rw [escapedFrom_slash, hlater]
    exact hslash _
  | tag slashes content rest hcontent =>
    rw [escapedFrom_tag hcontent]
    exact hslash _
  | plain slashes c rest hescapes hopens =>
    rw [escapedFrom_plain hescapes hopens, ← hcount, List.replicate_zero, List.nil_append,
      List.cons_append]
    cases hstarts : startsTag c with
    | false => exact tag?_eq_none_cons hstarts
    | true =>
      -- the closing bracket has been missing behind it, and still is
      rw [tag?, if_pos hstarts, Option.map_eq_none_iff] at h
      rw [tag?, if_pos hstarts, tagBody_escapedFrom h, Option.map_none]

/-- A piece that has been escaped: a tag gets an odd number of backslashes. -/
def Piece.escaped : Piece → Piece
  | .tag slashes content => .tag (2 * slashes + 1) content
  | .plain c => .plain c

/-- Backslashes that stand for themselves stay when the others are escaped. -/
theorem map_escaped_slashes (slashes : Nat) (pieces : List Piece) :
    (List.replicate slashes (Piece.plain '\\') ++ pieces).map Piece.escaped =
      List.replicate slashes (.plain '\\') ++ pieces.map Piece.escaped := by
  rw [List.map_append, List.map_replicate]
  rfl

/-- **Escaping.**  Read again, an escaped text has the same pieces, in which an odd number of
    backslashes stands before each tag.  This holds with any backslashes behind the text. -/
theorem pieces_escaped (slashes more : Nat) (chars : List Char) :
    pieces (escapedFrom slashes chars ++ List.replicate more '\\') =
      (piecesFrom slashes chars).map Piece.escaped ++ List.replicate more (.plain '\\') := by
  unfold pieces
  induction slashes, chars using pieces_induction with
  | done slashes =>
    have hall := piecesFrom_slashes 0 (slashes + more) []
    rw [List.append_nil, Nat.zero_add, piecesFrom_nil] at hall
    rw [escapedFrom_nil, List.replicate_append_replicate, hall, piecesFrom_nil, List.map_replicate,
      Piece.escaped, List.replicate_append_replicate]
  | slash slashes rest ih =>
    rw [escapedFrom_slash, ih, piecesFrom_slash]
  | tag slashes content rest hcontent ih =>
    rw [escapedFrom_tag hcontent, List.append_assoc, piecesFrom_slashes, Nat.zero_add,
      List.cons_append, List.append_assoc, List.cons_append, piecesFrom_tag hcontent, ih,
      piecesFrom_tag hcontent]
    rfl
  | plain slashes c rest hslash hopens ih =>
    -- a bracket that has begun no tag must not begin one now
    rw [escapedFrom_plain hslash hopens, List.append_assoc, piecesFrom_slashes, Nat.zero_add,
      List.cons_append, piecesFrom_plain hslash fun heq => tag?_escapedFrom (hopens heq) more, ih,
      piecesFrom_plain hslash hopens, map_escaped_slashes, List.append_assoc]
    rfl

/-! ### The end of a text -/

theorem replicate_succ_append (slashes : Nat) (rest : List Char) :
    List.replicate (slashes + 1) '\\' ++ rest = List.replicate slashes '\\' ++ '\\' :: rest := by
  rw [List.replicate_succ', List.append_assoc, List.singleton_append]

/-- The last character is a backslash and the one before it is none. -/
theorem endsInOneBackslash_iff :
    endsInOneBackslash chars = true ↔
      ∃ before, chars.reverse = '\\' :: before ∧ before.head? ≠ some '\\' := by
  unfold endsInOneBackslash
  split
  · rename_i before hreverse
    simp [hreverse]
  · rename_i before hmore hreverse
    simp only [hreverse, true_iff]
    refine ⟨before, rfl, fun hhead => ?_⟩
    obtain ⟨later, hlater⟩ := List.head?_eq_some_iff.mp hhead
    exact hmore later hlater
  · rename_i hone
    simp only [Bool.false_eq_true, false_iff]
    rintro ⟨before, hreverse, -⟩
    exact hone before hreverse

/-- Whether a text ends in one backslash is decided behind its last other character. -/
theorem endsInOneBackslash_append (h : c ≠ '\\') (before rest : List Char) :
    endsInOneBackslash (before ++ c :: rest) = endsInOneBackslash rest := by
  rw [Bool.eq_iff_iff, endsInOneBackslash_iff, endsInOneBackslash_iff, List.reverse_append,
    List.reverse_cons]
  -- only the last two characters count, and what lies behind them comes last
  cases rest.reverse with
  | nil => simp [h]
  | cons last later => cases later <;> simp [h, and_assoc]

/-- Escaping keeps the number of backslashes at the end. -/
theorem endsInOneBackslash_escapedFrom (slashes : Nat) (chars : List Char) :
    endsInOneBackslash (escapedFrom slashes chars) =
      endsInOneBackslash (List.replicate slashes '\\' ++ chars) := by
  induction slashes, chars using pieces_induction with
  | done slashes => rw [escapedFrom_nil, List.append_nil]
  | slash slashes rest ih => rw [escapedFrom_slash, ih, replicate_succ_append]
  | tag slashes content rest hcontent ih =>
    -- what counts is behind the closing bracket, before escaping and after it
    have hend := endsInOneBackslash_append (c := ']') (by decide)
    rw [escapedFrom_tag hcontent, ← List.cons_append, ← List.append_assoc, hend, ih,
      ← List.cons_append, ← List.append_assoc, hend]
    rfl
  | plain slashes c rest hslash hopens ih =>
    rw [escapedFrom_plain hslash hopens, endsInOneBackslash_append hslash, ih,
      endsInOneBackslash_append hslash]
    rfl

/-! ### Brackets outside of tags -/

/-- A backslash vanishes where an opening bracket comes next. -/
theorem unescapeBrackets_cons :
    unescapeBrackets (c :: rest) =
      if c = '\\' ∧ rest.head? = some '[' then unescapeBrackets rest
      else c :: unescapeBrackets rest := by
  split
  · rename_i h
    obtain ⟨rfl, hhead⟩ := h
    obtain ⟨later, rfl⟩ := List.head?_eq_some_iff.mp hhead
    rw [unescapeBrackets, unescapeBrackets]
    exact fun _ hslash => absurd hslash (by decide)
  · rename_i h
    rw [unescapeBrackets]
    rintro later rfl rfl
    exact h ⟨rfl, rfl⟩

theorem unescapeBrackets_of_ne (h : c ≠ '\\') :
    unescapeBrackets (c :: rest) = c :: unescapeBrackets rest := by
  rw [unescapeBrackets_cons, if_neg fun hbracket => h hbracket.1]

/-- Where there is no bracket there is nothing to be dropped. -/
theorem unescapeBrackets_of_not_mem (h : '[' ∉ chars) : unescapeBrackets chars = chars := by
  induction chars with
  | nil => rfl
  | cons c rest ih =>
    have hrest : '[' ∉ rest := fun hmem => h (List.mem_cons_of_mem c hmem)
    rw [unescapeBrackets_cons, if_neg fun hhead => hrest (List.mem_of_head? hhead.2), ih hrest]

/-- Text is unescaped piece by piece, as long as no piece ends in a backslash. -/
theorem unescapeBrackets_append (h : plain.head? ≠ some '\\') (chars : List Char) :
    unescapeBrackets (plain.reverse ++ chars) =
      unescapeBrackets plain.reverse ++ unescapeBrackets chars := by
  cases plain with
  | nil => rfl
  | cons c before =>
    have hc : c ≠ '\\' := fun heq => h (by rw [heq, List.head?_cons])
    rw [List.reverse_cons, List.append_assoc, List.singleton_append]
    induction before.reverse with
    | nil =>
      rw [List.nil_append, List.nil_append, unescapeBrackets_of_ne hc, unescapeBrackets_of_ne hc]
      rfl
    | cons first later ih =>
      -- whether a bracket follows is decided before the end of the first part, which is no
      -- backslash
      have hhead : (later ++ c :: chars).head? = (later ++ [c]).head? := by cases later <;> rfl
      rw [List.cons_append, List.cons_append, unescapeBrackets_cons, unescapeBrackets_cons, hhead,
        ih]
      split <;> rfl

/-- Where no tag begins, the stray backslashes are those that get lost outside of tags. -/
theorem dropStrays_slashes (hslash : c ≠ '\\') (hopens : c = '[' → tag? rest = none)
    (slashes : Nat) :
    dropStrays (List.replicate slashes '\\' ++ c :: rest) =
      unescapeBrackets (List.replicate slashes '\\' ++ [c]) ++ dropStrays rest := by
  induction slashes with
  | zero =>
    rw [List.replicate_zero, List.nil_append, List.nil_append, dropStrays_of_ne hslash,
      unescapeBrackets_of_ne hslash]
    rfl
  | succ slashes ih =>
    -- of several backslashes only the last one stands before a bracket
    have hbracket : startsBracket (List.replicate slashes '\\' ++ c :: rest) = true ↔
        (List.replicate slashes '\\' ++ [c]).head? = some '[' := by
      rw [startsBracket_iff]
      cases slashes with
      | zero =>
        constructor
        · rintro ⟨later, heq, -⟩
          exact congrArg some (List.cons.inj heq).1
        · intro hhead
          obtain rfl := Option.some.inj hhead
          exact ⟨rest, rfl, hopens rfl⟩
      | succ slashes => simp [List.replicate_succ]
    rw [List.replicate_succ, List.cons_append, List.cons_append, dropStrays, unescapeBrackets_cons,
      ih]
    simp only [hbracket]
    split <;> rfl

/-- Backslashes before a tag are all kept. -/
theorem dropStrays_slashes_tag (h : IsTag content) (slashes : Nat) (rest : List Char) :
    dropStrays (List.replicate slashes '\\' ++ '[' :: (content ++ ']' :: rest)) =
      List.replicate slashes '\\' ++ '[' :: (content ++ ']' :: dropStrays rest) := by
  induction slashes with
  | zero => rw [List.replicate_zero, List.nil_append, dropStrays_of_ne (by decide),
      h.dropStrays_append, List.nil_append]
  | succ slashes ih =>
    have hbracket :
        startsBracket (List.replicate slashes '\\' ++ '[' :: (content ++ ']' :: rest)) = false := by
      cases slashes with
      | zero => exact congrArg Option.isNone (h.tag?_append rest)
      | succ slashes => rfl
    rw [List.replicate_succ, List.cons_append, dropStrays, if_neg (by simp [hbracket]), ih,
      List.cons_append]

/-! ### Escaped text as it is shown -/

/-- Characters are collected up to the next tag. -/
theorem renderPieces_plain (plain chars : List Char) (pieces : List Piece) :
    renderPieces plain (chars.map .plain ++ pieces) =
      renderPieces (chars.reverse ++ plain) pieces := by
  induction chars generalizing plain with
  | nil => rfl
  | cons c rest ih =>
    rw [List.map_cons, List.cons_append, renderPieces, ih, List.reverse_cons, List.append_assoc,
      List.singleton_append]

/-- With an odd number of backslashes a tag is shown, behind half of them. -/
theorem renderTag_odd (slashes : Nat) (content : List Char) :
    renderTag (2 * slashes + 1) content =
      List.replicate slashes '\\' ++ '[' :: (content ++ [']']) := by
  have hhalf : (2 * slashes + 1) / 2 = slashes := by omega
  rw [renderTag, hhalf, if_pos (by omega), List.cons_append]

/-- **Rendering** undoes escaping, but for the stray backslashes.  The text before has been read up
    to a character that is no backslash. -/
theorem renderPieces_escaped (h : plain.head? ≠ some '\\') (slashes more : Nat)
    (chars : List Char) :
    renderPieces plain
        ((piecesFrom slashes chars).map Piece.escaped ++ List.replicate more (.plain '\\')) =
      unescapeBrackets plain.reverse ++ dropStrays (List.replicate slashes '\\' ++ chars) ++
        List.replicate more '\\' := by
  induction slashes, chars using pieces_induction generalizing plain with
  | done slashes =>
    have hpieces : (List.replicate slashes (Piece.plain '\\')).map Piece.escaped ++
        List.replicate more (.plain '\\') =
          (List.replicate slashes '\\' ++ List.replicate more '\\').map .plain ++ [] := by
      simp [Piece.escaped]
    have hstrays : ¬HasStray (List.replicate slashes '\\') := by
      rintro ⟨before, rest, heq, -⟩
      have hmem : '[' ∈ List.replicate slashes '\\' := by simp [heq]
      exact absurd (List.eq_of_mem_replicate hmem) (by decide)
    have hslashes : '[' ∉ List.replicate slashes '\\' ++ List.replicate more '\\' := by simp
    rw [piecesFrom_nil, hpieces, renderPieces_plain, renderPieces, List.append_nil,
      dropStrays_of_not_hasStray hstrays, List.reverse_append, List.reverse_reverse,
      unescapeBrackets_append h, unescapeBrackets_of_not_mem hslashes, List.append_assoc]
  | slash slashes rest ih =>
    rw [piecesFrom_slash, ih h, replicate_succ_append]
  | tag slashes content rest hcontent ih =>
    rw [piecesFrom_tag hcontent, List.map_cons, Piece.escaped, List.cons_append, renderPieces,
      ih (by simp), dropStrays_slashes_tag hcontent, renderTag_odd]
    simp [unescapeBrackets]
  | plain slashes c rest hslash hopens ih =>
    -- the run of backslashes and the character behind it are plain text
    have hpieces : List.replicate slashes (Piece.plain '\\') ++
        (.plain c :: piecesFrom 0 rest).map Piece.escaped =
          (List.replicate slashes '\\' ++ [c]).map .plain ++
            (piecesFrom 0 rest).map Piece.escaped := by
      simp [Piece.escaped]
    have hrun : ((List.replicate slashes '\\' ++ [c]).reverse ++ plain).head? ≠ some '\\' := by
      simp [hslash]
    rw [piecesFrom_plain hslash hopens, map_escaped_slashes, hpieces, List.append_assoc,
      renderPieces_plain, ih hrun, List.reverse_append, List.reverse_reverse,
      unescapeBrackets_append h, dropStrays_slashes hslash hopens]
    simp only [List.replicate_zero, List.nil_append, List.append_assoc]

/-- What is put behind a text that is to be shown: a backslash if there is just one at its end. -/
def addedSlash (chars : List Char) : List Char :=
  if endsInOneBackslash chars then ['\\'] else []

/-- **What is shown** of a text: all of it without the stray backslashes, with one more backslash
    if there is just one at its end, and without the characters that a console drops. -/
theorem shown_eq (text : String) :
    shown text =
      (dropStrays text.toList ++ addedSlash text.toList).filter fun c => !isDropped c := by
  obtain ⟨more, hmore⟩ : ∃ more, addedSlash text.toList = List.replicate more '\\' := by
    unfold addedSlash
    split
    · exact ⟨1, rfl⟩
    · exact ⟨0, rfl⟩
  -- the backslash at the end is doubled whether or not a tag follows
  have hescape : escape text.toList = escapedFrom 0 text.toList ++ List.replicate more '\\' := by
    rw [← hmore, addedSlash, escape]
    change (if endsInOneBackslash (escapedFrom 0 text.toList) = true then _ else _) = _
    rw [endsInOneBackslash_escapedFrom, List.replicate_zero, List.nil_append]
    split
    · rfl
    · exact (List.append_nil _).symm
  have hstart : ([] : List Char).head? ≠ some '\\' := by simp
  have hrender := renderPieces_escaped hstart 0 more text.toList
  rw [shown, render, hescape, pieces_escaped, hrender, ← hmore]
  rfl

/-- Only control characters are not shown. -/
theorem isDropped_of_printing (h : Printing c) : isDropped c = false := by
  unfold isDropped
  simp only [Bool.or_eq_false_iff, decide_eq_false_iff_not]
  exact ⟨⟨⟨⟨h.ne (by decide), h.ne (by decide)⟩, h.ne (by decide)⟩, h.ne (by decide)⟩,
    h.ne (by decide)⟩

variable {text : String}

/-- What is shown of a printing text is printing, so that nothing of it is dropped. -/
theorem printing_kept (h : ∀ c ∈ text.toList, Printing c) :
    ∀ c ∈ dropStrays text.toList ++ addedSlash text.toList, Printing c := by
  intro c hc
  rcases List.mem_append.mp hc with hkept | hadded
  · exact h c ((dropStrays_sublist text.toList).subset hkept)
  · unfold addedSlash at hadded
    split at hadded
    · rw [List.mem_singleton.mp hadded]
      decide
    · cases hadded

/-- All characters of a printing text are shown, but for the stray backslashes. -/
theorem shown_of_printing (h : ∀ c ∈ text.toList, Printing c) :
    shown text = dropStrays text.toList ++ addedSlash text.toList := by
  rw [shown_eq, List.filter_eq_self]
  intro c hc
  rw [isDropped_of_printing (printing_kept h c hc), Bool.not_false]

/-- A printing text is shown by printing characters. -/
theorem printing_shown (h : ∀ c ∈ text.toList, Printing c) : ∀ c ∈ shown text, Printing c := by
  rw [shown_of_printing h]
  exact printing_kept h

/-- **Texts that are shown as they are.**  A printing text is, unless a stray backslash in it gets
    lost or the single one at its end is doubled. -/
theorem shown_eq_self_iff (h : ∀ c ∈ text.toList, Printing c) :
    shown text = text.toList ↔
      ¬HasStray text.toList ∧ endsInOneBackslash text.toList = false := by
  rw [shown_of_printing h]
  constructor
  · intro hself
    -- a text that is shown as it is begins with all that is kept of it
    have hstray : ¬HasStray text.toList := not_hasStray_of_prefix ⟨_, hself⟩
    refine ⟨hstray, ?_⟩
    rw [dropStrays_of_not_hasStray hstray, List.append_right_eq_self, addedSlash] at hself
    rw [← Bool.not_eq_true]
    intro hends
    rw [if_pos hends] at hself
    cases hself
  · rintro ⟨hstray, hends⟩
    rw [dropStrays_of_not_hasStray hstray, addedSlash, hends, if_neg (by decide), List.append_nil]

end ElfInspect.Markup
