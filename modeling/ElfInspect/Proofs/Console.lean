import ElfInspect.Console
import ElfInspect.Proofs.Text.Escaping

namespace ElfInspect

/-!
# Texts on the console

Titles, messages and the cells of tables are shown as `Markup.shown` has them, character for
character, wherever the console is wide enough.

* `headingLine_of_fits`, `textLines_of_fits` — titles and messages that have room;
* `Table.widths_of_fits` — a table that has room is as wide as its cells need;
* `Table.ShowsCell`, `Table.fieldsOf_showsCell` — a cell among the lines of its row;
* `Table.Fits`, `ConsoleCall.lines_table_of_fits` — tables on consoles that have room for them;
* `ConsoleCall.texts_shown` — what the console shows of a printing text without colons, and which
  texts it shows as they are.

Codes between colons, which stand for emoji, are not part of this console: what it shows of a text
with such a code is the code.
-/

variable {α : Type} {width : Nat}

/-! ### Titles and messages -/

/-- Blanks take one column each. -/
theorem oneColumn_blanks (count : Nat) : ∀ c ∈ blanks count, OneColumn c := by
  intro c hc
  rw [List.eq_of_mem_replicate hc]
  decide

theorem oneColumn_append {before after : List Char} (hbefore : ∀ c ∈ before, OneColumn c)
    (hafter : ∀ c ∈ after, OneColumn c) : ∀ c ∈ before ++ after, OneColumn c :=
  List.forall_mem_append.mpr ⟨hbefore, hafter⟩

/-- A title that has room is not cut. -/
theorem headingTitle_of_fits {most : Nat} {title : List Char} (h : ∀ c ∈ title, OneColumn c)
    (hfits : title.length + 4 ≤ most) :
    headingTitle most title = blanks 2 ++ title ++ blanks 2 := by
  have hpadded : ∀ c ∈ blanks 2 ++ title ++ blanks 2, OneColumn c :=
    oneColumn_append (oneColumn_append (oneColumn_blanks 2) h) (oneColumn_blanks 2)
  have hlength : (blanks 2 ++ title ++ blanks 2).length = title.length + 4 := by
    simp [blanks]
  -- there is nothing to be replaced, cut or moved to a tab stop
  have hline : (blanks 2 ++ title ++ blanks 2).map (fun c => if c = '\n' then ' ' else c) =
      blanks 2 ++ title ++ blanks 2 := by
    refine (List.map_congr_left fun c hc => if_neg ?_).trans (List.map_id' _)
    rintro rfl
    exact absurd (hpadded _ hc).ends_not (by decide)
  unfold headingTitle
  dsimp only
  rw [hline, expandTabs_of_oneColumn hpadded, truncateLine_of_fits hpadded (by omega)]

/-- A title that has room stands in the middle of its line, with three blanks on each side. -/
theorem headingLine_of_fits {title : List Char} (h : ∀ c ∈ title, OneColumn c)
    (hfits : title.length + 8 ≤ width) :
    ∃ before after, 0 < before ∧ 0 < after ∧
      headingLine width title =
        List.replicate before '─' ++ blanks 3 ++ title ++ blanks 3 ++ List.replicate after '─' := by
  have hpadded : ∀ c ∈ blanks 2 ++ title ++ blanks 2, OneColumn c :=
    oneColumn_append (oneColumn_append (oneColumn_blanks 2) h) (oneColumn_blanks 2)
  have hcolumns : textColumns (blanks 2 ++ title ++ blanks 2) = title.length + 4 := by
    rw [textColumns_of_oneColumn hpadded]
    simp [blanks]
  have hbars (count : Nat) : ∀ c ∈ List.replicate count '─', OneColumn c := by
    intro c hc
    rw [List.eq_of_mem_replicate hc]
    decide +kernel
  unfold headingLine
  rw [if_neg (by omega), headingTitle_of_fits h (by omega)]
  dsimp only
  rw [hcolumns]
  -- the bars share what the title leaves, the one behind it getting the odd column
  generalize hside : (width - (title.length + 4)) / 2 = side
  have hbefore : List.replicate (side - 1) '─' ++ ' ' :: (blanks 2 ++ title ++ blanks 2) ++ [' '] =
      List.replicate (side - 1) '─' ++ blanks 3 ++ title ++ blanks 3 := by
    simp [blanks, List.replicate]
  have hlength : textColumns (List.replicate (side - 1) '─' ++ blanks 3 ++ title ++ blanks 3) =
      side - 1 + title.length + 6 := by
    rw [textColumns_of_oneColumn (oneColumn_append (oneColumn_append
      (oneColumn_append (hbars _) (oneColumn_blanks 3)) h) (oneColumn_blanks 3))]
    simp [blanks]
    omega
  rw [hbefore, hlength]
  exact ⟨side - 1, width - (side - 1 + title.length + 6), by omega, by omega, rfl⟩

/-- A text that has room is one line. -/
theorem textLines_of_fits {text : List Char} (h : ∀ c ∈ text, OneColumn c)
    (hfits : text.length ≤ width) : textLines width text = [text] := by
  rw [textLines, wrap_of_fits h hfits, List.map_singleton, truncateLine_of_fits h hfits]

/-- A property of all characters of a text that has been tested. -/
theorem forall_of_all {p : Char → Prop} [DecidablePred p] {chars : List Char}
    (h : chars.all (p ·) = true) : ∀ c ∈ chars, p c :=
  fun c hc => of_decide_eq_true (List.all_eq_true.mp h c hc)

/-- The labels of messages take one column for each character. -/
theorem oneColumn_label (kind : MessageKind) : ∀ c ∈ kind.label.toList, OneColumn c := by
  refine forall_of_all ?_
  cases kind <;> decide +kernel

/-! ### Widths of tables -/

/-- A total that grows with each item is at least what it starts from, and at least as large as each
    item. -/
theorem le_foldl {size : α → Nat} {total : Nat → α → Nat} (hkeeps : ∀ n item, n ≤ total n item)
    (htakes : ∀ n item, size item ≤ total n item) (items : List α) (init : Nat) :
    init ≤ items.foldl total init ∧ ∀ item ∈ items, size item ≤ items.foldl total init := by
  induction items generalizing init with
  | nil => exact ⟨Nat.le_refl init, fun item hitem => absurd hitem List.not_mem_nil⟩
  | cons first rest ih =>
    obtain ⟨hinit, hrest⟩ := ih (total init first)
    refine ⟨Nat.le_trans (hkeeps init first) hinit, List.forall_mem_cons.mpr ⟨?_, hrest⟩⟩
    exact Nat.le_trans (htakes init first) hinit

/-- The greatest size is no less than any, nor than the one to begin with. -/
theorem le_foldl_max (size : α → Nat) (items : List α) (init : Nat) :
    init ≤ items.foldl (fun most item => max most (size item)) init ∧
      ∀ item ∈ items, size item ≤ items.foldl (fun most item => max most (size item)) init :=
  le_foldl (fun _ _ => Nat.le_max_left _ _) (fun _ _ => Nat.le_max_right _ _) items init

/-- The sum of some widths is no less than any of them. -/
theorem le_foldl_add (items : List Nat) (init : Nat) :
    ∀ item ∈ items, item ≤ items.foldl (· + ·) init :=
  (le_foldl Nat.le_add_right (fun n item => Nat.le_add_left item n) items init).2

namespace Table

variable {t : Table} {row : List String} {column : Nat}

/-- A table has as many columns as its longest row. -/
theorem length_le_columnCount (h : row ∈ t.rows) : row.length ≤ t.columnCount :=
  (le_foldl_max List.length t.rows t.columns.length).2 row h

/-- A row is filled up to all columns. -/
theorem le_length_padRow (count : Nat) (cells : List (List Char)) :
    count ≤ (padRow count cells).length := by
  rw [padRow, List.length_append, List.length_replicate]
  omega

/-- What a row shows in a column. -/
theorem getElem?_padRow {text : String} (h : row[column]? = some text) (count : Nat) :
    (padRow count (row.map Markup.shown))[column]? = some (Markup.shown text) := by
  have hmap : (row.map Markup.shown)[column]? = some (Markup.shown text) := by
    rw [List.getElem?_map, h, Option.map_some]
  obtain ⟨hlt, -⟩ := List.getElem?_eq_some_iff.mp hmap
  rw [padRow, List.getElem?_append_left hlt, hmap]

/-- A column of widths that are widened row by row. -/
theorem getElem?_foldl_widen {rows : List (List (List Char))} {widths : List Nat} {least : Nat}
    (hwidth : widths[column]? = some least) (hrows : ∀ row ∈ rows, column < row.length) :
    ∃ content, (rows.foldl (fun widths row => List.zipWith max widths (row.map measure))
        widths)[column]? = some content ∧ least ≤ content ∧
      ∀ row ∈ rows, ∀ chars, row[column]? = some chars → measure chars ≤ content := by
  induction rows generalizing widths least with
  | nil => exact ⟨least, hwidth, Nat.le_refl least, fun row hrow => absurd hrow List.not_mem_nil⟩
  | cons row rest ih =>
    obtain ⟨hrow, hrest⟩ := List.forall_mem_cons.mp hrows
    have hcell := List.getElem?_eq_getElem hrow
    have hwiden : (List.zipWith max widths (row.map measure))[column]? =
        some (max least (measure row[column])) := by
      rw [List.getElem?_zipWith, hwidth, List.getElem?_map, hcell, Option.map_some]
    -- the first row widens the column, and the others can only widen it further
    obtain ⟨content, hcontent, hleast, hall⟩ := ih hwiden hrest
    refine ⟨content, hcontent, by omega, List.forall_mem_cons.mpr ⟨?_, hall⟩⟩
    intro chars hchars
    obtain rfl := Option.some.inj (hcell.symm.trans hchars)
    omega

/-- **The width of a column** is that of its header and of its widest cell at least. -/
theorem getElem?_contents (h : column < t.columnCount) :
    ∃ content, t.contents[column]? = some content ∧
      (∀ chars, t.shownHeader[column]? = some chars → measure chars ≤ content) ∧
      ∀ row ∈ t.shownRows, ∀ chars, row[column]? = some chars → measure chars ≤ content := by
  have hheader : column < t.shownHeader.length := Nat.lt_of_lt_of_le h (le_length_padRow _ _)
  have hfirst := List.getElem?_eq_getElem hheader
  have hwidth : (t.shownHeader.map measure)[column]? =
      some (measure t.shownHeader[column]) := by
    rw [List.getElem?_map, hfirst, Option.map_some]
  have hrows : ∀ row ∈ t.shownRows, column < row.length := by
    intro row hrow
    obtain ⟨cells, -, rfl⟩ := List.mem_map.mp hrow
    exact Nat.lt_of_lt_of_le h (le_length_padRow _ _)
  -- the column is as wide as its title, and is widened by the rows
  obtain ⟨content, hcontent, hleast, hall⟩ := getElem?_foldl_widen hwidth hrows
  refine ⟨content, hcontent, fun chars hchars => ?_, hall⟩
  rwa [← Option.some.inj (hfirst.symm.trans hchars)]

/-- The width that each column takes where there is room. -/
def naturalWidths (t : Table) : List Nat :=
  t.contents.map (· + padding)

/-- A table that has room is as wide as its cells need. -/
theorem widths_of_fits (h : t.naturalWidths.foldl (· + ·) 0 ≤ t.room width) :
    t.widths width = t.naturalWidths := by
  have hnatural : t.contents.map (columnWidth (t.room width)) = t.naturalWidths := by
    refine List.map_congr_left fun content hcontent => ?_
    have hmem : content + padding ∈ t.naturalWidths := List.mem_map_of_mem hcontent
    exact Nat.min_eq_right (Nat.le_trans (le_foldl_add _ 0 _ hmem) h)
  unfold widths
  dsimp only
  rw [hnatural, if_pos h]

/-! ### Rows of tables -/

/-- The lines of a row, each by the fields between its bars. -/
def rowFields (widths : List Nat) (atBottom : Bool) (row : List (List Char)) :
    List (List (List Char)) :=
  let cells := List.zipWith cellLines widths row
  let height := cells.foldl (fun n lines => max n lines.length) 1
  let filled := List.zipWith (fun width lines =>
    let missing := List.replicate (height - lines.length) (blanks width)
    if atBottom then missing ++ lines else lines ++ missing) widths cells
  (List.range height).map fun i => filled.map fun lines => lines.getD i []

/-- The lines of a row are those of its fields with bars between them. -/
theorem rowLines_eq (widths : List Nat) (bar : Char) (atBottom : Bool) (row : List (List Char)) :
    rowLines widths bar atBottom row = (rowFields widths atBottom row).map (rowLine bar) := by
  unfold rowLines rowFields
  rw [List.map_map]
  rfl

/-- The lines in which a table that has room shows a row, by their fields. -/
def fieldsOf (t : Table) (row : List String) : List (List (List Char)) :=
  rowFields t.naturalWidths false (padRow t.columnCount (row.map Markup.shown))

/-- The first line of a row shows a text in a column, one blank behind the bar and with blanks up to
    the next one.  Where the row has more lines, the column is blank in them. -/
def ShowsCell (lines : List (List (List Char))) (column : Nat) (text : List Char) : Prop :=
  ∃ first below fill, lines = first :: below ∧
    first[column]? = some (' ' :: text ++ blanks (fill + 1)) ∧
    ∀ fields ∈ below, fields[column]? = some (blanks (text.length + fill + 2))

/-- The same in a column that has a given number of characters between the blanks at its sides. -/
structure ShowsWithin (content : Nat) (lines : List (List (List Char))) (column : Nat)
    (text : List Char) : Prop where
  room : text.length ≤ content
  lines : ∃ first below, lines = first :: below ∧
    first[column]? = some (' ' :: text ++ blanks (content - text.length + 1)) ∧
    ∀ fields ∈ below, fields[column]? = some (blanks (content + padding))

/-- What is shown within a width is shown. -/
theorem ShowsWithin.showsCell {content : Nat} {lines : List (List (List Char))} {text : List Char}
    (h : ShowsWithin content lines column text) : ShowsCell lines column text := by
  obtain ⟨hroom, first, below, hlines, hfirst, hbelow⟩ := h
  refine ⟨first, below, content - text.length, hlines, hfirst, fun fields hfields => ?_⟩
  rw [hbelow fields hfields, Nat.add_sub_cancel' hroom, padding]

section
variable {content : Nat} {text : List Char} (h : ∀ c ∈ text, OneColumn c)
  (hfits : text.length ≤ content)
include h hfits

/-- A cell that has room is one line, filled up with blanks.  Only in a column without any room it
    has none. -/
theorem cellLines_of_fits :
    cellLines (content + padding) text = [] ∧ text = [] ∧ content = 0 ∨
      cellLines (content + padding) text = [' ' :: text ++ blanks (content - text.length + 1)] := by
  unfold cellLines
  dsimp only
  rw [Nat.add_sub_cancel]
  split
  · rename_i hnone
    exact .inl ⟨rfl, List.eq_nil_of_length_eq_zero (by omega), hnone⟩
  · rw [wrap_of_fits h hfits, List.map_singleton, alignLeft_of_fits h hfits]
    simp [blanks, List.replicate_succ']

/-- The lines of a cell that has room, up to the height of its row. -/
theorem cellLines_filled {height : Nat} (hheight : 0 < height) (atBottom : Bool) :
    let lines := cellLines (content + padding) text
    let missing := List.replicate (height - lines.length) (blanks (content + padding))
    let line := ' ' :: text ++ blanks (content - text.length + 1)
    let rest := List.replicate (height - 1) (blanks (content + padding))
    (if atBottom then missing ++ lines else lines ++ missing) =
      if atBottom then rest ++ [line] else line :: rest := by
  rcases cellLines_of_fits h hfits with ⟨hnone, rfl, rfl⟩ | hline
  · -- there is no text, and the whole column is blank
    obtain ⟨more, rfl⟩ := Nat.exists_eq_add_one_of_ne_zero (Nat.ne_of_gt hheight)
    rw [Nat.zero_add] at hnone ⊢
    rw [hnone]
    cases atBottom with
    | false => exact List.replicate_succ
    | true => exact (List.append_nil _).trans List.replicate_succ'
  · simp only [hline, List.length_singleton, List.singleton_append]

variable {widths : List Nat} {cells : List (List Char)}
  (hwidth : widths[column]? = some (content + padding)) (hcell : cells[column]? = some text)
include hwidth hcell

/-- The lines of a row are those of its cells side by side.  A cell that has room is in the first of
    them, or else in the last. -/
theorem exists_rowFields (atBottom : Bool) :
    ∃ (more : Nat) (filled : List (List (List Char))), rowFields widths atBottom cells =
        (List.range (more + 1)).map (fun i => filled.map (·.getD i [])) ∧
      filled[column]? = some
        (if atBottom then List.replicate more (blanks (content + padding)) ++
            [' ' :: text ++ blanks (content - text.length + 1)]
          else (' ' :: text ++ blanks (content - text.length + 1)) ::
            List.replicate more (blanks (content + padding))) := by
  unfold rowFields
  dsimp only
  obtain ⟨hheight, -⟩ := le_foldl_max List.length (List.zipWith cellLines widths cells) 1
  -- of the height it only matters that there is a line
  generalize (List.zipWith cellLines widths cells).foldl (fun n lines => max n lines.length) 1 =
    height at hheight
  have hlines : (List.zipWith cellLines widths cells)[column]? =
      some (cellLines (content + padding) text) := by
    rw [List.getElem?_zipWith, hwidth, hcell]
  obtain ⟨more, rfl⟩ := Nat.exists_eq_add_one_of_ne_zero (Nat.ne_of_gt hheight)
  refine ⟨more, _, rfl, ?_⟩
  rw [List.getElem?_zipWith, hwidth, hlines]
  exact congrArg some (cellLines_filled h hfits hheight atBottom)

/-- **A row** shows a text in each column that has room for it, whatever stands in the others. -/
theorem rowFields_showsWithin : ShowsWithin content (rowFields widths false cells) column text := by
  -- the cell takes the first line of the row, and is filled up with blanks below
  obtain ⟨more, filled, hfields, hcolumn⟩ := exists_rowFields h hfits hwidth hcell false
  rw [if_neg (by decide)] at hcolumn
  refine ⟨hfits, filled.map (·.getD 0 []),
    (List.range more).map fun i => filled.map (·.getD (i + 1) []), ?_, ?_, ?_⟩
  · rw [hfields, List.range_succ_eq_map, List.map_cons, List.map_map]
    rfl
  · rw [List.getElem?_map, hcolumn]
    rfl
  · intro fields hmem
    obtain ⟨i, hi, rfl⟩ := List.mem_map.mp hmem
    rw [List.getElem?_map, hcolumn, Option.map_some, List.getD_cons_succ,
      List.getD_eq_getElem?_getD, List.getElem?_replicate_of_lt (List.mem_range.mp hi),
      Option.getD_some]

/-- A row whose shorter cells stand at the bottom shows the text in its last line. -/
theorem rowFields_showsLast :
    ∃ above last, rowFields widths true cells = above ++ [last] ∧
      last[column]? = some (' ' :: text ++ blanks (content - text.length + 1)) := by
  obtain ⟨more, filled, hfields, hcolumn⟩ := exists_rowFields h hfits hwidth hcell true
  rw [if_pos rfl] at hcolumn
  refine ⟨(List.range more).map fun i => filled.map (·.getD i []), filled.map (·.getD more []),
    ?_, ?_⟩
  · rw [hfields, List.range_succ, List.map_append]
    rfl
  · rw [List.getElem?_map, hcolumn]
    simp

end

/-- The fields of a row in a table that has room show the text of each cell. -/
theorem fieldsOf_showsWithin {text : String} {content : Nat} (hrow : row ∈ t.rows)
    (hcontent : t.contents[column]? = some content)
    (hall : ∀ row ∈ t.shownRows, ∀ chars, row[column]? = some chars → measure chars ≤ content)
    (hcell : row[column]? = some text) (h : ∀ c ∈ Markup.shown text, OneColumn c) :
    ShowsWithin content (t.fieldsOf row) column (Markup.shown text) := by
  have hshown := getElem?_padRow hcell t.columnCount
  have hfits := hall _ (List.mem_map_of_mem hrow) _ hshown
  rw [measure_of_oneColumn h] at hfits
  refine rowFields_showsWithin h hfits ?_ hshown
  rw [naturalWidths, List.getElem?_map, hcontent, Option.map_some]

/-- The first line of a row in a table that has room shows the text of each cell. -/
theorem fieldsOf_showsCell {text : String} (hrow : row ∈ t.rows) (hcell : row[column]? = some text)
    (h : ∀ c ∈ Markup.shown text, OneColumn c) :
    ShowsCell (t.fieldsOf row) column (Markup.shown text) := by
  have hcolumn : column < t.columnCount :=
    Nat.lt_of_lt_of_le (List.getElem?_eq_some_iff.mp hcell).1 (length_le_columnCount hrow)
  obtain ⟨content, hcontent, -, hall⟩ := getElem?_contents hcolumn
  exact (fieldsOf_showsWithin hrow hcontent hall hcell h).showsCell

/-- The lines in which a table that has room shows its headers, by their fields. -/
def headerFields (t : Table) : List (List (List Char)) :=
  rowFields t.naturalWidths true t.shownHeader

/-- The last line of the headers of a table that has room shows the title of each column. -/
theorem headerFields_showsLast {title : String} {content : Nat}
    (hcontent : t.contents[column]? = some content)
    (hwide : ∀ chars, t.shownHeader[column]? = some chars → measure chars ≤ content)
    (htitle : t.columns[column]? = some title)
    (hrender : Markup.render title.toList = title.toList) (h : ∀ c ∈ title.toList, OneColumn c) :
    ∃ above last, t.headerFields = above ++ [last] ∧
      last[column]? = some (' ' :: title.toList ++ blanks (content - title.length + 1)) := by
  have hmap : (t.columns.map fun c => Markup.render c.toList)[column]? = some title.toList := by
    rw [List.getElem?_map, htitle, Option.map_some, hrender]
  have hshown : t.shownHeader[column]? = some title.toList := by
    obtain ⟨hlt, -⟩ := List.getElem?_eq_some_iff.mp hmap
    rw [shownHeader, padRow, List.getElem?_append_left hlt, hmap]
  have hfits := hwide _ hshown
  rw [measure_of_oneColumn h] at hfits
  have hwidth : t.naturalWidths[column]? = some (content + padding) := by
    rw [naturalWidths, List.getElem?_map, hcontent, Option.map_some]
  rw [← String.length_toList]
  exact rowFields_showsLast h hfits hwidth hshown

/-- The width of a table that has room, bars included. -/
def naturalTotal (t : Table) : Nat :=
  t.naturalWidths.foldl (· + ·) t.columnCount + 1

/-- What a table that has room shows above its rows: title and headers. -/
def linesAbove (t : Table) : List (List Char) :=
  noteLines t.naturalTotal t.title ++
    ruleLine t.naturalWidths '┏' '━' '┳' '┓' :: rowLines t.naturalWidths '┃' true t.shownHeader ++
    [ruleLine t.naturalWidths '┡' '━' '╇' '┩']

/-- What a table that has room shows below its rows: the caption. -/
def linesBelow (t : Table) : List (List Char) :=
  ruleLine t.naturalWidths '└' '─' '┴' '┘' :: noteLines t.naturalTotal (t.caption.getD "")

/-- All lines of a table that has room. -/
def naturalLines (t : Table) : List (List Char) :=
  t.linesAbove ++ t.rows.flatMap (fun row => (t.fieldsOf row).map (rowLine '│')) ++ t.linesBelow

/-- Above the rows there are the title and the header between its rules. -/
theorem linesAbove_eq (t : Table) :
    t.linesAbove = noteLines t.naturalTotal t.title ++
      ruleLine t.naturalWidths '┏' '━' '┳' '┓' :: t.headerFields.map (rowLine '┃') ++
      [ruleLine t.naturalWidths '┡' '━' '╇' '┩'] := by
  rw [linesAbove, rowLines_eq, headerFields]

/-- A table that has room keeps its natural widths. -/
theorem lines_of_fits (h : t.columnCount ≠ 0)
    (hfits : t.naturalWidths.foldl (· + ·) 0 ≤ t.room width) :
    t.lines width = t.naturalLines := by
  have hrows : t.shownRows.flatMap (rowLines t.naturalWidths '│' false) =
      t.rows.flatMap fun row => (t.fieldsOf row).map (rowLine '│') := by
    rw [shownRows, List.flatMap_map]
    simp only [rowLines_eq, fieldsOf]
  unfold lines
  dsimp only
  rw [if_neg h, widths_of_fits hfits, hrows]
  simp [naturalLines, linesAbove, linesBelow, naturalTotal]

/-! ### Consoles that are wide enough -/

/-- A console of a width has room for all of a table: for its columns, and for each of its lines. -/
structure Fits (t : Table) (width : Nat) : Prop where
  total : t.naturalTotal ≤ width
  lines : ∀ line ∈ t.naturalLines, textColumns line ≤ width

instance (t : Table) (width : Nat) : Decidable (t.Fits width) :=
  decidable_of_iff (t.naturalTotal ≤ width ∧ ∀ line ∈ t.naturalLines, textColumns line ≤ width)
    ⟨fun h => ⟨h.1, h.2⟩, fun h => ⟨h.total, h.lines⟩⟩

/-- From some width on a console has room for a table. -/
theorem exists_fits (t : Table) : ∃ enough, ∀ width ≥ enough, t.Fits width := by
  let longest := t.naturalLines.foldl (fun most line => max most (textColumns line)) 0
  refine ⟨t.naturalTotal + longest, fun width hwidth => ⟨by omega, fun line hline => ?_⟩⟩
  have hlongest := (le_foldl_max textColumns t.naturalLines 0).2 line hline
  omega

theorem foldl_add_eq (items : List Nat) (init : Nat) :
    items.foldl (· + ·) init = init + items.foldl (· + ·) 0 := by
  induction items generalizing init with
  | nil => rfl
  | cons first rest ih => rw [List.foldl_cons, List.foldl_cons, ih, ih (0 + first)]; omega

end Table

/-! ### Calls -/

/-- The text consists of printing characters, and it has no colon, so that no code for an emoji
    stands in it. -/
structure Legible (text : String) : Prop where
  printing : ∀ c ∈ text.toList, Printing c
  noColon : ':' ∉ text.toList

namespace ConsoleCall

/-- **A table** is shown in full on a console that has room for it. -/
theorem lines_table_of_fits {t : Table} (h : t.columnCount ≠ 0) (hfits : t.Fits width) :
    (table t).lines width = t.naturalLines := by
  have hroom : t.naturalWidths.foldl (· + ·) 0 ≤ t.room width := by
    have htotal := hfits.total
    rw [Table.naturalTotal, Table.foldl_add_eq] at htotal
    unfold Table.room
    omega
  rw [lines, t.lines_of_fits h hroom]
  exact (List.map_congr_left fun line hline => if_pos (hfits.lines line hline)).trans
    (List.map_id' _)

/-- From some width on a console shows a table in full. -/
theorem lines_table {t : Table} (h : t.columnCount ≠ 0) :
    ∃ enough, ∀ width ≥ enough, (table t).lines width = t.naturalLines := by
  obtain ⟨enough, hfits⟩ := t.exists_fits
  exact ⟨enough, fun width hwidth => lines_table_of_fits h (hfits width hwidth)⟩

/-- A message takes one line if there is room for it and its label. -/
theorem lines_message {text : String} (h : ∀ c ∈ Markup.shown text, OneColumn c)
    {kind : MessageKind} (hfits : kind.label.length + (Markup.shown text).length ≤ width) :
    (message kind text).lines width = [kind.label.toList ++ Markup.shown text] := by
  refine textLines_of_fits (oneColumn_append (oneColumn_label kind) h) ?_
  rwa [List.length_append, String.length_toList]

/-- **Texts on the console.**  Of a legible text the console shows all characters in their order,
    but for a backslash directly before an opening bracket that begins no tag, which gets lost, and
    with a second backslash at the end where there is a single one.  A text is therefore shown as it
    is, tags in it and all, just if neither occurs.

    This is what stands behind the label of a message and in the middle of a title, if the console
    is as wide as that takes.  It is also what stands in a cell of a table, whatever other cells
    hold, codes between colons apart: the first line of its row shows the text between blanks, with
    nothing below it, and from some width on these are the lines on the console. -/
theorem texts_shown {text : String} (h : Legible text) :
    let shown := Markup.shown text
    shown = Markup.dropStrays text.toList ++ Markup.addedSlash text.toList ∧
    (shown = text.toList ↔
      ¬Markup.HasStray text.toList ∧ Markup.endsInOneBackslash text.toList = false) ∧
    (∀ kind width, kind.label.length + shown.length ≤ width →
      (message kind text).lines width = [kind.label.toList ++ shown]) ∧
    (∀ width, shown.length + 8 ≤ width → ∃ before after, 0 < before ∧ 0 < after ∧
      (heading text).lines width = [List.replicate before '─' ++ blanks 3 ++ shown ++ blanks 3 ++
        List.replicate after '─', []]) ∧
    ∀ (t : Table) (row : List String) (column : Nat), row ∈ t.rows → row[column]? = some text →
      Table.ShowsCell (t.fieldsOf row) column shown ∧
      ∃ enough, ∀ width ≥ enough, (table t).lines width =
        t.linesAbove ++ t.rows.flatMap (fun row => (t.fieldsOf row).map (Table.rowLine '│')) ++
          t.linesBelow := by
  have hcolumns : ∀ c ∈ Markup.shown text, OneColumn c :=
    fun c hc => (Markup.printing_shown h.printing c hc).oneColumn
  refine ⟨Markup.shown_of_printing h.printing, Markup.shown_eq_self_iff h.printing, ?_, ?_, ?_⟩
  · intro kind width hfits
    exact lines_message hcolumns hfits
  · intro width hfits
    obtain ⟨before, after, hbefore, hafter, hline⟩ := headingLine_of_fits hcolumns hfits
    exact ⟨before, after, hbefore, hafter, congrArg (fun line => [line, []]) hline⟩
  · intro t row column hrow hcell
    -- a table with a cell has a column
    have hcount : t.columnCount ≠ 0 := by
      have hlength := Table.length_le_columnCount hrow
      obtain ⟨hlt, -⟩ := List.getElem?_eq_some_iff.mp hcell
      omega
    exact ⟨Table.fieldsOf_showsCell hrow hcell hcolumns, lines_table hcount⟩

/-- Tags are shown as they stand. -/
theorem texts_shown_tags :
    Markup.shown "[bold]odd[/bold]" = "[bold]odd[/bold]".toList ∧
      (message .info "[bold]odd[/bold]").lines 40 = ["[ℹ] INFO: [bold]odd[/bold]".toList] := by
  have hlegible : Legible "[bold]odd[/bold]" :=
    ⟨forall_of_all (by decide +kernel), by decide +kernel⟩
  obtain ⟨hshown, -, hmessage, -⟩ := texts_shown hlegible
  have hself : Markup.shown "[bold]odd[/bold]" = "[bold]odd[/bold]".toList :=
    hshown.trans (by decide +kernel)
  rw [hmessage .info 40 (by rw [hself]; decide), hself]
  exact ⟨rfl, by decide⟩

/-- A backslash before a bracket that begins no tag is lost. -/
theorem not_verbatim_stray :
    Legible "\\[" ∧ (message .info "\\[").lines 40 ≠ ["[ℹ] INFO: \\[".toList] :=
  ⟨⟨forall_of_all (by decide +kernel), by decide +kernel⟩, by decide +kernel⟩

end ConsoleCall

end ElfInspect
