import ElfInspect.Number.Binary64
import ElfInspect.Text.Markup
import ElfInspect.Text.Wrap

namespace ElfInspect

/-!
# Tables

A table has a title, column headers, rows and an optional caption, all texts.  The headers may hold
markup, everything else is shown as it is.

* `Table.widths`: the columns that each column of a table takes on a console;
* `Table.lines`: the lines of a table;
* `Table.fault?`: what keeps a table from being shown.

A column is as wide as its widest cell and has a blank on each side.  Where the console leaves less
room, the widest columns are narrowed first.
-/

/-- A table of texts.  Rows may be shorter or longer than the list of columns. -/
structure Table where
  title : String
  columns : List String
  rows : List (List String)
  caption : Option String := none
  styles : Option (List String) := none
  deriving Repr, DecidableEq, Inhabited

/-! ### Narrowing columns -/

/-- Takes `excess` from the columns of the width given, of which there are `sharers`, in shares as
    equal as can be and of at most `most`. -/
def takeShares (widest most excess sharers : Nat) : List Nat → List Nat
  | [] => []
  | width :: widths =>
    if width = widest then
      -- The share is taken of what is left, so that rounding is made up for by the later columns.
      let share := min most (roundHalfEven excess sharers)
      (width - share) :: takeShares widest most (excess - share) (sharers - 1) widths
    else width :: takeShares widest most excess sharers widths

/-- Narrows columns until they fit into `room`.  Each time the widest columns come down to the
    second widest.  `fuel` bounds how often. -/
def narrow (room : Nat) : (fuel : Nat) → List Nat → List Nat
  | 0, widths => widths
  | fuel + 1, widths =>
    let excess := widths.foldl (· + ·) 0 - room
    if excess = 0 then widths
    else
      let widest := widths.foldl max 0
      -- If all columns are equally wide the second widest counts as zero.
      let second := (widths.filter (· ≠ widest)).foldl max 0
      narrow room fuel
        (takeShares widest (min excess (widest - second)) excess (widths.count widest) widths)

namespace Table

/-! ### Cells -/

/-- The number of columns, those without a header included. -/
def columnCount (t : Table) : Nat :=
  t.rows.foldl (fun n row => max n row.length) t.columns.length

/-- A list of texts filled up with empty ones. -/
def padRow (count : Nat) (cells : List (List Char)) : List (List Char) :=
  cells ++ List.replicate (count - cells.length) []

/-- The column headers as shown. -/
def shownHeader (t : Table) : List (List Char) :=
  padRow t.columnCount (t.columns.map fun c => Markup.render c.toList)

/-- The rows as shown. -/
def shownRows (t : Table) : List (List (List Char)) :=
  t.rows.map fun row => padRow t.columnCount (row.map Markup.shown)

/-! ### Widths -/

/-- The blanks beside a cell, those of both sides together. -/
def padding : Nat := 2

/-- What is left of a width for the columns themselves, without the bars. -/
def room (t : Table) (width : Nat) : Nat :=
  width - (t.columnCount + 1)

/-- The width of a column whose widest cell takes `content`, with `room` to fit in. -/
def columnWidth (room content : Nat) : Nat :=
  min room (content + padding)

/-- The columns that the widest cell of each column takes. -/
def contents (t : Table) : List Nat :=
  t.shownRows.foldl (fun widths row => List.zipWith max widths (row.map measure))
    (t.shownHeader.map measure)

/-- The width of each column on a console of a given width. -/
def widths (t : Table) (width : Nat) : List Nat :=
  let room := t.room width
  let natural := t.contents.map (columnWidth room)
  let total := natural.foldl (· + ·) 0
  if total ≤ room then natural
  else List.zipWith columnWidth (narrow room total natural) t.contents

/-! ### Lines -/

/-- A line between rows: `fill` under every cell, with the corners and crossings given. -/
def ruleLine (widths : List Nat) (left fill cross right : Char) : List Char :=
  left :: List.intercalate [cross] (widths.map (List.replicate · fill)) ++ [right]

/-- The lines of a cell.  There are none if no room is left between the blanks. -/
def cellLines (width : Nat) (text : List Char) : List (List Char) :=
  let inner := width - padding
  if inner = 0 then []
  else (wrap inner .ellipsis text).map fun line => ' ' :: alignLeft inner .ellipsis line ++ [' ']

/-- One line of a row, with bars around its cells. -/
def rowLine (bar : Char) (fields : List (List Char)) : List Char :=
  bar :: List.intercalate [bar] fields ++ [bar]

/-- The lines of a row.  `atBottom` says that shorter cells stand at the bottom of the row. -/
def rowLines (widths : List Nat) (bar : Char) (atBottom : Bool) (row : List (List Char)) :
    List (List Char) :=
  let cells := List.zipWith cellLines widths row
  -- A row takes one line even if all of its cells are empty.
  let height := cells.foldl (fun n lines => max n lines.length) 1
  let filled := List.zipWith (fun width lines =>
    let missing := List.replicate (height - lines.length) (blanks width)
    if atBottom then missing ++ lines else lines ++ missing) widths cells
  (List.range height).map fun i => rowLine bar (filled.map fun lines => lines.getD i [])

/-- The lines of a title or caption, each in the middle. -/
def noteLines (width : Nat) (note : String) : List (List Char) :=
  if note.isEmpty then [] else (wrap width .fold (Markup.shown note)).map (alignCentre width)

/-- The lines of a table on a console of a given width.  A table without columns is an empty
    line. -/
def lines (t : Table) (width : Nat) : List (List Char) :=
  if t.columnCount = 0 then [[]]
  else
    let widths := t.widths width
    let total := widths.foldl (· + ·) t.columnCount + 1
    noteLines total t.title ++
      ruleLine widths '┏' '━' '┳' '┓' :: rowLines widths '┃' true t.shownHeader ++
      ruleLine widths '┡' '━' '╇' '┩' :: t.shownRows.flatMap (rowLines widths '│' false) ++
      ruleLine widths '└' '─' '┴' '┘' :: noteLines total (t.caption.getD "")

/-! ### Faults -/

/-- What keeps a table from being shown: the style or the header of a column. -/
inductive Fault
  | style (name : String) (fault : StyleFault)
  | markup (fault : Markup.TagFault)
  deriving Repr, DecidableEq

/-- The text of a fault. -/
def Fault.message : Fault → String
  | style name fault =>
    if fault.numeral?.isSome then fault.message
    else "Failed to get style " ++ quoteText name ++ "; " ++ fault.message
  | markup fault => fault.message

/-- What is wrong with a style. -/
def styleFault? (style : String) : Option Fault :=
  if namedStyles.contains style then none
  else
    match TextStyle.read style with
    | .error fault => some (.style style fault)
    | .ok _ => none

/-- What is wrong with a column of a given style and header.  The header is only read where
    `room` leaves space for it between the blanks. -/
def columnFault? (room : Nat) (style header : String) : Option Fault :=
  (styleFault? style).or
    -- The style is read in any case.
    (if room ≤ padding then none else (Markup.tagFault? header).map .markup)

/-- What is wrong with a header in a column of a given width.  One without space between the blanks
    is not laid out. -/
def headerFault? (header : String) (width : Nat) : Option Fault :=
  if width ≤ padding then none else (Markup.layoutFault? header).map .markup

/-- The first fault of a table on a console of a given width.  Columns beyond the styles are
    plain. -/
def fault? (t : Table) (width : Nat) : Option Fault :=
  if width = 0 then none
  else
    let styles := t.styles.getD []
    -- Columns are looked at one by one before anything is laid out.
    let inColumns := t.columns.zipIdx.findSome? fun (header, i) =>
      columnFault? (t.room width) (styles.getD i "") header
    inColumns.or ((List.zipWith headerFault? t.columns (t.widths width)).findSome? id)

end Table

end ElfInspect
