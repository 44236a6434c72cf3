import ElfInspect.Text.Blank
import ElfInspect.Text.Columns

namespace ElfInspect

/-!
# Lines of a given width

A text is laid out in lines of at most a given number of columns.  Its own lines are kept, tabs go
to the next multiple of eight columns, and a line that is too wide is broken before a word.

* `Overflow`: what is done with a word that is wider than a line;
* `wrap`: the lines of a text;
* `alignLeft`, `alignCentre`: a line in its width;
* `measure`: the columns that the widest line of a text takes.
-/

/-- What is done with a word that is wider than a line: it is continued on the next line, or cut
    off with an ellipsis. -/
inductive Overflow
  | fold
  | ellipsis
  deriving Repr, DecidableEq

/-! ### Tabs -/

/-- The distance between tab stops. -/
def tabSize : Nat := 8

/-- Puts the pieces between tabs together again.  A tab takes at least one column. -/
def joinTabbed (column : Nat) : List (List Char) → List Char
  | [] => []
  | [last] => last
  | piece :: rest =>
    -- The column behind the one blank that a tab takes at least.
    let behind := column + textColumns piece + 1
    let fill := (tabSize - behind % tabSize) % tabSize
    piece ++ blanks (fill + 1) ++ joinTabbed (behind + fill) rest

/-- A line with blanks in place of its tabs. -/
def expandTabs (line : List Char) : List Char :=
  if line.contains '\t' then joinTabbed 0 (splitAtChar '\t' line) else line

/-! ### Words -/

/-- The words of a line, each with the blanks behind it, and the first also with those before it.
    A line of blanks has none.  `fuel` bounds the number of words. -/
def wordsFrom : (fuel : Nat) → List Char → List (List Char)
  | 0, _ => []
  | fuel + 1, chars =>
    let lead := chars.takeWhile isBlank
    match chars.drop lead.length with
    | [] => []
    | rest =>
      let body := rest.takeWhile fun c => !isBlank c
      let after := rest.drop body.length
      let tail := after.takeWhile isBlank
      (lead ++ body ++ tail) :: wordsFrom fuel (after.drop tail.length)

/-- Cuts a word into pieces of at most `width` columns.  `piece` is the one under way, newest
    character first, and `used` its columns. -/
def chopFrom (width : Nat) (piece : List Char) (used : Nat) : List Char → List (List Char)
  | [] => [piece.reverse]
  | c :: rest =>
    let columns := charColumns c
    if width < used + columns then piece.reverse :: chopFrom width [c] columns rest
    else chopFrom width (c :: piece) (used + columns) rest

/-- Cuts a word into pieces of at most `width` columns. -/
def chop (width : Nat) (word : List Char) : List (List Char) :=
  chopFrom width [] 0 word

/-! ### Breaking lines -/

/-- Lines in the making: those that are finished, last one first, the one under way, and the
    columns used in it. -/
structure Breaking where
  finished : List (List Char) := []
  current : List Char := []
  used : Nat := 0

namespace Breaking

/-- Goes on with a new line, unless nothing stands in the one under way. -/
def breakWith (b : Breaking) (start : List Char) : Breaking :=
  { finished := if b.current.isEmpty then b.finished else b.current :: b.finished
    current := start, used := textColumns start }

/-- Places the next word. -/
def place (width : Nat) (overflow : Overflow) (b : Breaking) (word : List Char) : Breaking :=
  -- The blanks behind a word may stand beyond the width.
  let body := textColumns (trimRight word)
  if b.used + body ≤ width then
    { b with current := b.current ++ word, used := b.used + textColumns word }
  else if width < body ∧ overflow = .fold then (chop width word).foldl breakWith b
  else b.breakWith word

/-- All lines. -/
def lines (b : Breaking) : List (List Char) :=
  (b.current :: b.finished).reverse

end Breaking

/-- A line without the blanks at its end that lie beyond a number of characters. -/
def dropBlanksBeyond (width : Nat) (line : List Char) : List Char :=
  let trailing := line.length - (trimRight line).length
  line.take (line.length - min trailing (line.length - width))

/-- The lines that one line is broken into. -/
def wrapLine (width : Nat) (overflow : Overflow) (line : List Char) : List (List Char) :=
  -- A line that is short enough is kept with the blanks at its end.
  if line.length ≤ width ∧ textColumns line ≤ width then [line]
  else
    let broken :=
      match wordsFrom line.length line with
      | [] => [line]
      | words => (words.foldl (Breaking.place width overflow) {}).lines
    broken.map (dropBlanksBeyond width)

/-- A line cut to a width. -/
def truncateLine (width : Nat) (overflow : Overflow) (line : List Char) : List Char :=
  if textColumns line ≤ width then line
  else
    match overflow with
    | .fold => cropColumns width line
    | .ellipsis => cropColumns (width - 1) line ++ ['…']

/-- The lines of a text, none wider than `width` except for blanks at its end. -/
def wrap (width : Nat) (overflow : Overflow) (text : List Char) : List (List Char) :=
  (splitAtChar '\n' text).flatMap fun line => wrapLine width overflow (expandTabs line)

/-! ### Placing lines -/

/-- A line at the left of its width. -/
def alignLeft (width : Nat) (overflow : Overflow) (line : List Char) : List Char :=
  fillRight width (truncateLine width overflow line)

/-- A line in the middle of its width, nearer to the left if it cannot be in the middle. -/
def alignCentre (width : Nat) (line : List Char) : List Char :=
  let line := truncateLine width .fold (trimRight line)
  fillRight width (blanks ((width - textColumns line) / 2) ++ line)

/-- The columns that the widest line of a text takes.  Tabs are not counted, and more characters
    end a line here than where the text is laid out. -/
def measure (text : List Char) : Nat :=
  (splitWhere isLineEnd text).foldl (fun most line => max most (textColumns line)) 0

@[simp]
theorem wrap_nil (width : Nat) (overflow : Overflow) : wrap width overflow [] = [[]] := by
  simp [wrap, splitAtChar, expandTabs, wrapLine]

end ElfInspect
