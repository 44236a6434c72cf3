namespace ElfInspect

/-!
# Blanks, line ends and pieces

* `isBlank`: the characters that separate words;
* `isLineEnd`: the characters that end a line when a text is measured;
* `trimLeft`, `trimRight`, `trim`: a text without the blanks around it;
* `splitWhere`, `splitAtChar`: the pieces between separators;
* `blankWords`: the words of a text.
-/

/-- Whether a character separates words: the space, the control characters that move on, and the
    spaces and separators of Unicode. -/
def isBlank (c : Char) : Bool :=
  let n := c.toNat
  (0x09 ≤ n && n ≤ 0x0D) || (0x1C ≤ n && n ≤ 0x20) || n = 0x85 || n = 0xA0 || n = 0x1680 ||
    (0x2000 ≤ n && n ≤ 0x200A) || n = 0x2028 || n = 0x2029 || n = 0x202F || n = 0x205F ||
    n = 0x3000

/-- Whether a character ends a line when a text is measured. -/
def isLineEnd (c : Char) : Bool :=
  let n := c.toNat
  (0x0A ≤ n && n ≤ 0x0D) || (0x1C ≤ n && n ≤ 0x1E) || n = 0x85 || n = 0x2028 || n = 0x2029

/-- A text without the blanks at its start. -/
def trimLeft (chars : List Char) : List Char :=
  chars.dropWhile isBlank

/-- A text without the blanks at its end. -/
def trimRight (chars : List Char) : List Char :=
  (trimLeft chars.reverse).reverse

/-- A text without the blanks around it. -/
def trim (chars : List Char) : List Char :=
  trimRight (trimLeft chars)

/-- Splits a text at the characters that satisfy a condition; the pieces between two neighbours of
    them are empty. -/
def splitWhere (separates : Char → Bool) : List Char → List (List Char)
  | [] => [[]]
  | c :: rest =>
    match splitWhere separates rest with
    | [] => [[c]]
    | piece :: pieces => if separates c then [] :: piece :: pieces else (c :: piece) :: pieces

/-- Splits a text at a character. -/
def splitAtChar (separator : Char) (chars : List Char) : List (List Char) :=
  splitWhere (· = separator) chars

/-- The words of a text, without the blanks between them. -/
def blankWords (chars : List Char) : List (List Char) :=
  (splitWhere isBlank chars).filter fun word => !word.isEmpty

@[simp]
theorem splitWhere_nil (separates : Char → Bool) : splitWhere separates [] = [[]] := rfl

/-- There is always a first piece. -/
theorem splitWhere_ne_nil (separates : Char → Bool) (chars : List Char) :
    splitWhere separates chars ≠ [] := by
  cases chars with
  | nil => simp
  | cons c rest =>
    unfold splitWhere
    split
    · simp
    · split <;> simp

end ElfInspect
