import ElfInspect.Text.Quoted

namespace ElfInspect

/-!
# Words that look alike

How much two words have in common is measured by the longest run of characters they share, and
then again by what is left before it and after it.  A word that is not known is answered with the
known words that are most like it.

* `sharedCount`: the number of characters that two words share;
* `closeWords`: the known words that are like a word, best first;
* `suggestWords`: the question that names them.
-/

/-- How far two words agree from their start. -/
def sharedStart : List Char → List Char → Nat
  | a :: as, b :: bs => if a = b then sharedStart as bs + 1 else 0
  | _, _ => 0

/-- A run that two words share: where it starts in each, and its length. -/
structure SharedRun where
  first : Nat
  second : Nat
  length : Nat
  deriving Repr, DecidableEq

/-- The longest of a run and the runs that start where `a` does, `i` characters into the first
    word, and anywhere in `b`, which is what the second word has from `j` on. -/
def longestRunFrom (a : List Char) (i : Nat) (best : SharedRun) : Nat → List Char → SharedRun
  | _, [] => best
  | j, c :: b =>
    let length := sharedStart a (c :: b)
    longestRunFrom a i (if best.length < length then ⟨i, j, length⟩ else best) (j + 1) b

/-- The longest of a run and the runs of two words, where `a` is what the first word has from `i`
    on. -/
def longestRunAfter (b : List Char) (best : SharedRun) : Nat → List Char → SharedRun
  | _, [] => best
  | i, c :: a => longestRunAfter b (longestRunFrom (c :: a) i best 0 b) (i + 1) a

/-- The longest run that two words share: of several, the one that starts first in the first word,
    and then in the second. -/
def longestRun (a b : List Char) : SharedRun :=
  longestRunAfter b ⟨0, 0, 0⟩ 0 a

/-- The number of characters that two words share, in at most `depth` nested runs. -/
def sharedCountWithin : Nat → List Char → List Char → Nat
  | 0, _, _ => 0
  | depth + 1, a, b =>
    let run := longestRun a b
    if run.length = 0 then 0
    else
      -- What stands crosswise to the longest run is not counted.
      sharedCountWithin depth (a.take run.first) (b.take run.second) + run.length +
        sharedCountWithin depth (a.drop (run.first + run.length)) (b.drop (run.second + run.length))

/-- The number of characters that two words share.  Every run takes at least one character of the
    first word, so its length bounds the depth. -/
def sharedCount (a b : List Char) : Nat :=
  sharedCountWithin a.length a b

/-- A word with the number of characters it shares, and the length of both words together. -/
structure LikeWord where
  word : String
  shared : Nat
  total : Nat
  deriving Repr, DecidableEq

namespace LikeWord

/-- Two words are alike when the characters they share are at least three fifths of both. -/
def isClose (w : LikeWord) : Bool :=
  3 * w.total ≤ 10 * w.shared

/-- Whether a word comes before another: by the part that is shared, and then by its spelling. -/
def isBetter (w v : LikeWord) : Bool :=
  -- Fractions are compared without dividing.
  let mine := w.shared * v.total
  let other := v.shared * w.total
  other < mine || (other = mine && v.word < w.word)

/-- Compares a known word with another.  They share no more than the shorter of them holds, so words
    of very different lengths are not looked at. -/
def of (word known : String) : Option LikeWord :=
  let total := word.length + known.length
  if { word := known, shared := min word.length known.length, total : LikeWord }.isClose then
    some { word := known, shared := sharedCount known.toList word.toList, total }
  else none

end LikeWord

/-- The known words that are like a word, best first, and no more than three. -/
def closeWords (known : List String) (word : String) : List String :=
  let close := (known.filterMap (LikeWord.of word)).filter LikeWord.isClose
  ((close.mergeSort LikeWord.isBetter).take 3).map LikeWord.word

/-- The question whether one of some words was meant, with a space before it, or nothing. -/
def suggestWords (words : List String) : String :=
  match words.mergeSort (fun a b => !(b < a)) with
  | [] => ""
  | [word] => " Did you mean " ++ quoteText word ++ "?"
  | words => " (Did you mean one of: " ++ ", ".intercalate (words.map quoteText) ++ "?)"

@[simp]
theorem suggestWords_nil : suggestWords [] = "" := by
  simp [suggestWords]

end ElfInspect
