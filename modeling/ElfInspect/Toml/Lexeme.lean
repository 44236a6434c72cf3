import ElfInspect.Toml.Error

namespace ElfInspect.Toml

/-!
# Blanks, strings and keys

The smallest parts of a settings document.  A `Scan` runs on the characters that are still to be
read; when it fails, the characters left are those from the place of the failure on.
-/

/-- A step of reading.  The state is what is left of the text. -/
abbrev Scan := EStateM Cause (List Char)

namespace Scan

/-- Fails with a cause at a place, given by the characters from there on. -/
def failAt {α : Type} (rest : List Char) (cause : Cause) : Scan α :=
  fun _ => .error cause rest

/-- Whether a text comes next. -/
def sees (text : String) : Scan Bool := do
  return text.toList.isPrefixOf (← get)

/-- Steps over a number of characters. -/
def advance (count : Nat) : Scan Unit :=
  modify fun rest => rest.drop count

/-- Steps over the characters that satisfy a condition. -/
def skip (condition : Char → Bool) : Scan Unit :=
  modify fun rest => rest.dropWhile condition

/-- Steps over a text, or fails where it should stand. -/
def expect (text : String) (cause : Cause) : Scan Unit := do
  if ← sees text then advance text.length else throw cause

/-- A result that does not depend on the text. -/
def ofExcept {α : Type} : Except Cause α → Scan α
  | .ok value => pure value
  | .error cause => throw cause

end Scan

open Scan

/-! ### Kinds of characters -/

/-- Blanks within a line. -/
def isBlank (c : Char) : Bool :=
  c = ' ' || c = '\t'

/-- Blanks and line ends. -/
def isSpace (c : Char) : Bool :=
  isBlank c || c = '\n'

/-- The control characters other than the tab.  They occur nowhere inside a line. -/
def isIllegal (c : Char) : Bool :=
  (c.toNat < 0x20 || c.toNat = 0x7F) && c ≠ '\t'

/-- The characters that a text of several lines must not hold. -/
def isIllegalInLines (c : Char) : Bool :=
  isIllegal c && c ≠ '\n'

/-- The characters of a key without quotes. -/
def isBareKeyChar (c : Char) : Bool :=
  c.isAlphanum || c = '-' || c = '_'

/-- The characters that a key can start with. -/
def isKeyStart (c : Char) : Bool :=
  isBareKeyChar c || c = '"' || c = '\''

/-! ### Comments -/

/-- Steps over a comment, which runs up to the end of the line. -/
def comment : Scan Unit := do
  if ← sees "#" then
    let line := (← get).tail.takeWhile (· ≠ '\n')
    match line.find? isIllegal with
    | some c => failAt ((← get).tail.dropWhile (!isIllegal ·)) (.invalidCharacter c)
    | none => skip (· ≠ '\n')

/-- Steps over blanks, line ends and comments.  `fuel` bounds the number of comments. -/
def gaps : (fuel : Nat) → Scan Unit
  | 0 => skip isSpace
  | fuel + 1 => do
    skip isSpace
    if ← sees "#" then
      comment
      gaps fuel

/-- Steps over everything that may stand between the items of an array. -/
def arrayGap : Scan Unit := do
  gaps (← get).length

/-! ### Literal strings -/

/-- Splits a text before the first occurrence of another. -/
def splitBefore (stop : List Char) : List Char → Option (List Char × List Char)
  | [] => if stop.isEmpty then some ([], []) else none
  | c :: rest =>
    if stop.isPrefixOf (c :: rest) then some ([], c :: rest)
    else (splitBefore stop rest).map fun (before, after) => (c :: before, after)

/-- The characters up to a closing text, which is stepped over.  Nothing is escaped. -/
def literalTail (closing : String) (illegal : Char → Bool) : Scan (List Char) := do
  let chars ← get
  match splitBefore closing.toList chars with
  | none => failAt [] (.expectedText closing)
  | some (content, rest) =>
    match content.find? illegal with
    -- The failure is at the character itself.
    | some c => failAt (chars.dropWhile (!illegal ·)) (.invalidCharacter c)
    | none =>
      set (rest.drop closing.length)
      return content

/-- A string between single quotes. -/
def literalString : Scan String := do
  advance 1
  return String.ofList (← literalTail "'" isIllegal)

/-! ### Strings with escapes -/

/-- The character that a letter stands for after a backslash. -/
def escaped? : Char → Option Char
  | 'b' => some '\x08'
  | 't' => some '\t'
  | 'n' => some '\n'
  | 'f' => some '\x0c'
  | 'r' => some '\r'
  | '"' => some '"'
  | '\\' => some '\\'
  | _ => none

/-- Whether a number is that of a character. -/
def isScalarValue (n : Nat) : Bool :=
  n < 0xD800 || (0xE000 ≤ n && n < 0x110000)

/-- Where the reader of a string is: in plain text, where it may be skipping space; after a
    backslash; among blanks between a backslash and a line end; or inside an escape by number, with
    the place where its digits start, the number of digits to come, and the value so far. -/
inductive StringMode
  | plain (skipping : Bool)
  | escape
  | lineBreak
  | number (start : List Char) (left value : Nat)

/-- The characters up to the closing quotes, which are stepped over: one quote, or three if the
    string may have several `lines`.  `done` holds the characters so far, newest first. -/
def basicTail (lines : Bool) (mode : StringMode) (done : List Char) : Scan (List Char)
  | [] =>
    match mode with
    | .number start _ _ => .error .invalidHexValue start
    | .escape => .error .invalidEscape []
    | _ => .error .unterminatedString []
  | c :: rest =>
    match mode with
    | .number start left value =>
      match hexDigitValue? c with
      | none => .error .invalidHexValue start
      | some digit =>
        if 1 < left then
          basicTail lines (.number start (left - 1) (value * 16 + digit)) done rest
        else if isScalarValue (value * 16 + digit) then
          basicTail lines (.plain false) (Char.ofNat (value * 16 + digit) :: done) rest
        else .error .notScalarValue rest
    | .lineBreak =>
      if c = '\n' then basicTail lines (.plain true) done rest
      else if isBlank c then basicTail lines .lineBreak done rest
      else .error .invalidEscape (c :: rest)
    | .escape =>
      if lines && c = '\n' then basicTail lines (.plain true) done rest
      else if lines && isBlank c then basicTail lines .lineBreak done rest
      else if c = 'u' then basicTail lines (.number rest 4 0) done rest
      else if c = 'U' then basicTail lines (.number rest 8 0) done rest
      else
        match escaped? c with
        | some e => basicTail lines (.plain false) (e :: done) rest
        | none => .error .invalidEscape rest
    | .plain skipping =>
      if skipping && isSpace c then basicTail lines (.plain true) done rest
      else if c = '\\' then basicTail lines .escape done rest
      else if c = '"' then
        if lines then
          -- A quote that is not the first of three is part of the text.
          if ['"', '"'].isPrefixOf rest then .ok done.reverse (rest.drop 2)
          else basicTail lines (.plain false) (c :: done) rest
        else .ok done.reverse rest
      else if (if lines then isIllegalInLines c else isIllegal c) then
        .error (.illegalCharacter c) (c :: rest)
      else basicTail lines (.plain false) (c :: done) rest

/-- A string between double quotes. -/
def basicString : Scan String := do
  advance 1
  return String.ofList (← basicTail false (.plain false) [])

/-- A string between three quotes on each side.  A line end right after the opening quotes does
    not count, and up to two quotes right before the closing ones belong to the string. -/
def multilineString (quote : Char) : Scan String := do
  advance 3
  if ← sees "\n" then advance 1
  let content ←
    if quote = '"' then basicTail true (.plain false) []
    else literalTail "'''" isIllegalInLines
  -- The closing quotes are the first three in a row; up to two more follow them.
  let extra := ((← get).take 2).takeWhile (· = quote)
  advance extra.length
  return String.ofList (content ++ extra)

/-! ### Keys -/

/-- One name of a key. -/
def keyPart : Scan String := do
  match (← get).head? with
  | some c =>
    if isBareKeyChar c then
      let name := (← get).takeWhile isBareKeyChar
      advance name.length
      return String.ofList name
    else if c = '\'' then literalString
    else if c = '"' then basicString
    else throw .invalidKeyStart
  | none => throw .invalidKeyStart

/-- The names after the first, each after a point.  `fuel` bounds their number. -/
def keyTail : (fuel : Nat) → Scan Key
  | 0 => return []
  | fuel + 1 => do
    skip isBlank
    if ← sees "." then
      advance 1
      skip isBlank
      let name ← keyPart
      return name :: (← keyTail fuel)
    else return []

/-- A dotted key and the blanks after it. -/
def key : Scan Key := do
  let first ← keyPart
  return first :: (← keyTail ((← get).length + 1))

end ElfInspect.Toml
