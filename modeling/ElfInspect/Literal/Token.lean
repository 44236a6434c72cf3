import ElfInspect.Number.Numeral
import ElfInspect.Text.Columns
import ElfInspect.Text.Hex
import ElfInspect.Text.WordChar

namespace ElfInspect.Literal

/-!
# Tokens of literals

A literal is a value written out: numbers, quoted texts, and tuples, sets and tables of them.  This
module divides a text into the tokens of a literal.

* `Fault`: all that can be wrong with a literal, with `Fault.message` its wording;
* `Token`: a token with its place;
* `scan`: the tokens of a text, and how they end.
-/

/-! ### Faults -/

/-- What is wrong with a literal. -/
inductive Fault
  /-- A bracket, a text or a number is malformed. -/
  | neverClosed (bracket : Char)
  | unmatched (bracket : Char)
  | mismatched (closing opening : Char) (line : Option Nat)
  | tooManyBrackets
  | unterminated (triple : Bool) (line : Nat)
  | badNumber (kind : String)
  | badDigit (digit : Char) (kind : String)
  | leadingZeros
  | numeral (fault : NumeralFault)
  | badCharacter (c : Char)
  | unprintable (c : Char)
  | afterContinuation
  | unexpectedEnd
  | unexpectedIndent
  /-- A quoted text holds what it cannot. -/
  | foreignByte
  | mixedTexts
  | textEscape (first last : Nat) (reason : String)
  | byteEscape (position : Nat)
  /-- The tokens do not go together. -/
  | malformed
  | missingComma
  | missingElse
  | missingBrackets (name : String)
  | assignmentMeant
  | notAssignable (what : String)
  | notAssignableHere (what : String)
  | notNamed (what : String)
  | assignmentInside
  | bareGenerator
  | positionalAfterKeyword (unpacked : Bool)
  | starAfterKeyword
  | starInComprehension
  | loneStar
  | bareTarget
  | tableInComprehension
  | bareStar (double : Bool)
  | starredValue
  | missingValue
  | missingColon
  /-- The value is no literal. -/
  | notLiteral
  | unpackedTable
  | unhashable (kind : String)
  | zeroCharacter
  deriving Repr, DecidableEq

/-- The wording of a fault. -/
def Fault.message : Fault → String
  | neverClosed bracket => "'" ++ bracket.toString ++ "' was never closed"
  | unmatched bracket => "unmatched '" ++ bracket.toString ++ "'"
  | mismatched closing opening line =>
    "closing parenthesis '" ++ closing.toString ++ "' does not match opening parenthesis '" ++
      opening.toString ++ "'" ++ (match line with
      | some line => s!" on line {line}"
      | none => "")
  | tooManyBrackets => "too many nested parentheses"
  | unterminated false line => s!"unterminated string literal (detected at line {line})"
  | unterminated true line =>
    s!"unterminated triple-quoted string literal (detected at line {line})"
  | badNumber kind => s!"invalid {kind} literal"
  | badDigit digit kind => "invalid digit '" ++ digit.toString ++ s!"' in {kind} literal"
  | leadingZeros =>
    "leading zeros in decimal integer literals are not permitted; " ++
      "use an 0o prefix for octal integers"
  | numeral fault =>
    fault.message ++ " - Consider hexadecimal for huge integer literals to avoid decimal " ++
      "conversion limits."
  | badCharacter c => "invalid character '" ++ c.toString ++ "' (U+" ++ codePoint c ++ ")"
  | unprintable c => "invalid non-printable character U+" ++ codePoint c
  | afterContinuation => "unexpected character after line continuation character"
  | unexpectedEnd => "unexpected EOF while parsing"
  | unexpectedIndent => "unexpected indent"
  | foreignByte => "bytes can only contain ASCII literal characters"
  | mixedTexts => "cannot mix bytes and nonbytes literals"
  | textEscape first last reason =>
    s!"(unicode error) 'unicodeescape' codec can't decode bytes in position {first}-{last}: " ++
      reason
  | byteEscape position => s!"(value error) invalid \\x escape at position {position}"
  | malformed => "invalid syntax"
  | missingComma => "invalid syntax. Perhaps you forgot a comma?"
  | missingElse => "expected 'else' after 'if' expression"
  | missingBrackets name =>
    s!"Missing parentheses in call to '{name}'. Did you mean {name}(...)?"
  | assignmentMeant => "invalid syntax. Maybe you meant '==' or ':=' instead of '='?"
  | notAssignable what => s!"cannot assign to {what}"
  | notAssignableHere what =>
    s!"cannot assign to {what} here. Maybe you meant '==' instead of '='?"
  | notNamed what => s!"cannot use assignment expressions with {what}"
  | assignmentInside => "expression cannot contain assignment, perhaps you meant \"==\"?"
  | bareGenerator => "Generator expression must be parenthesized"
  | positionalAfterKeyword false => "positional argument follows keyword argument"
  | positionalAfterKeyword true => "positional argument follows keyword argument unpacking"
  | starAfterKeyword => "iterable argument unpacking follows keyword argument unpacking"
  | starInComprehension => "iterable unpacking cannot be used in comprehension"
  | loneStar => "Invalid star expression"
  | bareTarget => "did you forget parentheses around the comprehension target?"
  | tableInComprehension => "dict unpacking cannot be used in dict comprehension"
  | bareStar false => "cannot use starred expression here"
  | bareStar true => "cannot use double starred expression here"
  | starredValue => "cannot use a starred expression in a dictionary value"
  | missingValue => "expression expected after dictionary key and ':'"
  | missingColon => "':' expected after dictionary key"
  | notLiteral => "malformed node or string"
  | unpackedTable => "malformed node or string: None"
  | unhashable kind => s!"unhashable type: '{kind}'"
  | zeroCharacter => "source code string cannot contain null bytes"
where
  /-- The number of a character, with at least four digits. -/
  codePoint (c : Char) : String :=
    String.ofList ((paddedDigits 4 c.toNat).map Char.toUpper)

/-- Whether the text could not be read, as opposed to a value that could not be made of it. -/
def Fault.isOfReading : Fault → Bool
  | notLiteral | unpackedTable | unhashable _ | zeroCharacter => false
  | _ => true

/-! ### Tokens -/

/-- A quoted text: the letters before it, and what stands between the quotes. -/
structure Quoted where
  marks : List Char
  content : List Char
  deriving Repr, DecidableEq

/-- Whether a quoted text has a mark, in either case. -/
def Quoted.has (q : Quoted) (mark : Char) : Bool :=
  q.marks.any fun c => c.toLower = mark

/-- The kinds of tokens.  Reserved words are marks. -/
inductive TokenKind
  | name (text : String)
  | mark (text : String)
  | number (imaginary : Bool) (fault : Option NumeralFault)
  | quoted (q : Quoted)
  | lineEnd
  | indent
  | finish
  deriving Repr, DecidableEq

/-- A token with the number of brackets that are open behind it, and its line. -/
structure Token where
  kind : TokenKind
  depth : Nat
  line : Nat
  deriving Repr, DecidableEq

/-- How the tokens of a text end. -/
inductive Ending
  | complete
  /-- A bracket is still open. -/
  | unclosed (bracket : Char) (line : Nat)
  /-- The text cannot be divided any further, which is a fault in any case. -/
  | broken (fault : Fault)
  /-- The text cannot be divided any further, which is a fault for who gets there. -/
  | stopped (fault : Fault)
  deriving Repr, DecidableEq

/-- The words that are no names. -/
def reservedWords : List String :=
  ["False", "None", "True", "and", "as", "assert", "async", "await", "break", "class", "continue",
   "def", "del", "elif", "else", "except", "finally", "for", "from", "global", "if", "import",
   "in", "is", "lambda", "nonlocal", "not", "or", "pass", "raise", "return", "try", "while",
   "with", "yield"]

/-- The marks of several characters, longer ones first. -/
def longMarks : List (List Char) :=
  ["**=", "//=", "<<=", ">>=", "...", "!=", "%=", "&=", "**", "*=", "+=", "-=", "->", "//", "/=",
   ":=", "<<", "<=", "<>", "==", ">=", ">>", "@=", "^=", "|="].map String.toList

/-! ### Names -/

/-- Whether a character may belong to a name at first sight. -/
def isNameChar (c : Char) : Bool :=
  c.isAlphanum || c = '_' || 0x80 ≤ c.toNat

/-- Whether a character may go on with a name. -/
def continuesName (c : Char) : Bool :=
  (isWordChar c && !isNumeric c) || (0x80 ≤ c.toNat && charColumns c = 0 && isPrintable c)

/-- What is wrong with a name. -/
def nameFault? (name : List Char) : Option Fault :=
  let starts (c : Char) : Bool := isWordChar c && !isNumeric c && (decimalDigit? c).isNone
  let wrong := match name with
    | [] => none
    | c :: rest => if starts c then rest.find? fun c => !continuesName c else some c
  wrong.map fun c => if isPrintable c then .badCharacter c else .unprintable c

/-! ### Numbers -/

/-- What follows digits in groups that underscores divide.  The text begins with a digit. -/
def afterDigits (isDigit : Char → Bool) : List Char → Except Fault (List Char)
  | '_' :: c :: rest =>
    if isDigit c then afterDigits isDigit rest else .error (.badNumber "decimal")
  | ['_'] => .error (.badNumber "decimal")
  | c :: rest => if isDigit c then afterDigits isDigit rest else .ok (c :: rest)
  | [] => .ok []

/-- Whether a text begins with a word that may stand directly behind a number. -/
def startsLinkWord (chars : List Char) : Bool :=
  (["if", "in", "is"].any fun w => w.toList.isPrefixOf chars) ||
    ["and", "else", "for", "or", "not"].any fun w =>
      w.toList.isPrefixOf chars && !(chars[w.length]?).any isNameChar

/-- Checks that a number ends where a text begins. -/
def endNumber (kind : String) (chars : List Char) : Except Fault (List Char) :=
  match chars with
  | c :: _ =>
    if (c.isAlphanum || c = '_') && !startsLinkWord chars then .error (.badNumber kind)
    else .ok chars
  | [] => .ok chars

/-- What follows the digits of a number with a marked base.  `begun` says that the text comes
    directly behind a digit, and `divisible` that an underscore may stand here. -/
def afterMarked (kind : String) (isDigit : Char → Bool) (begun divisible : Bool) :
    List Char → Except Fault (List Char)
  | [] => if begun then .ok [] else .error (.badNumber kind)
  | c :: rest =>
    if isDigit c then afterMarked kind isDigit true true rest
    else if c = '_' && divisible then afterMarked kind isDigit false false rest
    else if c.isDigit then .error (.badDigit c kind)
    else if begun then endNumber kind (c :: rest)
    else .error (.badNumber kind)

/-- What follows the zeros that a number begins with. -/
def afterZeros : List Char → Except Fault (List Char)
  | '0' :: rest => afterZeros rest
  | '_' :: c :: rest =>
    if c = '0' then afterZeros rest
    else if c.isDigit then .ok (c :: rest) else .error (.badNumber "decimal")
  | ['_'] => .error (.badNumber "decimal")
  | chars => .ok chars

/-- What follows a number after its digits: at most an exponent and the mark of an imaginary
    number. -/
def afterFraction (chars : List Char) : Except Fault (List Char) :=
  match chars with
  | c :: rest =>
    if c.toLower = 'j' then endNumber "imaginary" rest
    else if c.toLower = 'e' then
      match rest with
      | sign :: digits =>
        if sign.isDigit then do afterImaginary (← afterDigits Char.isDigit rest)
        else if sign = '+' || sign = '-' then
          if digits.head?.any Char.isDigit then do
            afterImaginary (← afterDigits Char.isDigit digits)
          else .error (.badNumber "decimal")
        else endNumber "decimal" chars
      | [] => endNumber "decimal" chars
    else endNumber "decimal" chars
  | [] => .ok []
where
  /-- What follows an exponent. -/
  afterImaginary (chars : List Char) : Except Fault (List Char) :=
    match chars with
    | c :: rest =>
      if c.toLower = 'j' then endNumber "imaginary" rest else endNumber "decimal" chars
    | [] => .ok []

/-- What follows the digits before a decimal point. -/
def afterWhole (chars : List Char) : Except Fault (List Char) :=
  match chars with
  | '.' :: rest =>
    if rest.head?.any Char.isDigit then do afterFraction (← afterDigits Char.isDigit rest)
    else afterFraction rest
  | chars => afterFraction chars

/-- What follows a number without a marked base. -/
def afterDecimal (chars : List Char) : Except Fault (List Char) := do
  match chars with
  | '0' :: rest =>
    let rest ← afterZeros rest
    if rest.head?.any Char.isDigit then
      let rest ← afterDigits Char.isDigit rest
      -- With a point or an exponent leading zeros are fine.
      if rest.head?.any fun c => c = '.' || c.toLower = 'e' || c.toLower = 'j' then afterWhole rest
      else throw .leadingZeros
    else afterWhole rest
  | chars => afterWhole (← afterDigits Char.isDigit chars)

/-- What is wrong with an integer, given as it is written. -/
def integerFault? (written : List Char) : Option NumeralFault :=
  let digits := written.filter Char.isDigit
  if written.all (fun c => c.isDigit || c = '_') ∧ maxDigits < digits.length then
    some (.tooLong digits.length)
  else none

/-- The number at the start of a text. -/
def scanNumber (chars : List Char) : Except Fault (TokenKind × List Char) := do
  let isHexDigit (c : Char) : Bool := (hexDigitValue? c).isSome
  let isOctalDigit (c : Char) : Bool := '0' ≤ c && c ≤ '7'
  let isBinaryDigit (c : Char) : Bool := c = '0' || c = '1'
  let marked (kind : String) (isDigit : Char → Bool) (rest : List Char) :
      Except Fault (TokenKind × List Char) := do
    return (.number false none, ← afterMarked kind isDigit false true rest)
  match chars with
  | '0' :: 'x' :: rest | '0' :: 'X' :: rest => marked "hexadecimal" isHexDigit rest
  | '0' :: 'o' :: rest | '0' :: 'O' :: rest => marked "octal" isOctalDigit rest
  | '0' :: 'b' :: rest | '0' :: 'B' :: rest => marked "binary" isBinaryDigit rest
  | chars =>
    let rest ← afterDecimal chars
    -- Only decimal numbers are limited in length.
    let written := chars.take (chars.length - rest.length)
    return (.number (written.getLast?.any fun c => c.toLower = 'j') (integerFault? written), rest)

/-! ### Quoted texts -/

/-- The content of a text up to a closing quote, with the content of a triple one going on over
    lines, and what follows the quote. -/
def closeQuoted (quote : Char) (triple : Bool) (line : Nat) :
    List Char → Except Fault (List Char × List Char × Nat)
  | [] => .error (.unterminated triple line)
  | '\\' :: c :: rest => do
    let (content, after, line) ←
      closeQuoted quote triple (if c = '\n' then line + 1 else line) rest
    return ('\\' :: c :: content, after, line)
  | c :: rest =>
    if c = '\n' && !triple then .error (.unterminated triple line)
    else if c = quote && !triple then .ok ([], rest, line)
    else if c = quote && triple && [quote, quote].isPrefixOf rest then .ok ([], rest.drop 2, line)
    else do
      let (content, after, line) ←
        closeQuoted quote triple (if c = '\n' then line + 1 else line) rest
      return (c :: content, after, line)

/-- The quoted text behind an opening quote. -/
def scanQuoted (marks : List Char) (quote : Char) (line : Nat) (chars : List Char) :
    Except Fault (TokenKind × List Char × Nat) := do
  let triple := [quote, quote].isPrefixOf chars
  let (content, rest, line) ← closeQuoted quote triple line (if triple then chars.drop 2 else chars)
  return (.quoted ⟨marks, content⟩, rest, line)

/-- The letters that may stand before a quote. -/
def textMarks : List (List Char) :=
  ["br", "rb", "fr", "rf", "b", "r", "f", "u"].map String.toList

/-- The letters before a quote, the quote, and what follows it, if a text begins so. -/
def opensQuoted? (chars : List Char) : Option (List Char × Char × List Char) :=
  let small := chars.map Char.toLower
  -- The longest marks are tried first.
  let marks := (textMarks.find? fun m =>
    m.isPrefixOf small && (chars[m.length]?).any fun c => c = '"' || c = '\'').getD []
  match chars.drop marks.length with
  | quote :: rest =>
    if quote = '"' || quote = '\'' then some (chars.take marks.length, quote, rest) else none
  | [] => none

/-! ### All tokens -/

/-- The most brackets that may be open. -/
def maxDepth : Nat := 200

/-- A scan under way: the line, the brackets that are open, innermost first, the column if only
    blanks have stood in the line so far, and the tokens, last one first. -/
structure Scan where
  line : Nat := 1
  opened : List (Char × Nat) := []
  column : Option Nat := some 0
  tokens : List Token := []

namespace Scan

/-- Adds a token. -/
def push (s : Scan) (kind : TokenKind) : Scan :=
  { s with column := none, tokens := ⟨kind, s.opened.length, s.line⟩ :: s.tokens }

/-- Notices that a token stands farther to the right than the lines before. -/
def notice (s : Scan) : Scan :=
  if s.opened.isEmpty ∧ s.column.any (0 < ·) then s.push .indent else s

/-- Steps over a blank. -/
def skip (s : Scan) (c : Char) : Scan :=
  { s with column := s.column.map fun n =>
      if c = '\t' then (n / 8 + 1) * 8 else if c = ' ' then n + 1 else 0 }

/-- Steps over the end of a line. -/
def endLine (s : Scan) : Scan :=
  if s.opened.isEmpty then
    -- Within brackets the end of a line is a blank like any other.
    let ended := if s.column.isNone then s.push .lineEnd else s
    { ended with line := s.line + 1, column := some 0 }
  else { s with line := s.line + 1 }

/-- The bracket that a closing one belongs to. -/
def opening (c : Char) : Char :=
  if c = ')' then '(' else if c = ']' then '[' else '\x7b'

/-- Takes a bracket or another mark of one character. -/
def takeMark (s : Scan) (c : Char) : Except Fault Scan :=
  if c = '(' || c = '[' || c = '\x7b' then
    if maxDepth ≤ s.opened.length then .error .tooManyBrackets
    else .ok ({ s with opened := (c, s.line) :: s.opened }.push (.mark c.toString))
  else if c = ')' || c = ']' || c = '\x7d' then
    match s.opened with
    | [] => .error (.unmatched c)
    | (bracket, line) :: opened =>
      if bracket = opening c then .ok ({ s with opened }.push (.mark c.toString))
      else .error (.mismatched c bracket (if line = s.line then none else some line))
  else if isPrintable c then .ok (s.push (.mark c.toString))
  else .error (.unprintable c)

/-- Takes a token that begins with a character that is no blank. -/
def takeToken (s : Scan) (chars : List Char) : Except Fault (Scan × List Char) := do
  match opensQuoted? chars with
  | some (marks, quote, rest) =>
    let (kind, rest, line) ← scanQuoted marks quote s.line rest
    return ({ s.push kind with line }, rest)
  | none =>
    let c := chars.headD ' '
    -- A point may begin a number as well.
    if c.isDigit || (c = '.' && (chars[1]?).any Char.isDigit) then
      let (kind, rest) ← scanNumber chars
      return (s.push kind, rest)
    else if isNameChar c then
      let name := chars.takeWhile isNameChar
      let text := String.ofList name
      match nameFault? name with
      | some fault => throw fault
      | none =>
        let kind := if reservedWords.contains text then TokenKind.mark text else .name text
        return (s.push kind, chars.drop name.length)
    else
      match longMarks.find? fun m => m.isPrefixOf chars with
      | some mark => return (s.push (.mark (String.ofList mark)), chars.drop mark.length)
      | none => return (← s.takeMark c, chars.drop 1)

/-- Goes on to the end of a text.  `fuel` bounds the characters that are left. -/
def run : (fuel : Nat) → Scan → List Char → Scan × Ending
  | _, s, [] =>
    match s.opened with
    | [] => (s.push .finish, .complete)
    | (bracket, line) :: _ => (s, .unclosed bracket line)
  | 0, s, _ => (s, .complete)
  | fuel + 1, s, c :: rest =>
    if c = ' ' || c = '\t' || c = '\x0c' then run fuel (s.skip c) rest
    else if c = '#' then run fuel s (rest.dropWhile (· ≠ '\n'))
    else if c = '\n' then run fuel s.endLine rest
    else if c = '\\' then
      match rest with
      -- Nothing follows the line that is to be continued.
      | ['\n'] => (s, .stopped .unexpectedEnd)
      | '\n' :: rest => run fuel { s with line := s.line + 1, column := none } rest
      | _ => (s, .stopped .afterContinuation)
    else
      let s := s.notice
      match s.takeToken (c :: rest) with
      | .ok (s, rest) => run fuel s rest
      | .error fault => (s, .broken fault)

end Scan

/-- A text with all its line ends written in the same way. -/
def unifyLineEnds : List Char → List Char
  | '\r' :: '\n' :: rest => '\n' :: unifyLineEnds rest
  | '\r' :: rest => '\n' :: unifyLineEnds rest
  | c :: rest => c :: unifyLineEnds rest
  | [] => []

/-- The tokens of a text, and how they end. -/
def scan (text : String) : Array Token × Ending :=
  let chars := unifyLineEnds text.toList
  let (s, ending) := Scan.run chars.length {} chars
  (s.tokens.reverse.toArray, ending)

end ElfInspect.Literal
