import ElfInspect.Number.Numeral

namespace ElfInspect.Toml

/-!
# Why a settings document is malformed

* `Cause`: what is wrong, with `Cause.message` its wording;
* `Place`: where in the text;
* `Error`: both together.
-/

/-- A dotted key: the names of the tables on the way, and last the name in the innermost table. -/
abbrev Key := List String

/-- What is wrong with a document. -/
inductive Cause
  | invalidStatement
  | expectedLineEnd
  | invalidCharacter (c : Char)
  | illegalCharacter (c : Char)
  | expectedText (text : String)
  | unterminatedString
  | invalidEscape
  | invalidHexValue
  | notScalarValue
  | invalidKeyStart
  | expectedEquals
  | unclosedArray
  | unclosedInlineTable
  | duplicateInlineKey (name : String)
  | declaredTwice (key : Key)
  | immutableTable (key : Key)
  | redefinedTable (key : Key)
  | overwrittenValue
  | expectedTableEnd
  | expectedArrayTableEnd
  | invalidMoment
  | invalidValue
  /-- A decimal integer with more digits than are accepted. -/
  | integerTooLong (digits : Nat)
  | nestedTooDeeply
  deriving Repr, DecidableEq

/-- A key in a message: its quoted names in parentheses, a single one with a comma after it. -/
def keyText : Key → String
  | [name] => "(" ++ quoteText name ++ ",)"
  | key => "(" ++ ", ".intercalate (key.map quoteText) ++ ")"

/-- The wording of a cause. -/
def Cause.message : Cause → String
  | .invalidStatement => "Invalid statement"
  | .expectedLineEnd => "Expected newline or end of document after a statement"
  | .invalidCharacter c => "Found invalid character " ++ quoteText c.toString
  | .illegalCharacter c => "Illegal character " ++ quoteText c.toString
  | .expectedText text => "Expected " ++ quoteText text
  | .unterminatedString => "Unterminated string"
  | .invalidEscape => "Unescaped '\\' in a string"
  | .invalidHexValue => "Invalid hex value"
  | .notScalarValue => "Escaped character is not a Unicode scalar value"
  | .invalidKeyStart => "Invalid initial character for a key part"
  | .expectedEquals => "Expected '=' after a key in a key/value pair"
  | .unclosedArray => "Unclosed array"
  | .unclosedInlineTable => "Unclosed inline table"
  | .duplicateInlineKey name => "Duplicate inline table key " ++ quoteText name
  | .declaredTwice key => "Cannot declare " ++ keyText key ++ " twice"
  | .immutableTable key => "Cannot mutate immutable namespace " ++ keyText key
  | .redefinedTable key => "Cannot redefine namespace " ++ keyText key
  | .overwrittenValue => "Cannot overwrite a value"
  | .expectedTableEnd => "Expected ']' at the end of a table declaration"
  | .expectedArrayTableEnd => "Expected ']]' at the end of an array declaration"
  | .invalidMoment => "Invalid date or datetime"
  | .invalidValue => "Invalid value"
  | .integerTooLong digits => (NumeralFault.tooLong digits).message
  | .nestedTooDeeply => "maximum recursion depth exceeded"

/-- A place in a text.  Lines and columns are counted from one. -/
inductive Place
  | position (line column : Nat)
  | documentEnd
  deriving Repr, DecidableEq

/-- The place that is reached after some characters, when `rest` follows them. -/
def Place.after (before rest : List Char) : Place :=
  if rest.isEmpty then .documentEnd
  else .position (before.count '\n' + 1) ((before.reverse.takeWhile (· ≠ '\n')).length + 1)

/-- The wording of a place. -/
def Place.text : Place → String
  | .position line column => s!"at line {line}, column {column}"
  | .documentEnd => "at end of document"

/-- A cause with its place. -/
structure Error where
  cause : Cause
  place : Place
  deriving Repr, DecidableEq

/-- The wording of an error.  What exceeds a limit is reported without its place. -/
def Error.message (e : Error) : String :=
  match e.cause with
  | .integerTooLong _ | .nestedTooDeeply => e.cause.message
  | _ => e.cause.message ++ " (" ++ e.place.text ++ ")"

end ElfInspect.Toml
