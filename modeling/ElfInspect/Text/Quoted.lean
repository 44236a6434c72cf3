import ElfInspect.Text.Hex
import ElfInspect.Text.Printable

namespace ElfInspect

/-!
# Quoted literals

Texts and byte strings inside messages are written as quoted literals.  The quote is `'`, or `"`
when the content holds `'` and no `"`.  The backslash and the chosen quote are escaped, tab, line
feed and carriage return have short escapes, and whatever is not printable is written by its
number.

* `quoteText`: a text, with non-ASCII printable characters as they are;
* `quoteAscii`: a text, with every non-ASCII character escaped;
* `quoteBytes`: a byte string, marked by a leading `b`.
-/

/-- The quote of a literal with the given content. -/
def chooseQuote (content : List Char) : Char :=
  if '\'' ∈ content ∧ '"' ∉ content then '"' else '\''

/-- The escape of a character by its number: two, four or eight digits. -/
def numericEscape (n : Nat) : List Char :=
  -- The shortest form with enough digits.
  if n < 0x100 then '\\' :: 'x' :: paddedDigits 2 n
  else if n < 0x10000 then '\\' :: 'u' :: paddedDigits 4 n
  else '\\' :: 'U' :: paddedDigits 8 n

/-- One character of a literal.  `keep` says which characters are written as they are. -/
def quoteChar (keep : Char → Bool) (quote c : Char) : List Char :=
  if c = quote ∨ c = '\\' then ['\\', c]
  else if c = '\t' then ['\\', 't']
  else if c = '\n' then ['\\', 'n']
  else if c = '\r' then ['\\', 'r']
  else if keep c then [c]
  else numericEscape c.toNat

/-- The literal of a character list. -/
def quoteChars (keep : Char → Bool) (content : List Char) : List Char :=
  let quote := chooseQuote content
  quote :: content.flatMap (quoteChar keep quote) ++ [quote]

/-- The literal of a text, with printable characters as they are. -/
def quoteText (s : String) : String :=
  String.ofList (quoteChars isPrintable s.toList)

/-- The literal of a text in ASCII. -/
def quoteAscii (s : String) : String :=
  String.ofList (quoteChars (fun c => c.toNat < 0x80 && isPrintable c) s.toList)

/-- The literal of a byte string: the bytes are taken as the characters of the same number. -/
def quoteBytes (bytes : List UInt8) : String :=
  let content := bytes.map fun b => Char.ofNat b.toNat
  String.ofList ('b' :: quoteChars (fun c => c.toNat < 0x80 && isPrintable c) content)

@[simp]
theorem quoteChars_nil (keep : Char → Bool) : quoteChars keep [] = ['\'', '\''] := by
  simp [quoteChars, chooseQuote]

end ElfInspect
