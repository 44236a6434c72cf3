import ElfInspect.Machine
import ElfInspect.Value

namespace ElfInspect

/-!
# Message templates

A template is a text with directives, each of which stands for a value; a doubled `%` stands for
one:

    %[(key)][flags][width][.precision][length]conversion

The flags are `-` (to the left), `+` and blank (a sign also for positive numbers), `#` (alternate
form) and `0` (fill up with zeros).  A `*` as width or precision takes the next value.  The
conversions are `d i u o x X` for integers, `e E f F g G` for real numbers, `c` for characters,
and `s r a` for the texts of values.

* `Template.fill`: the text of a template with values put in, or why the values do not fit it, on
  a machine;
* `TemplateFault`: the reasons, with `TemplateFault.message` their wording.
-/

/-- Why values do not fit a template. -/
inductive TemplateFault
  /-- A directive names a key, but the values are no table. -/
  | noTable
  /-- The brackets around a key are not closed. -/
  | openKey
  | missingKey (key : String)
  | tooFewValues
  | tooManyValues
  /-- The value for a star is no integer. -/
  | starNotInteger
  | starWidthTooWide
  | starPrecisionTooWide
  | widthTooBig
  | precisionTooBig
  /-- The template ends inside a directive. -/
  | incomplete
  | unknownConversion (conversion : Char) (index : Nat)
  | notNumber (conversion : Char) (kind : String)
  | notInteger (conversion : Char) (kind : String)
  | notReal (kind : String)
  | infiniteInteger
  | undefinedInteger
  | integerTooLarge
  | tooManyDigits
  /-- The integer is too large to be written in decimal digits. -/
  | tooLong
  /-- The value is nested too deeply to have a text. -/
  | nestedTooDeeply
  | notCharacter
  | characterOutside
  /-- The character cannot be written out. -/
  | unwritable
  /-- There is no room for that many blanks or zeros. -/
  | noRoom
  deriving Repr, DecidableEq

/-- The wording of a reason. -/
def TemplateFault.message : TemplateFault → String
  | noTable => "format requires a mapping"
  | openKey => "incomplete format key"
  | missingKey key => key
  | tooFewValues => "not enough arguments for format string"
  | tooManyValues => "not all arguments converted during string formatting"
  | starNotInteger => "* wants int"
  | starWidthTooWide => "Python int too large to convert to C ssize_t"
  | starPrecisionTooWide => "Python int too large to convert to C int"
  | widthTooBig => "width too big"
  | precisionTooBig => "precision too big"
  | incomplete => "incomplete format"
  | unknownConversion conversion index =>
    let shown := if 31 ≤ conversion.toNat ∧ conversion.toNat ≤ 126 then conversion else '?'
    "unsupported format character '" ++ shown.toString ++ "' (" ++ hexMarked conversion.toNat ++
      ") at index " ++ toString index
  | notNumber conversion kind =>
    "%" ++ conversion.toString ++ " format: a real number is required, not " ++ kind
  | notInteger conversion kind =>
    "%" ++ conversion.toString ++ " format: an integer is required, not " ++ kind
  | notReal kind => "must be real number, not " ++ kind
  | infiniteInteger => "cannot convert float infinity to integer"
  | undefinedInteger => "cannot convert float NaN to integer"
  | integerTooLarge => "int too large to convert to float"
  | tooManyDigits => "precision too large"
  | tooLong => NumeralFault.tooLarge.message
  | nestedTooDeeply => "maximum recursion depth exceeded"
  | notCharacter => "%c requires int or char"
  | characterOutside => "%c arg not in range(0x110000)"
  | unwritable => "surrogates not allowed"
  | noRoom => ""

namespace Template

/-! ### Values to put in -/

/-- The values that are left.  Values come in sequence, or else from one table, in which case a
    directive may name the key of its value and `current` is the value that the next directive
    takes. -/
inductive Supply
  | sequence (rest : List Value)
  | table (entries : List (String × Value)) (current : Option Value)

/-- Takes the next value. -/
def Supply.next : Supply → Except TemplateFault (Value × Supply)
  | .sequence [] => .error .tooFewValues
  | .sequence (v :: rest) => .ok (v, .sequence rest)
  | .table _ none => .error .tooFewValues
  | .table entries (some v) => .ok (v, .table entries none)

/-- Takes the next value, which must be an integer. -/
def Supply.nextInt (supply : Supply) : Except TemplateFault (Int × Supply) := do
  match ← supply.next with
  | (.integer i, supply) => return (i, supply)
  | (.boolean b, supply) => return (if b then 1 else 0, supply)
  | _ => throw .starNotInteger

/-- Whether no value is left that should have been used.  A table may hold more than is used. -/
def Supply.isDone : Supply → Bool
  | .sequence rest => rest.isEmpty
  | .table .. => true

/-! ### Directives -/

/-- A directive without its conversion. -/
structure Directive where
  left : Bool := false
  plus : Bool := false
  blank : Bool := false
  alternate : Bool := false
  zeros : Bool := false
  width : Nat := 0
  precision : Option Nat := none
  deriving Repr, DecidableEq

/-- The bound on widths. -/
def widthLimit : Int := Nat.pow 2 63

/-- The bound on precisions. -/
def precisionLimit : Int := Nat.pow 2 31

/-- The bound on the precisions of integers. -/
def digitLimit : Nat := Nat.pow 2 31 - 4

/-- Whether a number lies within a bound, as signed numbers of a fixed width do. -/
def isWithin (limit n : Int) : Bool :=
  -limit ≤ n && n < limit

/-- The key between balanced brackets, after the opening one, and what follows it.  `depth` counts
    the inner brackets that are open. -/
def keyTail? (depth : Nat) : List Char → Option (List Char × List Char)
  | [] => none
  | c :: rest =>
    if c = ')' then
      if depth = 0 then some ([], rest)
      else (keyTail? (depth - 1) rest).map fun (key, after) => (c :: key, after)
    else
      (keyTail? (if c = '(' then depth + 1 else depth) rest).map fun (key, after) =>
        (c :: key, after)

/-- Selects the value of the key that a directive starts with, if it does. -/
def selectKey (supply : Supply) (chars : List Char) :
    Except TemplateFault (Supply × List Char) :=
  match chars with
  | '(' :: rest =>
    match supply with
    | .sequence _ => .error .noTable
    | .table entries _ =>
      match keyTail? 0 rest with
      | none => .error .openKey
      | some (key, rest) =>
        match Value.find? (String.ofList key) entries with
        | none => .error (.missingKey (String.ofList key))
        | some v => .ok (.table entries (some v), rest)
  | _ => .ok (supply, chars)

/-- Reads the flags. -/
def readFlags (d : Directive) : List Char → Directive × List Char
  | '-' :: rest => readFlags { d with left := true } rest
  | '+' :: rest => readFlags { d with plus := true } rest
  | ' ' :: rest => readFlags { d with blank := true } rest
  | '#' :: rest => readFlags { d with alternate := true } rest
  | '0' :: rest => readFlags { d with zeros := true } rest
  | chars => (d, chars)

/-- A number written out or, for a star, taken from the values.  It must lie within a bound. -/
def readNumber (limit : Int) (tooBig starTooWide : TemplateFault) (supply : Supply)
    (chars : List Char) : Except TemplateFault (Int × Supply × List Char) :=
  match chars with
  | '*' :: rest => do
    let (n, supply) ← supply.nextInt
    if isWithin limit n then return (n, supply, rest) else throw starTooWide
  | _ =>
    let n : Int := Nat.ofDigitChars 10 (chars.takeWhile Char.isDigit) 0
    if isWithin limit n then .ok (n, supply, chars.dropWhile Char.isDigit) else .error tooBig

/-- Reads the width.  A negative one asks for the left; the least of all, which has no opposite,
    asks for nothing more. -/
def readWidth (d : Directive) (supply : Supply) (chars : List Char) :
    Except TemplateFault (Directive × Supply × List Char) := do
  let (n, supply, rest) ← readNumber widthLimit .widthTooBig .starWidthTooWide supply chars
  let width := if n = -widthLimit then 0 else n.natAbs
  return ({ d with left := d.left || n < 0, width }, supply, rest)

/-- Reads the precision.  A negative one counts as zero. -/
def readPrecision (d : Directive) (supply : Supply) (chars : List Char) :
    Except TemplateFault (Directive × Supply × List Char) :=
  match chars with
  | '.' :: rest => do
    let (n, supply, rest) ←
      readNumber precisionLimit .precisionTooBig .starPrecisionTooWide supply rest
    return ({ d with precision := some n.toNat }, supply, rest)
  | _ => .ok (d, supply, chars)

/-- Steps over a length mark, which has no meaning. -/
def skipLength : List Char → List Char
  | 'h' :: rest => rest
  | 'l' :: rest => rest
  | 'L' :: rest => rest
  | chars => chars

/-! ### Conversions -/

section

variable (machine : Machine)

/-- A text in its width. -/
def place (d : Directive) (body : List Char) : Except TemplateFault (List Char) :=
  -- Room is needed for the blanks before any of them is made.
  if machine.room.limit ≤ d.width then .error .noRoom
  else
    let fill := List.replicate (d.width - body.length) ' '
    .ok (if d.left then body ++ fill else fill ++ body)

/-- A number in its width: its sign, the mark of its base and its digits. -/
def placeNumber (d : Directive) (negative : Bool) (mark digits : List Char) :
    Except TemplateFault (List Char) :=
  let sign := if negative then ['-'] else if d.plus then ['+'] else if d.blank then [' '] else []
  let missing := d.width - (sign.length + mark.length + digits.length)
  if machine.room.limit ≤ missing then .error .noRoom
  else if d.zeros && !d.left then .ok (sign ++ mark ++ List.replicate missing '0' ++ digits)
  else place machine d (sign ++ mark ++ digits)

/-- The integer that a value stands for.  Only decimal conversions accept real numbers, of which
    they take the integer part. -/
def integerOf (conversion : Char) (decimal : Bool) (v : Value) : Except TemplateFault Int :=
  match v, decimal with
  | .integer i, _ => .ok i
  | .boolean b, _ => .ok (if b then 1 else 0)
  | .real .nan, true => .error .undefinedInteger
  | .real r, true =>
    match r.truncate with
    | some i => .ok i
    | none => .error .infiniteInteger
  | v, true => .error (.notNumber conversion v.kindName)
  | v, false => .error (.notInteger conversion v.kindName)

/-- An integer in a base.  The precision is a least number of digits. -/
def convertInteger (d : Directive) (conversion : Char) (v : Value) :
    Except TemplateFault (List Char) := do
  let base := if conversion = 'o' then 8 else if conversion ∈ ['x', 'X'] then 16 else 10
  let i ← integerOf conversion (base == 10) v
  let least := d.precision.getD 0
  if digitLimit < least then throw .tooManyDigits
  if base = 10 ∧ isTooLarge i.natAbs then throw .tooLong
  if machine.room.limit ≤ least then throw .noRoom
  let digits := (Nat.toDigits base i.natAbs).leftpad least '0'
  let digits := if conversion = 'X' then digits.map Char.toUpper else digits
  let mark := if d.alternate && base != 10 then ['0', conversion] else []
  placeNumber machine d (i < 0) mark digits

/-- The real number that a value stands for. -/
def realOf : Value → Except TemplateFault Binary64
  | .real r => .ok r
  | .integer i => nearest i
  | .boolean b => nearest (if b then 1 else 0)
  | v => .error (.notReal v.kindName)
where
  /-- The real number nearest to an integer, unless that is too large. -/
  nearest (i : Int) : Except TemplateFault Binary64 :=
    match Binary64.ofRatio (i < 0) i.natAbs 1 with
    | .finite negative mantissa exponent => .ok (.finite negative mantissa exponent)
    | _ => .error .integerTooLarge

/-- The magnitude of a real number in one of the three forms, with six digits unless the precision
    says otherwise. -/
def magnitude (d : Directive) (conversion : Char) (mantissa : Nat) (exponent : Int) : List Char :=
  let digits := d.precision.getD 6
  match conversion with
  | 'f' | 'F' => Binary64.fixedText mantissa exponent digits d.alternate
  | 'e' | 'E' => Binary64.scientificText conversion mantissa exponent digits d.alternate
  | _ =>
    Binary64.generalText (if conversion = 'G' then 'E' else 'e') mantissa exponent digits
      d.alternate

/-- A real number. -/
def convertReal (d : Directive) (conversion : Char) (v : Value) :
    Except TemplateFault (List Char) := do
  let r ← realOf v
  let trimmed := !d.alternate && (conversion = 'g' || conversion = 'G')
  let named (name : List Char) := if conversion.isUpper then name.map Char.toUpper else name
  match r with
  | .nan => placeNumber machine d false [] (named ['n', 'a', 'n'])
  | .infinite negative => placeNumber machine d negative [] (named ['i', 'n', 'f'])
  | .finite negative mantissa exponent =>
    -- Without trailing zeros the digits are as few as the number has.
    if !trimmed && machine.room.limit ≤ d.precision.getD 0 then throw .noRoom
    placeNumber machine d negative [] (magnitude d conversion mantissa exponent)

/-- A character, given by a text of one character or by its number. -/
def convertChar (d : Directive) : Value → Except TemplateFault (List Char)
  | .text s => if s.length = 1 then place machine d s.toList else .error .notCharacter
  | .integer i => ofNumber i
  | .boolean b => ofNumber (if b then 1 else 0)
  | _ => .error .notCharacter
where
  /-- The character with a number. -/
  ofNumber (i : Int) : Except TemplateFault (List Char) :=
    if i < 0 ∨ 0x110000 ≤ i then .error .characterOutside
    else place machine d [Char.ofNat i.toNat]

/-- Whether what a conversion makes of a value can be written out.  Some numbers of characters are
    set aside and stand for none. -/
def isWritable (conversion : Char) : Value → Bool
  | .integer i => conversion ≠ 'c' || i.toNat.isValidChar
  | _ => true

/-- A value by a conversion, which stands at an index of the template. -/
def convert (d : Directive) (conversion : Char) (index : Nat) (v : Value) :
    Except TemplateFault (List Char) :=
  let text (s : String) : Except TemplateFault (List Char) :=
    if v.isTooLong then .error .tooLong
    else if machine.textDepth ≤ v.nesting then .error .nestedTooDeeply
    else
      place machine d (match d.precision with
        | none => s.toList
        | some n => s.toList.take n)
  if conversion = 's' then text v.display
  else if conversion = 'r' then text v.literal
  else if conversion = 'a' then text (v.literalWith quoteAscii)
  else if conversion ∈ ['d', 'i', 'u', 'o', 'x', 'X'] then convertInteger machine d conversion v
  else if conversion ∈ ['e', 'E', 'f', 'F', 'g', 'G'] then convertReal machine d conversion v
  else if conversion = 'c' then convertChar machine d v
  else .error (.unknownConversion conversion index)

/-- A text with values put in, and whether it can be written out. -/
structure Filling where
  chars : List Char := []
  writable : Bool := true

/-- A filling after a text. -/
def Filling.after (before : List Char) (filling : Filling) : Filling :=
  { filling with chars := before ++ filling.chars }

/-- The text of the directive after a percent sign, with the values and the template that are
    left.  `total` is the length of the whole template. -/
def directive (total : Nat) (supply : Supply) (chars : List Char) :
    Except TemplateFault (Filling × Supply × List Char) := do
  let (supply, chars) ← selectKey supply chars
  let (d, chars) := readFlags {} chars
  let (d, supply, chars) ← readWidth d supply chars
  let (d, supply, chars) ← readPrecision d supply chars
  match skipLength chars with
  | [] => throw .incomplete
  | conversion :: rest =>
    let (v, supply) ← supply.next
    -- The index is that of the conversion letter in the whole template.
    let body ← convert machine d conversion (total - (rest.length + 1)) v
    return (⟨body, isWritable conversion v⟩, supply, rest)

/-! ### Templates -/

/-- The text of a template of which `total` characters are given.  `fuel` bounds the number of
    characters and directives that are left. -/
def fillFrom (total : Nat) : (fuel : Nat) → Supply → List Char → Except TemplateFault Filling
  | _, supply, [] => if supply.isDone then .ok {} else .error .tooManyValues
  | 0, _, _ => .error .incomplete
  -- A doubled sign takes no value; with flags in between it is no directive at all.
  | fuel + 1, supply, '%' :: '%' :: rest => do
    return (← fillFrom total fuel supply rest).after ['%']
  | fuel + 1, supply, '%' :: rest => do
    let (made, supply, rest) ← directive machine total supply rest
    let filling := (← fillFrom total fuel supply rest).after made.chars
    return { filling with writable := made.writable && filling.writable }
  | fuel + 1, supply, c :: rest => do
    return (← fillFrom total fuel supply rest).after [c]

/-- The text of a template with values put in.  Without values the template stands for itself; a
    table that is the only value and not empty is looked up by key.  That a text cannot be written
    out is only noticed when it is complete. -/
def fill (template : String) (values : List Value) : Except TemplateFault String :=
  let go (supply : Supply) : Except TemplateFault String := do
    let filling ← fillFrom machine template.length template.length supply template.toList
    if filling.writable then return String.ofList filling.chars else throw .unwritable
  match values with
  | [] => .ok template
  -- The table is the next value as well, for a directive without a key.
  | [.table (e :: rest)] =>
    go (.table (e :: rest) (some (.table (e :: rest))))
  | values => go (.sequence values)

@[simp]
theorem fill_nil (template : String) : fill machine template [] = .ok template := rfl

end

end Template

end ElfInspect
