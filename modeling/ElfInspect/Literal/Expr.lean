import ElfInspect.Literal.Token

namespace ElfInspect.Literal

/-!
# Expressions

What a grammar makes of tokens.  Of most expressions only the kind is kept, as they cannot be part
of a literal.

* `Expr`: expressions;
* `Expr.what`: the kind of an expression, as messages call it;
* `Expr.ofQuoted`: the expression for quoted texts that stand side by side;
* `Expr.check`: whether an expression is a literal.
-/

/-- An expression, or a part of one. -/
inductive Expr
  /-- Something optional that is not there. -/
  | absent
  | token (kind : TokenKind)
  | name (text : String)
  | number (imaginary : Bool)
  | constant (what : String)
  | sign (operand : Expr)
  | sum (left right : Expr)
  | tuple (items : List Expr)
  | set (items : List Expr)
  | table (entries : List Expr)
  | pair (key value : Expr)
  | starred (operand : Expr)
  | call (callee : Expr) (bare : Bool)
  | comparison (left : Expr) (isIn : Bool)
  | other (what : String)
  /-- Several elements in a row. -/
  | elements (items : List Expr)
  deriving Repr, Inhabited

namespace Expr

/-- The kind of an expression, as messages call it. -/
def what : Expr → String
  | name _ => "name"
  | number _ => "literal"
  | constant what => what
  | sign _ | sum .. => "expression"
  | tuple _ => "tuple"
  | set _ => "set display"
  | table _ => "dict literal"
  | starred _ => "starred"
  | call .. => "function call"
  | comparison .. => "comparison"
  | other what => what
  | absent | token _ | pair .. | elements _ => "expression"

/-- The elements of an expression that only groups others. -/
def items : Expr → List Expr
  | elements items => items
  | absent => []
  | e => [e]

/-- The last element of an expression that only groups others. -/
def last (e : Expr) : Expr :=
  e.items.getLastD e

/-! ### Quoted texts -/

/-- The number of bytes that a character takes where escapes are read: characters outside of ASCII
    are themselves escaped there. -/
def escapeWidth (c : Char) : Nat :=
  if c.toNat < 0x80 then 1 else 10

/-- The number of bytes that characters take where escapes are read. -/
def escapeWidths (chars : List Char) : Nat :=
  chars.foldl (fun width c => width + escapeWidth c) 0

/-- Whether a character can be part of the name of a character. -/
def isCharacterName (c : Char) : Bool :=
  c.isAlphanum || c = ' ' || c = '-'

/-- What is wrong with the escapes of a text.  `place` is where the rest stands. -/
def escapeFault? (place : Nat) : (fuel : Nat) → List Char → Option Fault
  | fuel + 1, '\\' :: c :: rest =>
    let wrong (width : Nat) (reason : String) : Option Fault :=
      some (.textEscape place (place + 1 + width) reason)
    let hex (most : Nat) (reason : String) : Option Fault :=
      let found := (rest.take most).takeWhile fun d => (hexDigitValue? d).isSome
      if found.length < most then wrong found.length reason
      else if 0x110000 ≤ Nat.ofDigitChars 16 (found.map Char.toLower) 0 then
        wrong most "illegal Unicode character"
      else escapeFault? (place + 2 + most) fuel (rest.drop most)
    if c = 'x' then hex 2 "truncated \\xXX escape"
    else if c = 'u' then hex 4 "truncated \\uXXXX escape"
    else if c = 'U' then hex 8 "truncated \\UXXXXXXXX escape"
    else if c = 'N' then
      match rest with
      | '\x7b' :: rest =>
        let name := rest.takeWhile (· ≠ '\x7d')
        let width := escapeWidths name
        let after := rest.drop name.length
        if name.isEmpty || after.isEmpty then wrong (1 + width) "malformed \\N character escape"
        -- Names that could be those of characters are taken to be such.
        else if !name.all isCharacterName then wrong (2 + width) "unknown Unicode character name"
        else escapeFault? (place + 4 + width) fuel (after.drop 1)
      | _ => wrong 0 "malformed \\N character escape"
    else escapeFault? (place + 1 + escapeWidth c) fuel rest
  | fuel + 1, c :: rest => escapeFault? (place + escapeWidth c) fuel rest
  | _, _ => none

/-- What is wrong with the escapes of bytes. -/
def byteFault? (place : Nat) : (fuel : Nat) → List Char → Option Fault
  | fuel + 1, '\\' :: 'x' :: rest =>
    if 2 ≤ ((rest.take 2).takeWhile fun d => (hexDigitValue? d).isSome).length then
      byteFault? (place + 4) fuel (rest.drop 2)
    else some (.byteEscape place)
  | fuel + 1, '\\' :: _ :: rest => byteFault? (place + 2) fuel rest
  | fuel + 1, _ :: rest => byteFault? (place + 1) fuel rest
  | _, _ => none

/-- What is wrong with a quoted text. -/
def quotedFault? (q : Quoted) : Option Fault :=
  let fuel := q.content.length
  -- Bytes and texts differ in the escapes that they know.
  if q.has 'b' then
    if q.content.any fun c => 0x80 ≤ c.toNat then some .foreignByte
    else if q.has 'r' then none
    else byteFault? 0 fuel q.content
  else if q.has 'r' then none
  else escapeFault? 0 fuel q.content

/-- The first fault of quoted texts that stand side by side. -/
def rowFault? (bytes : Option Bool) : List Quoted → Option Fault
  | [] => none
  | q :: rest =>
    match quotedFault? q with
    | some fault => some fault
    | none =>
      if bytes.any (· ≠ q.has 'b') then some .mixedTexts else rowFault? (some (q.has 'b')) rest

/-- The expression for quoted texts that stand side by side. -/
def ofQuoted (texts : List Quoted) : Except Fault Expr :=
  match rowFault? none texts with
  | some fault => .error fault
  | none =>
    .ok (if texts.any (·.has 'f') then other "f-string expression" else constant "literal")

/-! ### Targets -/

mutual

/-- The first part of an expression that no loop can assign to. -/
def wrongTarget? : Expr → Option Expr
  | tuple items => wrongTargetOf? items
  | starred operand => wrongTarget? operand
  | comparison left isIn => if isIn then wrongTarget? left else none
  | name _ => none
  | other "attribute" => none
  | e => some e

/-- The first such part of several expressions. -/
def wrongTargetOf? : List Expr → Option Expr
  | [] => none
  | e :: rest => (wrongTarget? e).or (wrongTargetOf? rest)

end

/-! ### Literals -/

/-- What a literal is: something that can be a key, or else its kind. -/
inductive Shape
  | hashable
  | unhashable (kind : String)

/-- Whether a number is imaginary, if an expression is a number, perhaps with a sign. -/
def signedNumber? : Expr → Option Bool
  | number imaginary => some imaginary
  | sign (number imaginary) => some imaginary
  | _ => none

mutual

/-- What kind of literal an expression is. -/
def shape : Expr → Except Fault Shape
  | number _ => .ok .hashable
  | constant _ => .ok .hashable
  | sign (number _) => .ok .hashable
  -- A complex number is a real part with an imaginary one behind it.
  | sum left (number true) =>
    if signedNumber? left = some false then .ok .hashable else .error .notLiteral
  | tuple items => tupleShape .hashable items
  | set items => do
    checkKeys items
    return .unhashable "set"
  | table entries => do
    checkEntries entries
    return .unhashable "dict"
  | call (name "set") true => .ok (.unhashable "set")
  | _ => .error .notLiteral

/-- What kind of literal a tuple is, `found` being that of the items before. -/
def tupleShape (found : Shape) : List Expr → Except Fault Shape
  | [] => .ok found
  | e :: rest => do
    let shape ← shape e
    tupleShape (match found with | .hashable => shape | found => found) rest

/-- Checks that all items of a set are literals that can be keys. -/
def checkKeys : List Expr → Except Fault Unit
  | [] => .ok ()
  | e :: rest => do
    match ← shape e with
    | .hashable => checkKeys rest
    | .unhashable kind => throw (.unhashable kind)

/-- Checks that all entries of a table are literals. -/
def checkEntries : List Expr → Except Fault Unit
  | [] => .ok ()
  | pair absent _ :: _ => .error .unpackedTable
  | pair key value :: rest => do
    -- The value is checked before the key is found to be none.
    let keyShape ← shape key
    let _ ← shape value
    match keyShape with
    | .hashable => checkEntries rest
    | .unhashable kind => throw (.unhashable kind)
  | _ :: rest => checkEntries rest

end

/-- Checks that an expression is a literal. -/
def check (e : Expr) : Except Fault Unit := do
  let _ ← e.shape

end Expr

end ElfInspect.Literal
