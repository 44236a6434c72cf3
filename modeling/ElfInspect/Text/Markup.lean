import ElfInspect.Literal.Action
import ElfInspect.Text.Style

namespace ElfInspect.Markup

/-!
# Console markup

The console takes text with tags in brackets, such as `[bold]`.  What is to be shown as it is has
to be escaped first.

* `escape`: puts a backslash before whatever would be read as a tag, doubles the backslashes that
  stand there already, and doubles a single backslash at the end of the text;
* `render`: what the console shows of a text with markup: escapes are resolved and tags vanish;
* `tagFault?` and `layoutFault?`: what keeps a text with markup from being shown.

A tag is an opening bracket followed by a lower-case letter or one of `#`, `/` and `@`, and runs
to the next closing bracket, with no further opening bracket in between.  Codes for emoji, which are
names between colons, are not known here: they are shown as they stand.
-/

/-- The characters that a tag can start with. -/
def startsTag (c : Char) : Bool :=
  ('a' ≤ c && c ≤ 'z') || c = '#' || c = '/' || c = '@'

/-- The part of a tag up to its closing bracket, and what follows the bracket. -/
def tagBody : List Char → Option (List Char × List Char)
  | [] => none
  | ']' :: rest => some ([], rest)
  | '[' :: _ => none
  | c :: rest => (tagBody rest).map fun (body, rest) => (c :: body, rest)

/-- The tag after an opening bracket: its content, and what follows the closing bracket. -/
def tag? (chars : List Char) : Option (List Char × List Char) :=
  match chars with
  | c :: rest =>
    if startsTag c then (tagBody rest).map fun (body, rest) => (c :: body, rest) else none
  | [] => none

/-- A piece of text with markup: a run of backslashes with the tag behind it, or one character that
    belongs to no tag. -/
inductive Piece
  | tag (slashes : Nat) (content : List Char)
  | plain (c : Char)
  deriving Repr, DecidableEq

/-- What follows a tag is shorter than the text that the tag begins. -/
theorem length_tagBody {chars body rest : List Char} (h : tagBody chars = some (body, rest)) :
    rest.length < chars.length := by
  induction chars generalizing body rest with
  | nil => simp [tagBody] at h
  | cons c chars ih =>
    unfold tagBody at h
    split at h
    · simp_all
    · rename_i heq
      simp only [List.cons.injEq] at heq
      obtain ⟨_, rfl⟩ := heq
      simp only [Option.some.injEq, Prod.mk.injEq] at h
      simp [← h.2]
    · simp at h
    · rename_i heq
      simp only [List.cons.injEq] at heq
      obtain ⟨_, rfl⟩ := heq
      simp only [Option.map_eq_some_iff, Prod.mk.injEq] at h
      obtain ⟨⟨b, r⟩, hb, _, rfl⟩ := h
      exact Nat.lt_succ_of_lt (ih hb)

/-- The reading of pieces goes on behind a tag, and therefore ends. -/
theorem length_tag? {chars content rest : List Char} (h : tag? chars = some (content, rest)) :
    rest.length < chars.length := by
  unfold tag? at h
  split at h
  · split at h
    · simp only [Option.map_eq_some_iff, Prod.mk.injEq] at h
      obtain ⟨⟨b, r⟩, hb, _, rfl⟩ := h
      exact Nat.lt_succ_of_lt (length_tagBody hb)
    · simp at h
  · simp at h

/-- Splits a text into pieces.  `slashes` counts the backslashes directly before. -/
def piecesFrom (slashes : Nat) (chars : List Char) : List Piece :=
  match chars with
  | [] => List.replicate slashes (.plain '\\')
  | '\\' :: rest => piecesFrom (slashes + 1) rest
  | '[' :: rest =>
    match h : tag? rest with
    | some (content, rest') => .tag slashes content :: piecesFrom 0 rest'
    | none => List.replicate slashes (.plain '\\') ++ .plain '[' :: piecesFrom 0 rest
  | c :: rest => List.replicate slashes (.plain '\\') ++ .plain c :: piecesFrom 0 rest
termination_by chars.length
decreasing_by
  · simp
  · have := length_tag? h
    simp only [List.length_cons]
    omega
  · simp
  · simp

/-- The pieces of a text. -/
def pieces (chars : List Char) : List Piece :=
  piecesFrom 0 chars

/-! ### Escaping -/

/-- A piece after escaping: the backslashes before a tag are doubled and one more is added. -/
def escapePiece : Piece → List Char
  -- An odd number of backslashes shows half of them and the tag itself.
  | .tag slashes content =>
    List.replicate (2 * slashes + 1) '\\' ++ '[' :: content ++ [']']
  | .plain c => [c]

/-- Whether a text ends in exactly one backslash. -/
def endsInOneBackslash (chars : List Char) : Bool :=
  match chars.reverse with
  | '\\' :: '\\' :: _ => false
  | '\\' :: _ => true
  | _ => false

/-- The text with everything escaped that would be read as a tag. -/
def escape (chars : List Char) : List Char :=
  let escaped := (pieces chars).flatMap escapePiece
  if endsInOneBackslash escaped then escaped ++ ['\\'] else escaped

/-! ### Rendering -/

/-- Text outside of tags: a backslash before an opening bracket vanishes. -/
def unescapeBrackets : List Char → List Char
  | '\\' :: '[' :: rest => '[' :: unescapeBrackets rest
  | c :: rest => c :: unescapeBrackets rest
  | [] => []

/-- What a tag with backslashes before it shows: every two backslashes show one, and an odd one
    shows the tag itself. -/
def renderTag (slashes : Nat) (content : List Char) : List Char :=
  List.replicate (slashes / 2) '\\' ++
    (if slashes % 2 = 1 then '[' :: content ++ [']'] else [])

/-- What a list of pieces shows.  `plain` holds the characters since the last tag, newest first. -/
def renderPieces (plain : List Char) : List Piece → List Char
  | [] => unescapeBrackets plain.reverse
  | .plain c :: rest => renderPieces (c :: plain) rest
  | .tag slashes content :: rest =>
    unescapeBrackets plain.reverse ++ renderTag slashes content ++ renderPieces [] rest

/-- Control characters that the console drops: bell, backspace, vertical tab, form feed and
    carriage return. -/
def isDropped (c : Char) : Bool :=
  c = '\x07' || c = '\x08' || c = '\x0b' || c = '\x0c' || c = '\r'

/-- What the console shows of a text with markup that has no codes for emoji. -/
def render (chars : List Char) : List Char :=
  (renderPieces [] (pieces chars)).filter fun c => !isDropped c

/-- What the console shows of a text that was escaped. -/
def shown (s : String) : List Char :=
  render (escape s.toList)

/-! ### Open and closed tags -/

/-- What keeps a text with markup from being shown. -/
inductive TagFault
  /-- A closing tag closes nothing. -/
  | unmatched (content : String) (position : Nat)
  | nothingOpen (position : Nat)
  /-- A number in a style cannot be read. -/
  | numeral (fault : NumeralFault)
  /-- The action of a tag cannot be read. -/
  | action (fault : ActionFault)
  deriving Repr, DecidableEq

/-- The text of a fault. -/
def TagFault.message : TagFault → String
  | unmatched content position =>
    s!"closing tag '[{content}]' at position {position} doesn't match any open tag"
  | nothingOpen position => s!"closing tag '[/]' at position {position} has nothing to close"
  | numeral fault => fault.message
  | action fault => fault.message

/-- A tag that is open: the name of its style, and what follows an equals sign. -/
structure OpenTag where
  name : String
  parameters : Option String := none
  deriving Repr, DecidableEq

/-- The content of a tag, divided at the first equals sign. -/
def divideTag (content : List Char) : List Char × Option String :=
  match content.dropWhile (· ≠ '=') with
  | _ :: parameters => (content.takeWhile (· ≠ '='), some (String.ofList parameters))
  | [] => (content, none)

/-- The name of a style in a tag. -/
def tagName (name : List Char) : Except TagFault String :=
  (styleName (String.ofList name)).mapError .numeral

/-- Checks a tag that is closed.  What follows the equals sign of a tag that begins with `@` is an
    action. -/
def checkClosed (closed : OpenTag) : Except TagFault Unit :=
  match closed.parameters with
  | some given =>
    if closed.name.toList.head? = some '@' then
      match Action.fault? given with
      | some fault => .error (.action fault)
      | none => .ok ()
    else .ok ()
  | none => .ok ()

/-- What one tag does to the tags that are open, the latest first.  A closing tag without a name
    closes the latest tag, and one with a name the latest tag of that name. -/
def applyTag (position : Nat) (opened : List OpenTag) (content : List Char) :
    Except TagFault (List OpenTag) := do
  match divideTag content with
  | ('/' :: name, _) =>
    if (trim name).isEmpty then
      match opened with
      | [] => throw (.nothingOpen position)
      | closed :: opened =>
        checkClosed closed
        return opened
    else
      let name ← tagName (trim name)
      match opened.find? (·.name = name) with
      | none => throw (.unmatched (String.ofList content) position)
      | some closed =>
        checkClosed closed
        return opened.erase closed
  -- Any other tag opens, whether its name is known or not.
  | (name, parameters) => return { name := ← tagName name, parameters } :: opened

/-- The first fault in a list of pieces, which begins at a position of the text. -/
def faultFrom (position : Nat) (opened : List OpenTag) : List Piece → Option TagFault
  | [] => none
  | .plain _ :: rest => faultFrom (position + 1) opened rest
  | .tag slashes content :: rest =>
    let next := position + slashes + content.length + 2
    -- An odd number of backslashes makes the tag plain text.
    if slashes % 2 = 1 then faultFrom next opened rest
    else
      match applyTag (position + slashes) opened content with
      | .ok opened => faultFrom next opened rest
      | .error fault => some fault

/-- The first fault that shows when the tags of a text are read. -/
def tagFault? (markup : String) : Option TagFault :=
  faultFrom 0 [] (pieces markup.toList)

/-- What is wrong with the style of a tag and its parameters. -/
def pieceFault? : Piece → Option TagFault
  | .plain _ => none
  | .tag slashes content =>
    match divideTag content with
    | (name, some parameters) =>
      if slashes % 2 = 1 then none
      else
        match (tagName name).map fun name => TextStyle.read (name ++ " " ++ parameters) with
        -- A name that is no style is passed over, but not a number that cannot be read.
        | .ok (.error fault) => fault.numeral?.map .numeral
        | _ => none
    | _ => none

/-- The first fault that only shows when the text is laid out. -/
def layoutFault? (markup : String) : Option TagFault :=
  (pieces markup.toList).findSome? pieceFault?

@[simp]
theorem escape_nil : escape [] = [] := by
  simp [escape, pieces, piecesFrom, endsInOneBackslash]

end ElfInspect.Markup
