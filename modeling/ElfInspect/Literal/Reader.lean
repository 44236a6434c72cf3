import ElfInspect.Literal.Grammar
import Std.Data.HashMap

namespace ElfInspect.Literal

/-!
# Reading literals

A text is read by the grammar from left to right.  Tokens are looked at one after another, so a
text that cannot be divided into tokens is only at fault there if the reader gets that far.

* `parseRule`: what a rule makes of the tokens at a place;
* `read`: the expression of a text;
* `fault?`: what is wrong with a text as a literal.
-/

/-- What a reader works on. -/
structure Source where
  tokens : Array Token
  ending : Ending
  /-- Whether the rules are tried that tell what is wrong. -/
  explaining : Bool := false

/-- What a reader remembers: the results of rules at places, and the number of tokens that it has
    looked at. -/
structure Progress where
  kept : Std.HashMap (Rule × Nat) (Option (Expr × Nat)) := {}
  seen : Nat := 0

/-- Reading stops at the first fault. -/
abbrev Read := StateT Progress (Except Fault)

/-- What comes of an alternative.  Behind a cut no other one is tried. -/
inductive Fit
  | fits (elements : List Expr) (place : Nat)
  | fails
  | failsForGood

/-- The fault of who gets to the end of the tokens. -/
def Ending.fault : Ending → Fault
  | .complete => .malformed
  | .unclosed bracket _ => .neverClosed bracket
  | .broken fault => fault
  | .stopped fault => fault

/-- The token at a place. -/
def Source.look (source : Source) (place : Nat) : Read Token := do
  modify fun p => { p with seen := max p.seen (place + 1) }
  match source.tokens[place]? with
  | some token => return token
  | none => throw source.ending.fault

/-- The number of brackets that are open behind the token before a place. -/
def Source.depthBefore (source : Source) (place : Nat) : Nat :=
  ((source.tokens[place - 1]?).map (·.depth)).getD 0

/-- The token at a place as an expression, if it satisfies a condition. -/
def Source.takeIf (source : Source) (place : Nat) (accept : TokenKind → Option Expr) :
    Read (Option (Expr × Nat)) := do
  let token ← source.look place
  return (accept token.kind).map (·, place + 1)

/-- The number at a place. -/
def Source.takeNumber (source : Source) (place : Nat) : Read (Option (Expr × Nat)) := do
  match (← source.look place).kind with
  | .number _ (some fault) => throw (.numeral fault)
  | .number imaginary none => return some (.number imaginary, place + 1)
  | _ => return none

mutual

/-- What a rule makes of the tokens at a place.  Here as below, `fuel` bounds the depth. -/
def parseRule (source : Source) : (fuel : Nat) → Rule → Nat → Read (Option (Expr × Nat))
  | 0, _, _ => return none
  | fuel + 1, r, place => do
    if r.isKept then
      if let some found := (← get).kept[(r, place)]? then return found
    -- Within this rule nothing is explained, so that other faults come first.
    let source := if r = .calmExpression then { source with explaining := false } else source
    let found ← parseProductions source fuel (grammar r) place
    if r.isKept then modify fun p => { p with kept := p.kept.insert (r, place) found }
    return found

/-- What the first alternative that fits makes of the tokens at a place. -/
def parseProductions (source : Source) :
    (fuel : Nat) → List Production → Nat → Read (Option (Expr × Nat))
  | 0, _, _ => return none
  | _, [], _ => return none
  | fuel + 1, a :: rest, place => do
    -- The alternatives that explain are left out at first.
    if a.explains && !source.explaining then parseProductions source fuel rest place
    else
      match ← parseElements source fuel a.elements place with
      | .fails => parseProductions source fuel rest place
      | .failsForGood => return none
      | .fits es place =>
        match a.build (source.depthBefore place) es with
        | .error fault => throw fault
        | .ok made => return made.map (·, place)

/-- What comes of the elements of an alternative. -/
def parseElements (source : Source) : (fuel : Nat) → List Element → Nat → Read Fit
  | 0, _, _ => return .fails
  | _, [], place => return .fits [] place
  | fuel + 1, .cut :: rest, place => do
    match ← parseElements source fuel rest place with
    | .fails => return .failsForGood
    | fit => return fit
  | fuel + 1, .ahead wanted choices :: rest, place => do
    let found ← parseChoice source fuel choices place
    -- The tokens that have been looked at stay where they are.
    if found.isSome = wanted then parseElements source fuel rest place else return .fails
  | fuel + 1, element :: rest, place => do
    match ← parseElement source fuel element place with
    | none => return .fails
    | some (e, place) =>
      match ← parseElements source fuel rest place with
      | .fits es place => return .fits (e :: es) place
      | fit => return fit

/-- What one element makes of the tokens at a place. -/
def parseElement (source : Source) : (fuel : Nat) → Element → Nat → Read (Option (Expr × Nat))
  | 0, _, _ => return none
  | fuel + 1, element, place =>
    match element with
    | .name => source.takeIf place fun
      | .name text => some (.name text)
      | _ => none
    | .number => source.takeNumber place
    | .quoted => source.takeIf place fun
      | .quoted q => some (.token (.quoted q))
      | _ => none
    | .lineEnd => source.takeIf place fun kind => if kind = .lineEnd then some .absent else none
    | .finish => source.takeIf place fun kind => if kind = .finish then some .absent else none
    | .softWord => source.takeIf place fun
      | .name text => if ["_", "case", "match"].contains text then some (.name text) else none
      | _ => none
    | .mark text => source.takeIf place fun kind =>
      if kind = .mark text then some (.token kind) else none
    | .rule r => parseRule source fuel r place
    | .choice choices => parseChoice source fuel choices place
    | .optional choices => do
      return ((← parseChoice source fuel choices place).orElse fun _ => some (.absent, place))
    | .many least choices => do
      let (es, place) ← parseMany source fuel choices place
      return if es.length < least then none else some (.elements es, place)
    | .separated text choices => do
      match ← parseChoice source fuel choices place with
      | none => return none
      | some (first, place) =>
        let more := [.mark text, .choice choices]
        let (es, place) ← parseMany source fuel [more] place
        return some (.elements (first :: es.map Expr.last), place)
    | .ahead .. | .cut => return some (.absent, place)

/-- What the first choice that fits makes of the tokens at a place: its element, or all of them if
    there are several. -/
def parseChoice (source : Source) :
    (fuel : Nat) → List (List Element) → Nat → Read (Option (Expr × Nat))
  | 0, _, _ => return none
  | _, [], _ => return none
  | fuel + 1, elements :: rest, place => do
    match ← parseElements source fuel elements place with
    | .fits [e] place => return some (e, place)
    | .fits es place => return some (.elements es, place)
    | _ => parseChoice source fuel rest place

/-- What choices make of the tokens at a place as often as they fit. -/
def parseMany (source : Source) : (fuel : Nat) → List (List Element) → Nat → Read (List Expr × Nat)
  | 0, _, place => return ([], place)
  | fuel + 1, choices, place => do
    match ← parseChoice source fuel choices place with
    | none => return ([], place)
    | some (e, place) =>
      let (es, place) ← parseMany source fuel choices place
      return (e :: es, place)

end

/-- How deep reading may go for a number of tokens. -/
def readingDepth (tokens : Nat) : Nat :=
  200 * (tokens + 4)

/-- What the whole grammar makes of some tokens. -/
def Source.run (source : Source) : Except Fault (Option Expr × Nat) := do
  let (found, progress) ← (parseRule source (readingDepth source.tokens.size) .whole 0).run {}
  return (found.map (·.1), progress.seen)

/-- The fault that is reported in place of another one that shows in some line: a text that cannot
    be divided into tokens is worse than tokens that do not go together. -/
def Ending.overrule (ending : Ending) (line : Nat) (fault : Fault) : Fault :=
  match ending with
  | .broken worse => worse
  | .unclosed bracket opened => if opened < line then .neverClosed bracket else fault
  | _ => fault

/-- The line of the last of a number of tokens. -/
def Source.lineOf (source : Source) (seen : Nat) : Nat :=
  ((source.tokens[min seen source.tokens.size - 1]?).map (·.line)).getD 1

/-- The expression of a text. -/
def read (text : String) : Except Fault Expr :=
  let (tokens, ending) := scan text
  let source : Source := { tokens, ending }
  let last := source.lineOf tokens.size
  match source.run with
  | .error fault => .error (ending.overrule last fault)
  | .ok (some e, _) => .ok e
  | .ok (none, seen) =>
    -- Only now is it asked what is wrong, from the start and with nothing remembered.
    match { source with explaining := true }.run with
    | .error fault => .error (ending.overrule last fault)
    | .ok _ =>
      let isIndent := (tokens[seen - 1]?).any fun t => t.kind = .indent
      .error (if isIndent then .unexpectedIndent
        else ending.overrule (source.lineOf seen) .malformed)

/-- What is wrong with a text as a literal. -/
def fault? (text : String) : Option Fault :=
  let found : Except Fault Unit := do
    -- This is noticed before the text is divided.
    if text.toList.contains '\x00' then throw .zeroCharacter
    (← read text).check
  match found with
  | .ok _ => none
  | .error fault => some fault

end ElfInspect.Literal
