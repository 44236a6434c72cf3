import ElfInspect.Literal.Expr

namespace ElfInspect.Literal

/-!
# The grammar of expressions

The grammar is a list of alternatives for each rule, of which the first that fits is taken.  Some
rules are only there to tell what is wrong with a text that does not fit: they are tried when it is
known that nothing fits.

* `Rule`: the rules;
* `Element`, `Production`: what an alternative consists of, and what is made of it;
* `grammar`: the alternatives of each rule.
-/

/-- The rules.  The name of one that tells what is wrong begins with `wrong`. -/
inductive Rule
  | whole | expressions | expression | calmExpression | functionExpression | functionParameters
  | yieldExpression | starExpressions | starExpression | starNamedExpressions
  | starNamedExpression | assignmentExpression | namedExpression
  | disjunction | conjunction | inversion | comparison
  | bitwiseOr | bitwiseXor | bitwiseAnd | shift | sum | term | factor | power | awaited | primary
  | atom | quotedTexts | group | tuple | generator | set | table | setComprehension
  | tableComprehension | entries | entry | pair
  | clauses | clause | targets | target | plainTarget | targetAtom | targetTuple | targetPrimary
  | arguments | argumentList | keywordArguments | starredExpression | keywordOrStarred
  | keywordOrDoubleStarred
  | wrongExpression | wrongCall | wrongNamedExpression | wrongGroup | wrongComprehension
  | wrongTableComprehension | wrongEntries | wrongPair | wrongTarget | wrongArguments
  | wrongKeyword
  deriving Repr, DecidableEq, Hashable

/-- The rules whose results are kept, so that they are tried only once at each place. -/
def Rule.isKept : Rule → Bool
  | .expression | .starExpression | .disjunction | .conjunction | .inversion | .bitwiseOr
  | .bitwiseXor | .bitwiseAnd | .shift | .sum | .term | .factor | .awaited | .primary
  | .quotedTexts | .target | .plainTarget | .targetPrimary | .arguments
  | .wrongNamedExpression => true
  | _ => false

/-- An element of an alternative. -/
inductive Element
  | name
  | number
  | quoted
  | lineEnd
  | finish
  /-- A name with a special meaning elsewhere. -/
  | softWord
  | mark (text : String)
  | rule (r : Rule)
  | choice (choices : List (List Element))
  | optional (choices : List (List Element))
  | many (least : Nat) (choices : List (List Element))
  /-- One or more, with a mark between them. -/
  | separated (mark : String) (choices : List (List Element))
  /-- Something that must follow, or must not, but is not taken. -/
  | ahead (wanted : Bool) (choices : List (List Element))
  /-- Behind it no other alternative is tried. -/
  | cut

/-- An alternative of a rule.  What is made of its elements depends also on the number of brackets
    that are open behind the last token.  If nothing is made of them the rule does not fit. -/
structure Production where
  elements : List Element
  explains : Bool := false
  build : (depth : Nat) → List Expr → Except Fault (Option Expr)

namespace Production

/-- An alternative from whose elements an expression is made. -/
def makes (elements : List Element) (build : List Expr → Expr) : Production :=
  { elements, build := fun _ es => .ok (some (build es)) }

/-- An alternative for which its first element stands. -/
def passes (elements : List Element) : Production :=
  makes elements (·.headD .absent)

/-- An alternative that tells what is wrong. -/
def tells (elements : List Element) (fault : List Expr → Option Fault) : Production :=
  { elements, build := fun _ es => match fault es with
      | some fault => .error fault
      | none => .ok none }

/-- A rule that is only there to tell what is wrong. -/
def explained (elements : List Element) : Production :=
  { passes elements with explains := true }

end Production

open Production Element

/-! ### Building expressions -/

/-- A row of items: the first, and the last part of each repetition behind it. -/
def rowItems (first more : Expr) : List Expr :=
  first :: more.items.map Expr.last

/-- An expression followed by operators and operands. -/
def chained (operands : List Expr) : Expr :=
  match operands with
  | first :: more :: _ => if more.items.isEmpty then first else .other "expression"
  | [first] => first
  | [] => .absent

/-- Sums, from the left to the right. -/
def summed (operands : List Expr) : Expr :=
  match operands with
  | first :: more :: _ => (more.items.map Expr.last).foldl .sum first
  | [first] => first
  | [] => .absent

/-- An atom followed by accesses and calls. -/
def accessed (atom : Expr) (trailers : List Expr) : Expr :=
  trailers.foldl (fun e trailer =>
    match trailer with
    | .elements [.token (.mark "."), _] => .other "attribute"
    | .elements [.token (.mark "("), .absent, _] => .call e true
    | _ => .call e false) atom

/-- The kind of an item at an index of a row, as messages call it. -/
def whatAt (es : List Expr) (i : Nat) : String :=
  (es.getD i .absent).what

/-- The text of a name. -/
def nameOf : Expr → String
  | .name text => text
  | _ => ""

/-- Whether a name is that of an old statement. -/
def isOldStatement (e : Expr) : Bool :=
  ["print", "exec"].contains (nameOf e)

/-- The items of an argument list.  Named ones are pairs, unpacked tables are starred twice. -/
def argumentItems (es : List Expr) : List Expr :=
  es.flatMap fun e =>
    match e with
    | .elements items => items
    | e => [e]

/-- Whether an argument is a positional one. -/
def isPositional : Expr → Bool
  | .pair .. => false
  | .starred (.starred _) => false
  | _ => true

/-- Whether an argument unpacks a table. -/
def unpacksTable : Expr → Bool
  | .starred (.starred _) => true
  | _ => false

/-! ### Parts that occur often -/

/-- A list with commas between its items. -/
def listOf (choices : List (List Element)) : Element :=
  separated "," choices

/-- A positional argument. -/
def argument : Element :=
  choice [[rule .starredExpression],
    [choice [[rule .assignmentExpression], [rule .expression, ahead false [[mark ":="]]]],
      ahead false [[mark "="]]]]

/-- Operands with one of some operators between them. -/
def operands (operators : List String) (operand : Rule) : List Element :=
  [rule operand, many 0 (operators.map fun o => [mark o, rule operand])]

/-- An operator and the operand behind it. -/
def compared (operators : List String) : List Element :=
  operators.map mark ++ [rule .bitwiseOr]

/-- What may follow an expression on the left of an assignment that was meant as a comparison. -/
def noAssignment : Element :=
  ahead false [[mark "="], [mark ":="]]

/-- What access to a target is followed by. -/
def accessAhead (wanted : Bool) : Element :=
  ahead wanted [[mark "("], [mark "["], [mark "."]]

/-! ### Rules -/

/-- The rules for operators. -/
def operatorRules : Rule → List Production
  | .disjunction =>
    [makes [rule .conjunction, many 1 [[mark "or", rule .conjunction]]]
        (fun _ => .other "expression"),
     passes [rule .conjunction]]
  | .conjunction =>
    [makes [rule .inversion, many 1 [[mark "and", rule .inversion]]]
        (fun _ => .other "expression"),
     passes [rule .inversion]]
  | .inversion =>
    [makes [mark "not", rule .inversion] (fun _ => .other "expression"),
     passes [rule .comparison]]
  -- What is kept is whether the operator is `in`, which may have been meant for a loop.
  | .comparison =>
    [makes [rule .bitwiseOr, many 1
        [compared ["=="], compared ["!="], compared ["<="], compared ["<"], compared [">="],
         compared [">"], compared ["not", "in"], compared ["in"], compared ["is", "not"],
         compared ["is"]]]
        (fun
          | [left, .elements (.elements (.token (.mark "in") :: _) :: _)] => .comparison left true
          | left :: _ => .comparison left false
          | [] => .absent),
     passes [rule .bitwiseOr]]
  | .bitwiseOr => [makes (operands ["|"] .bitwiseXor) chained]
  | .bitwiseXor => [makes (operands ["^"] .bitwiseAnd) chained]
  | .bitwiseAnd => [makes (operands ["&"] .shift) chained]
  | .shift => [makes (operands ["<<", ">>"] .sum) chained]
  | .sum => [makes (operands ["+", "-"] .term) summed]
  | .term => [makes (operands ["*", "/", "//", "%", "@"] .factor) chained]
  | .factor =>
    [makes [mark "+", rule .factor] (fun es => .sign (es.getD 1 .absent)),
     makes [mark "-", rule .factor] (fun es => .sign (es.getD 1 .absent)),
     makes [mark "~", rule .factor] (fun _ => .other "expression"),
     passes [rule .power]]
  | .power =>
    [makes [rule .awaited, mark "**", rule .factor] (fun _ => .other "expression"),
     passes [rule .awaited]]
  | .awaited =>
    [makes [mark "await", rule .primary] (fun _ => .other "await expression"),
     passes [rule .primary]]
  | .primary =>
    [makes [rule .atom, many 0
        [[mark ".", name], [rule .generator],
         [mark "(", optional [[rule .arguments]], mark ")"]]]
        (fun
          | [atom, trailers] => accessed atom trailers.items
          | es => es.headD .absent)]
  | _ => []

/-- The rules for what stands in brackets and for what takes no operator. -/
def atomRules : Rule → List Production
  | .atom =>
    [passes [name],
     makes [mark "True"] (fun _ => .constant "True"),
     makes [mark "False"] (fun _ => .constant "False"),
     makes [mark "None"] (fun _ => .constant "None"),
     passes [ahead true [[quoted]], rule .quotedTexts],
     passes [number],
     passes [ahead true [[mark "("]], choice [[rule .tuple], [rule .group], [rule .generator]]],
     passes [ahead true [[mark "\x7b"]],
       choice [[rule .table], [rule .set], [rule .tableComprehension], [rule .setComprehension]]],
     makes [mark "..."] (fun _ => .constant "ellipsis")]
  | .quotedTexts =>
    [{ elements := [many 1 [[quoted]]]
       build := fun _ es => (Expr.ofQuoted ((es.headD .absent).items.filterMap fun
         | .token (.quoted q) => some q
         | _ => none)).map some }]
  | .group =>
    [makes [mark "(", choice [[rule .yieldExpression], [rule .namedExpression]], mark ")"]
        (·.getD 1 .absent),
     explained [rule .wrongGroup]]
  -- A group with one item and no comma is no tuple.
  | .tuple =>
    [makes [mark "(",
        optional [[rule .starNamedExpression, mark ",", optional [[rule .starNamedExpressions]]]],
        mark ")"]
        (fun es => .tuple (match es.getD 1 .absent with
          | .elements [first, _, rest] => first :: rest.items
          | _ => []))]
  | .generator =>
    [makes [mark "(",
        choice [[rule .assignmentExpression], [rule .expression, ahead false [[mark ":="]]]],
        rule .clauses, mark ")"]
        (fun _ => .other "generator expression"),
     explained [rule .wrongComprehension]]
  | .set =>
    [makes [mark "\x7b", rule .starNamedExpressions, mark "\x7d"]
        (fun es => .set (es.getD 1 .absent).items)]
  | .table =>
    [makes [mark "\x7b", optional [[rule .entries]], mark "\x7d"]
        (fun es => .table (es.getD 1 .absent).items),
     passes [mark "\x7b", rule .wrongEntries, mark "\x7d"]]
  | .setComprehension =>
    [makes [mark "\x7b", rule .namedExpression, rule .clauses, mark "\x7d"]
        (fun _ => .other "set comprehension"),
     explained [rule .wrongComprehension]]
  | .tableComprehension =>
    [makes [mark "\x7b", rule .pair, rule .clauses, mark "\x7d"]
        (fun _ => .other "dict comprehension"),
     explained [rule .wrongTableComprehension]]
  | .entries => [passes [listOf [[rule .entry]], optional [[mark ","]]]]
  | .entry =>
    [makes [mark "**", rule .bitwiseOr] (fun es => .pair .absent (es.getD 1 .absent)),
     passes [rule .pair]]
  | .pair =>
    [makes [rule .expression, mark ":", rule .expression]
        (fun es => .pair (es.getD 0 .absent) (es.getD 2 .absent))]
  | _ => []

/-- The rules for calls and comprehensions. -/
def callRules : Rule → List Production
  | .clauses => [passes [many 1 [[rule .clause]]]]
  | .clause =>
    [passes [mark "async", mark "for", rule .targets, mark "in", cut, rule .disjunction,
        many 0 [[mark "if", rule .disjunction]]],
     passes [mark "for", rule .targets, mark "in", cut, rule .disjunction,
        many 0 [[mark "if", rule .disjunction]]],
     explained [rule .wrongTarget]]
  | .targets =>
    [passes [rule .target, ahead false [[mark ","]]],
     passes [rule .target, many 0 [[mark ",", rule .target]], optional [[mark ","]]]]
  | .target =>
    [passes [mark "*", ahead false [[mark "*"]], rule .target],
     passes [rule .plainTarget]]
  | .plainTarget =>
    [passes [rule .targetPrimary, mark ".", name, accessAhead false],
     passes [rule .targetAtom]]
  | .targetAtom =>
    [passes [name],
     passes [mark "(", rule .plainTarget, mark ")"],
     passes [mark "(", optional [[rule .targetTuple]], mark ")"]]
  | .targetTuple =>
    [passes [rule .target, many 1 [[mark ",", rule .target]], optional [[mark ","]]],
     passes [rule .target, mark ","]]
  | .targetPrimary =>
    [passes [rule .atom, accessAhead true, many 0
        [[mark ".", name, accessAhead true], [rule .generator, accessAhead true],
         [mark "(", optional [[rule .arguments]], mark ")", accessAhead true]]]]
  | .arguments =>
    [passes [rule .argumentList, optional [[mark ","]], ahead true [[mark ")"]]],
     explained [rule .wrongArguments]]
  | .argumentList =>
    [makes [listOf [[argument]], optional [[mark ",", rule .keywordArguments]]]
        (fun
          | [first, .elements [_, more]] => .elements (first.items ++ argumentItems more.items)
          | es => es.headD .absent),
     makes [rule .keywordArguments] (fun es => .elements (argumentItems (es.headD .absent).items))]
  | .keywordArguments =>
    [makes [listOf [[rule .keywordOrStarred]], mark ",", listOf [[rule .keywordOrDoubleStarred]]]
        (fun es => .elements ((es.getD 0 .absent).items ++ (es.getD 2 .absent).items)),
     passes [listOf [[rule .keywordOrStarred]]],
     passes [listOf [[rule .keywordOrDoubleStarred]]]]
  | .starredExpression =>
    [makes [mark "*", rule .expression] (fun es => .starred (es.getD 1 .absent)),
     tells [mark "*"] (fun _ => some .loneStar)]
  | .keywordOrStarred =>
    [explained [rule .wrongKeyword],
     makes [name, mark "=", rule .expression]
        (fun es => .pair (es.getD 0 .absent) (es.getD 2 .absent)),
     passes [rule .starredExpression]]
  | .keywordOrDoubleStarred =>
    [explained [rule .wrongKeyword],
     makes [name, mark "=", rule .expression]
        (fun es => .pair (es.getD 0 .absent) (es.getD 2 .absent)),
     makes [mark "**", rule .expression] (fun es => .starred (.starred (es.getD 1 .absent)))]
  | _ => []

/-- The rules that tell what is wrong with an expression. -/
def wrongExpressionRules : Rule → List Production
  | .wrongExpression =>
    [{ elements :=
         [ahead false [[name, quoted], [softWord]], rule .disjunction, rule .calmExpression]
       build := fun depth es =>
         if isOldStatement (es.headD .absent) || depth = 0 then .ok none
         else .error .missingComma },
     tells [rule .disjunction, mark "if", rule .disjunction,
        ahead false [[mark "else"], [mark ":"]]] (fun _ => some .missingElse)]
  | .wrongCall =>
    [tells [name, ahead false [[mark "("]], rule .starExpressions] (fun es =>
        let name := es.headD .absent
        if isOldStatement name then some (.missingBrackets (nameOf name)) else none)]
  | .wrongNamedExpression =>
    [tells [rule .expression, mark ":=", rule .expression]
        (fun es => some (.notNamed (whatAt es 0))),
     tells [name, mark "=", rule .bitwiseOr, noAssignment] (fun _ => some .assignmentMeant),
     tells [ahead false [[rule .tuple], [rule .generator], [mark "True"], [mark "None"],
          [mark "False"]], rule .bitwiseOr, mark "=", rule .bitwiseOr, noAssignment]
        (fun es => some (.notAssignableHere (whatAt es 0)))]
  | .wrongGroup =>
    [tells [mark "(", rule .starredExpression, mark ")"] (fun _ => some (.bareStar false)),
     tells [mark "(", mark "**", rule .expression, mark ")"] (fun _ => some (.bareStar true))]
  | .wrongTarget =>
    [tells [optional [[mark "async"]], mark "for", rule .starExpressions] (fun es =>
        (Expr.wrongTarget? (es.getD 2 .absent)).map fun e => .notAssignable e.what)]
  | _ => []

/-- The rules that tell what is wrong with a comprehension, a table or a call. -/
def wrongBracketRules : Rule → List Production
  | .wrongComprehension =>
    [tells [choice [[mark "["], [mark "("], [mark "\x7b"]], rule .starredExpression, rule .clauses]
        (fun _ => some .starInComprehension),
     tells [choice [[mark "["], [mark "\x7b"]], rule .starNamedExpression, mark ",",
        rule .starNamedExpressions, rule .clauses] (fun _ => some .bareTarget),
     tells [choice [[mark "["], [mark "\x7b"]], rule .starNamedExpression, mark ",",
        rule .clauses] (fun _ => some .bareTarget)]
  | .wrongTableComprehension =>
    [tells [mark "\x7b", mark "**", rule .bitwiseOr, rule .clauses, mark "\x7d"]
        (fun _ => some .tableInComprehension)]
  | .wrongEntries =>
    [passes [listOf [[rule .entry]], mark ",", rule .wrongPair],
     tells [rule .expression, mark ":", mark "*", rule .bitwiseOr] (fun _ => some .starredValue),
     tells [rule .expression, mark ":", ahead true [[mark "\x7d"], [mark ","]]]
        (fun _ => some .missingValue)]
  | .wrongPair =>
    [tells [rule .expression, ahead false [[mark ":"]]] (fun _ => some .missingColon),
     tells [rule .expression, mark ":", mark "*", rule .bitwiseOr] (fun _ => some .starredValue),
     tells [rule .expression, mark ":", ahead true [[mark "\x7d"], [mark ","]]]
        (fun _ => some .missingValue)]
  | .wrongArguments =>
    [tells [choice [[listOf [[argument]], mark ",", rule .keywordArguments],
          [rule .keywordArguments]], mark ",",
          listOf [[rule .starredExpression, ahead false [[mark "="]]]]]
        (fun _ => some .starAfterKeyword),
     tells [rule .expression, rule .clauses, mark ",",
        optional [[rule .argumentList], [rule .expression, rule .clauses]]]
        (fun _ => some .bareGenerator),
     tells [name, mark "=", rule .expression, rule .clauses] (fun _ => some .assignmentMeant),
     tells [rule .argumentList, rule .clauses] (fun es =>
        if ((es.headD .absent).items.filter isPositional).length ≤ 1 then none
        else some .bareGenerator),
     tells [rule .argumentList, mark ",", rule .expression, rule .clauses]
        (fun _ => some .bareGenerator),
     tells [rule .argumentList, mark ",", rule .argumentList] (fun es =>
        some (.positionalAfterKeyword ((es.headD .absent).items.any unpacksTable)))]
  | .wrongKeyword =>
    [tells [choice [[mark "True"], [mark "False"], [mark "None"]], mark "="] (fun es =>
        match es.headD .absent with
        | .token (.mark word) => some (.notAssignable word)
        | _ => none),
     tells [name, mark "=", rule .expression, rule .clauses] (fun _ => some .assignmentMeant),
     tells [ahead false [[name, mark "="]], rule .expression, mark "="]
        (fun _ => some .assignmentInside)]
  | _ => []

/-- A tuple of expressions without brackets. -/
def bareTuple (item : Rule) : List Production :=
  [makes [rule item, many 1 [[mark ",", rule item]], optional [[mark ","]]]
      (fun es => .tuple (rowItems (es.getD 0 .absent) (es.getD 1 .absent))),
   makes [rule item, mark ","] (fun es => .tuple [es.headD .absent]),
   passes [rule item]]

/-- A condition between two values. -/
def conditional : Production :=
  makes [rule .disjunction, mark "if", rule .disjunction, mark "else", rule .expression]
    (fun _ => .other "conditional expression")

/-- The alternatives of each rule. -/
def grammar : Rule → List Production
  | .whole => [passes [rule .expressions, many 0 [[lineEnd]], finish]]
  | .expressions => bareTuple .expression
  | .expression =>
    [explained [rule .wrongExpression], explained [rule .wrongCall], conditional,
     passes [rule .disjunction], passes [rule .functionExpression]]
  | .calmExpression =>
    [conditional, passes [rule .disjunction], passes [rule .functionExpression]]
  | .functionExpression =>
    [makes [mark "lambda", optional [[rule .functionParameters]], mark ":", rule .expression]
        (fun _ => .other "lambda")]
  | .functionParameters =>
    [passes [listOf [[mark "**", name], [mark "*", optional [[name]]], [mark "/"],
        [name, optional [[mark "=", rule .expression]]]], optional [[mark ","]]]]
  | .yieldExpression =>
    [makes [mark "yield", mark "from", rule .expression] (fun _ => .other "yield expression"),
     makes [mark "yield", optional [[rule .starExpressions]]]
        (fun _ => .other "yield expression")]
  | .starExpressions => bareTuple .starExpression
  | .starExpression =>
    [makes [mark "*", rule .bitwiseOr] (fun es => .starred (es.getD 1 .absent)),
     passes [rule .expression]]
  | .starNamedExpressions => [passes [listOf [[rule .starNamedExpression]], optional [[mark ","]]]]
  | .starNamedExpression =>
    [makes [mark "*", rule .bitwiseOr] (fun es => .starred (es.getD 1 .absent)),
     passes [rule .namedExpression]]
  | .assignmentExpression =>
    [makes [name, mark ":=", cut, rule .expression] (fun _ => .other "named expression")]
  | .namedExpression =>
    [passes [rule .assignmentExpression], explained [rule .wrongNamedExpression],
     passes [rule .expression, ahead false [[mark ":="]]]]
  | r =>
    operatorRules r ++ atomRules r ++ callRules r ++ wrongExpressionRules r ++ wrongBracketRules r

end ElfInspect.Literal
