import ElfInspect.Literal.Reader
import ElfInspect.Text.Blank

namespace ElfInspect

/-!
# Actions

An action is written as the name of a handler with its arguments in brackets behind it.  A name
alone has no arguments, and arguments alone have no handler.  The arguments are a literal.

* `Action.arguments`: the arguments in the text of an action;
* `Action.fault?`: what is wrong with the text of an action.
-/

/-- What is wrong with an action: its text, the arguments in it, and what is wrong with them. -/
structure ActionFault where
  given : String
  arguments : String
  cause : Literal.Fault
  deriving Repr, DecidableEq

/-- The text of a fault.  The arguments are only shown if they cannot be read. -/
def ActionFault.message (f : ActionFault) : String :=
  let shown := if f.cause.isOfReading then quoteText f.arguments ++ " in " ++ quoteText f.given
    else quoteText f.given
  "error parsing " ++ shown ++ "; " ++ f.cause.message

namespace Action

/-- The arguments in the text of an action.  A text that is no call is all arguments. -/
def arguments (given : String) : String :=
  let text := trim given.toList
  let call := text.dropWhile fun c => isWordChar c || c = '.'
  -- A name alone stands for a call without arguments.
  if call.isEmpty then "()"
  else if call.head? = some '(' ∧ call.getLast? = some ')' ∧ !call.contains '\n' then
    String.ofList call
  else String.ofList text

/-- What is wrong with the text of an action.  An empty text is no action. -/
def fault? (given : String) : Option ActionFault :=
  if given.isEmpty then none
  else
    let arguments := arguments given
    (Literal.fault? arguments).map fun cause => { given, arguments, cause }

@[simp]
theorem fault?_empty : fault? "" = none := rfl

end Action

end ElfInspect
