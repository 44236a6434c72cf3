import ElfInspect.Table

namespace ElfInspect

/-!
# The console

What is shown to a reader is a list of console calls: section titles, messages and tables.  The
texts in them are shown as they are, as far as `Markup.shown` allows.

* `ConsoleCall`: one call;
* `ConsoleCall.render`: the plain text that a call puts on a console of a given width;
* `ConsoleCall.fault?`: what keeps a call from being shown.
-/

/-- The kinds of messages. -/
inductive MessageKind
  | success
  | warning
  | error
  | info
  deriving Repr, DecidableEq

/-- What stands before a message. -/
def MessageKind.label : MessageKind → String
  | .success => "[✔] SUCCESS: "
  | .warning => "[⚠] WARNING: "
  | .error => "[✘] ERROR: "
  | .info => "[ℹ] INFO: "

/-- One call on the console.  Only `print` takes text with markup. -/
inductive ConsoleCall
  | heading (title : String)
  | message (kind : MessageKind) (text : String)
  | table (t : Table)
  | print (markup : String)
  | blank (count : Nat)
  deriving Repr, DecidableEq

/-! ### Lines -/

/-- A title as it stands in a line: two blanks on each side, in one line, and cut short with an
    ellipsis where it is wider than `most`. -/
def headingTitle (most : Nat) (title : List Char) : List Char :=
  let line := (blanks 2 ++ title ++ blanks 2).map fun c => if c = '\n' then ' ' else c
  truncateLine most .ellipsis (expandTabs line)

/-- A line with a title in its middle.  A console that is too narrow for a title shows the line
    alone. -/
def headingLine (width : Nat) (title : List Char) : List Char :=
  -- A blank and one piece of the line on each side are the least.
  if width ≤ 4 then List.replicate width '─'
  else
    let title := headingTitle (width - 4) title
    let side := (width - textColumns title) / 2
    let before := List.replicate (side - 1) '─' ++ ' ' :: title ++ [' ']
    before ++ List.replicate (width - textColumns before) '─'

/-- The lines of a text on a console of a given width. -/
def textLines (width : Nat) (text : List Char) : List (List Char) :=
  (wrap width .fold text).map (truncateLine width .fold)

/-- The lines that a call puts on a console of a given width. -/
def ConsoleCall.lines (width : Nat) : ConsoleCall → List (List Char)
  | .heading title => [headingLine width (Markup.shown title), []]
  | .message kind text => textLines width (kind.label.toList ++ Markup.shown text)
  | .table t => (t.lines width).map (cropColumns width)
  | .print markup => textLines width (Markup.render markup.toList)
  | .blank count => List.replicate count []

/-- The text that a call puts on a console of a given width.  On a console without width nothing
    is shown. -/
def ConsoleCall.render (width : Nat) (call : ConsoleCall) : String :=
  if width = 0 then ""
  else String.ofList ((call.lines width).flatMap fun line => line ++ ['\n'])

/-- The text that calls put on a console, one after another.  A quiet console stays empty. -/
def renderCalls (width : Nat) (quiet : Bool) (calls : List ConsoleCall) : String :=
  if quiet then "" else String.join (calls.map (ConsoleCall.render width))

@[simp]
theorem renderCalls_quiet (width : Nat) (calls : List ConsoleCall) :
    renderCalls width true calls = "" := rfl

/-! ### Faults -/

/-- What keeps a call from being shown on a console of a given width. -/
def ConsoleCall.fault? (width : Nat) : ConsoleCall → Option Table.Fault
  | .table t => t.fault? width
  | .print markup =>
    ((Markup.tagFault? markup).or
      -- Without width nothing is laid out, but the tags are read all the same.
      (if width = 0 then none else Markup.layoutFault? markup)).map .markup
  | _ => none

/-- The text that calls put on a console, unless one of them cannot be shown.  This holds of a
    quiet console as well. -/
def showCalls (width : Nat) (quiet : Bool) (calls : List ConsoleCall) :
    Except Table.Fault String :=
  match calls.findSome? (ConsoleCall.fault? width) with
  | some fault => .error fault
  | none => .ok (renderCalls width quiet calls)

@[simp]
theorem showCalls_nil (width : Nat) (quiet : Bool) :
    showCalls width quiet [] = .ok "" := by
  cases quiet <;> rfl

end ElfInspect
