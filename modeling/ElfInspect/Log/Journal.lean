namespace ElfInspect

/-!
# Journals

What a computation has to say is kept as a list of actions, which a logger carries out later.

* `Severity`: the severity of a record, as a name and as a level;
* `LogAction`: the entries of a journal.
-/

/-- The severity of a log record. -/
inductive Severity
  | debug
  | info
  | warning
  | error
  deriving Repr, DecidableEq, Inhabited

/-- The level of a severity.  A channel of a higher level leaves the record out. -/
def Severity.level : Severity → Nat
  | .debug => 10
  | .info => 20
  | .warning => 30
  | .error => 40

/-- The name of a severity in a record. -/
def Severity.name : Severity → String
  | .debug => "DEBUG"
  | .info => "INFO"
  | .warning => "WARNING"
  | .error => "ERROR"

/-- The name of a severity as a call. -/
def Severity.callName : Severity → String
  | .debug => "debug"
  | .info => "info"
  | .warning => "warning"
  | .error => "error"

/-- What is asked of a logger: to open and close phase scopes and to emit records.  A record that
    tells how long something took leaves the duration to the logger. -/
inductive LogAction
  | openScope (phase : String)
  | closeScope
  | emit (severity : Severity) (message : String)
  | emitTimed (severity : Severity) (label : String)
  deriving Repr, DecidableEq

/-- The journal of something that is timed: its start and, unless it fails, how long it took. -/
def timedJournal (label : String) (failed : Bool) : List LogAction :=
  .emit .debug ("Started: " ++ label) :: if failed then [] else [.emitTimed .info label]

end ElfInspect
