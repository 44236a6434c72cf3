import ElfInspect.Json.Writer
import ElfInspect.Log.Journal
import ElfInspect.Machine

namespace ElfInspect

/-!
# Log records

* `LogRecord`: a record, with its message in final form;
* `LogRecord.plainText`: the record for a reader, one line and the attached failure on its own;
* `LogRecord.jsonText`: the record as a JSON object on one line.
-/

/-- What a clock shows: the moment as a precise and as a short text, and the seconds that passed
    since something was started. -/
structure Clock where
  precise : String
  short : String
  elapsed : String
  deriving Repr, DecidableEq, Inhabited

/-- What a logger finds when it is asked for something: the time, and the machine as it is then. -/
structure Occasion extends Clock where
  machine : Machine
  deriving Repr, DecidableEq, Inhabited

/-- A failure that is attached to a record. -/
structure Failure where
  kind : String
  text : String
  deriving Repr, DecidableEq

/-- The kind of a failure and, if there is one, its text. -/
def Failure.summary (f : Failure) : String :=
  if f.text.isEmpty then f.kind else f.kind ++ ": " ++ f.text

/-- What is attached to a record: nothing, the current failure where there is none, or a given
    failure. -/
inductive Attachment
  | nothing
  | noFailure
  | failure (f : Failure)
  deriving Repr, DecidableEq

/-- A log record. -/
structure LogRecord where
  occasion : Occasion
  severity : Severity
  channel : String
  message : String
  component : String
  phase : Option String := none
  extra : Option Value := none
  attachment : Attachment := .nothing
  deriving Repr

namespace LogRecord

/-! ### Plain text -/

/-- The line of a record without its attachment. -/
def plainLine (r : LogRecord) : String :=
  " | ".intercalate
    [r.occasion.short, String.ofList (r.severity.name.toList.rightpad 8 ' '), r.channel,
     r.phase.getD "None", r.message]

/-- The text of the attachment. -/
def attachedText? (r : LogRecord) : Option String :=
  match r.attachment with
  | .nothing => none
  | .noFailure => some "NoneType: None"
  | .failure f => some f.summary

/-- The record for a reader. -/
def plainText (r : LogRecord) : String :=
  match r.attachedText? with
  | none => r.plainLine
  | some text =>
    -- A message may bring its own line end.
    if r.plainLine.toList.getLast? = some '\n' then r.plainLine ++ text
    else r.plainLine ++ "\n" ++ text

/-! ### JSON -/

/-- An entry that is left out if there is no value. -/
def optionalEntry (key : String) : Option Value → List (String × Value)
  | none => []
  | some v => [(key, v)]

/-- The entries of the JSON object of a record. -/
def entries (r : LogRecord) : List (String × Value) :=
  [("timestamp", .text r.occasion.precise), ("level", .text r.severity.name),
   ("logger", .text r.channel), ("message", .text r.message), ("component", .text r.component)] ++
  optionalEntry "phase" (r.phase.map .text) ++ optionalEntry "extra" r.extra ++
  match r.attachment with
  -- A missing failure is attached in the plain form only.
  | .failure f => [("exc_info", .text f.summary)]
  | _ => []

/-- The record as a JSON object on one line. -/
def jsonText (r : LogRecord) : String :=
  Json.write .line (.table r.entries)

end LogRecord

end ElfInspect
