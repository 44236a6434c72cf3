import ElfInspect.Counting
import ElfInspect.Log.Registry

namespace ElfInspect

/-!
# Scope loggers

A scope logger writes the records of one component.  It knows the phase that is under way, with
which it stamps its records.  All loggers of a component share one channel, while each has its own
phase.

Main definitions:

* `LogState`: the channels, the files and the console;
* `LogState.configure`: sets up the channel of a component;
* `ScopeLogger.enter` and `ScopeLogger.leave`: phase scopes;
* `ScopeLogger.log`: a call for a record;
* `ScopeLogger.replay`: carries out a journal.
-/

/-- The channels, and the files and the console that their handlers write to.  `moves` counts how
    often a log file was full and was to be moved aside. -/
structure LogState where
  registry : Registry := {}
  store : Store := {}
  console : String := ""
  moves : Nat := 0
  deriving Repr, DecidableEq, Inhabited

/-- The channel of a component. -/
def channelName (component : String) : String :=
  "elfscope." ++ component

/-! ### Setting up a channel -/

/-- How a channel is set up. -/
structure LoggerSetup where
  level : String := "INFO"
  file : Option String := none
  layout : LogLayout := .plain
  console : Bool := true
  rotation : Rotation := {}
  deriving Repr, DecidableEq

namespace LogState

/-- Replaces the channel of a component. -/
def setChannel (state : LogState) (component : String) (channel : Channel) : LogState :=
  { state with registry := state.registry.setChannel (channelName component) channel }

/-- Makes the channel of a component known, as it stands. -/
def know (state : LogState) (component : String) : LogState :=
  { state with registry := state.registry.know (channelName component) }

/-- Opens a log file, which is created with its directories if need be. -/
def openLog (store : Store) (path : String) : Option PathFault × Store :=
  match store.makeDirectories (Path.parent path) with
  | (some fault, store) => (some fault, store)
  | (none, store) =>
    -- Nothing is written yet, but the file comes into being.
    match store.append path #[] with
    | .error fault => (some ⟨path, fault⟩, store)
    | .ok store => (none, store)

/-- Sets up the channel of a component.  Its handlers take the place of the earlier ones: the
    console first, then the file.  A level name that denotes no level only makes the channel known;
    if the file cannot be opened the channel is left without it. -/
def configure (state : LogState) (component : String) (setup : LoggerSetup) :
    Except LogFault Unit × LogState :=
  match levelNamed setup.level with
  | .error fault => (.error fault, state.know component)
  | .ok level =>
    let console : List Handler := if setup.console then [⟨.console, level⟩] else []
    -- Records stay in this channel, whatever handlers the ones above it have.
    let channel : Channel := { level, propagates := false, handlers := console }
    match setup.file with
    | none => (.ok (), state.setChannel component channel)
    | some path =>
      -- The channel is set up in any case, also if the file is refused.
      let path := Path.normalize path
      match openLog state.store path with
      | (some cause, store) =>
        (.error (.refused cause), { state with store }.setChannel component channel)
      | (none, store) =>
        let file : Handler := ⟨.file path setup.layout setup.rotation, level⟩
        (.ok (),
          { state with store }.setChannel component { channel with handlers := console ++ [file] })

/-! ### Writing records -/

/-- The line that a handler of a given layout writes for a record, if it can write one: an integer
    that is too large has no text, and values that are nested too deeply cannot be encoded. -/
def lineOf? (record : LogRecord) : LogLayout → Option String
  | .plain => some (record.plainText ++ "\n")
  | .json =>
    -- All of this is encoded as one object; the plain form has only texts to put together.
    let object := Value.table record.entries
    if object.isTooLong ∨ record.occasion.machine.jsonDepth ≤ object.nesting then none
    else some (record.jsonText ++ "\n")

/-- Adds a line to a log file, unless the file is out of reach. -/
def addLine (state : LogState) (path line : String) : LogState :=
  match state.store.append path (Utf8.encode line.toList).toArray with
  | .ok store => { state with store }
  | .error _ => state

/-- Whether a log file is to be moved aside before a line is added to it. -/
def isFull (state : LogState) (path : String) (rotation : Rotation) (line : String) : Bool :=
  match state.store.fileSize? path with
  | some size => rotation.isDue size line.length
  | none => false

/-- Moves a log file aside and adds a line to the one that is begun in its place.  The line is
    dropped if something stands in the way. -/
def addAside (state : LogState) (path : String) (rotation : Rotation) (line : String) : LogState :=
  let (done, store) := state.store.rotate path rotation.backups
  let state := { state with store, moves := state.moves + 1 }
  if done then state.addLine path line else state

/-- Has one handler write a record.  The console shows records in plain text.  A log file is found
    by its path each time. -/
def write (record : LogRecord) (state : LogState) (handler : Handler) : LogState :=
  match handler.target with
  | .console => { state with console := state.console ++ record.plainText ++ "\n" }
  | .file path layout rotation =>
    match lineOf? record layout with
    | none => state
    | some line =>
      if state.isFull path rotation line then state.addAside path rotation line
      else state.addLine path line

/-- Hands a record to all handlers that it reaches. -/
def emit (state : LogState) (record : LogRecord) : LogState :=
  (state.registry.reached record.channel record.severity).foldl (write record) state

end LogState

/-! ### Loggers -/

/-- A logger of a component: the phase under way, and for each open scope, oldest first, the phase
    that was under way before it. -/
structure ScopeLogger where
  component : String
  phase : Option String := none
  scopes : List (Option String) := []
  deriving Repr, DecidableEq, Inhabited

/-- A call for a record.  The message is a template for the arguments; the fields are reported as
    extra data, and the attributes, which should be a table, are set on the record itself. -/
structure LogCall where
  severity : Severity
  message : String
  arguments : List Value := []
  fields : List (String × Value) := []
  attributes : Value := .null
  attachment : Attachment := .nothing

/-- The attributes that every record has and that a call may not set. -/
def reservedAttributes : List String :=
  ["message", "asctime", "name", "msg", "args", "levelname", "levelno", "pathname", "filename",
   "module", "exc_info", "exc_text", "stack_info", "lineno", "funcName", "created", "msecs",
   "relativeCreated", "thread", "threadName", "processName", "process"]

/-- The parameters of a call that a field cannot be named for, as they have been given already. -/
def givenParameters : List String := ["self", "msg"]

/-- The parameters of a call that steer how its record comes about and are no fields. -/
def steeringParameters : List String := ["exc_info", "stack_info", "stacklevel"]

/-- The parameter that says how many callers to pass over when the place of a call is looked for. -/
def depthParameter : String := "stacklevel"

/-- The attribute that holds the extra data of a record. -/
def extraAttribute : String := "scope_extra"

/-- The fields of a call that are data. -/
def LogCall.data (call : LogCall) : List (String × Value) :=
  call.fields.filter fun f => f.1 ∉ steeringParameters

/-- The attributes of a call.  What counts as false stands for none. -/
def LogCall.attributeEntries (call : LogCall) : Except LogFault (List (String × Value)) :=
  match call.attributes with
  | .table entries => .ok entries
  | v => if v.isTruthy then .error (.noTable v) else .ok []

/-- Whether a value can be compared with a number. -/
def isDepth : Value → Bool
  | .integer _ | .boolean _ | .real _ => true
  | _ => false

/-- What is given for the depth of a call, if it is no number. -/
def LogCall.wrongDepth? (call : LogCall) : Option Value :=
  (Value.find? depthParameter call.fields).filter fun v => !isDepth v

/-- The extra data of a call: its fields, or else what the attribute for them holds. -/
def LogCall.extra (call : LogCall) : Option Value :=
  if call.data.isEmpty then
    match call.attributes.get? extraAttribute with
    | some .null => none
    | found => found
  else some (.table call.data)

namespace ScopeLogger

/-- Opens a scope of a phase. -/
def enter (logger : ScopeLogger) (phase : String) : ScopeLogger :=
  { logger with phase := some phase, scopes := logger.scopes ++ [logger.phase] }

/-- Closes the open scope with a number: the phase before it is under way again. -/
def leaveAt (logger : ScopeLogger) (number : Int) : ScopeLogger :=
  match position? logger.scopes.length number with
  | some place =>
    { logger with phase := (logger.scopes[place]?).join, scopes := logger.scopes.eraseIdx place }
  | none => logger

/-- Closes the scope opened last. -/
def leave (logger : ScopeLogger) : ScopeLogger :=
  logger.leaveAt (-1)

/-- The record of a call with its message in final form. -/
def record (logger : ScopeLogger) (occasion : Occasion) (call : LogCall) (message : String) :
    LogRecord :=
  { occasion, severity := call.severity, channel := channelName logger.component, message
    component := logger.component, phase := logger.phase, extra := call.extra
    attachment := call.attachment }

/-- What becomes of a record whose arguments do not fit its message: it is dropped, but a handler
    of the console says so.  A character that cannot be written out is not noticed before that. -/
def rejected (logger : ScopeLogger) (severity : Severity) (cause : TemplateFault)
    (state : LogState) : Except LogFault LogState :=
  -- Only handlers that would have written the record come to know about it.
  let handlers := state.registry.reached (channelName logger.component) severity
  if cause ≠ .unwritable ∧ handlers.any (·.target = .console) then .error (.unfit cause)
  else .ok state

/-- Carries out a call whose record is wanted. -/
def submit (logger : ScopeLogger) (occasion : Occasion) (call : LogCall)
    (attributes : List (String × Value)) (state : LogState) : Except LogFault LogState :=
  -- The depth is looked at before the record is made, and reserved names while it is.
  match call.wrongDepth?, attributes.find? fun a => a.1 ∈ reservedAttributes with
  | some found, _ => .error (.noDepth found)
  | none, some (name, _) => .error (.reservedAttribute name)
  | none, none =>
    match Template.fill occasion.machine call.message call.arguments with
    | .error cause => logger.rejected call.severity cause state
    | .ok message => .ok (state.emit (logger.record occasion call message))

/-- Carries out a call.  A field named for a parameter that has been given is refused first, and
    then attributes that are no table.  Otherwise nothing happens if the channel drops the severity.
    -/
def log (logger : ScopeLogger) (occasion : Occasion) (call : LogCall) (state : LogState) :
    Except LogFault LogState :=
  -- That is refused by the call itself, before the level is asked for.
  match call.fields.find? fun f => f.1 ∈ givenParameters with
  | some (name, _) => .error (.givenTwice call.severity name)
  | none =>
    match call.attributeEntries with
    | .error fault => .error fault
    | .ok attributes =>
      if state.registry.isEnabled (channelName logger.component) call.severity then
        logger.submit occasion call attributes state
      else .ok state

/-- Writes a record with a message that is already in final form. -/
def say (logger : ScopeLogger) (occasion : Occasion) (severity : Severity) (message : String)
    (state : LogState) : LogState :=
  if state.registry.isEnabled (channelName logger.component) severity then
    state.emit (logger.record occasion { severity, message } message)
  else state

/-- How long something took. -/
def completion (occasion : Occasion) (label : String) : String :=
  "Completed: " ++ label ++ " (" ++ occasion.elapsed ++ " sec)"

/-- Carries out one entry of a journal. -/
def act (occasion : Occasion) (now : ScopeLogger × LogState) : LogAction → ScopeLogger × LogState
  | .openScope phase => (now.1.enter phase, now.2)
  | .closeScope => (now.1.leave, now.2)
  | .emit severity message => (now.1, now.1.say occasion severity message now.2)
  | .emitTimed severity label =>
    (now.1, now.1.say occasion severity (completion occasion label) now.2)

/-- Carries out a journal. -/
def replay (logger : ScopeLogger) (occasion : Occasion) (journal : List LogAction)
    (state : LogState) : ScopeLogger × LogState :=
  journal.foldl (act occasion) (logger, state)

/-- The state that a journal leads to, or else the last one before a log file is full. -/
def beforeMove (logger : ScopeLogger) (occasion : Occasion) (state : LogState) :
    List LogAction → LogState
  | [] => state
  | action :: rest =>
    let (logger, next) := act occasion (logger, state) action
    -- One move is enough: the file that was opened is no longer the one that is written to.
    if next.moves = state.moves then beforeMove logger occasion next rest else state

/-- The scope opened last can be closed as if it had never been opened. -/
theorem leave_enter (logger : ScopeLogger) (phase : String) :
    (logger.enter phase).leave = logger := by
  simp [enter, leave, leaveAt, List.eraseIdx_append_of_length_le]

end ScopeLogger

end ElfInspect
