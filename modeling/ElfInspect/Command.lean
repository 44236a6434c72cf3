import ElfInspect.Command.Line
import ElfInspect.Config
import ElfInspect.Display
import ElfInspect.Load
import ElfInspect.Log.Logger
import ElfInspect.Report.File

namespace ElfInspect

/-!
# The command

One command reads its settings, sets up its log, decodes a file, and shows or reports it.  It runs
on a store of files and leaves a changed store, the text that it has shown, and how it ended.

* `Ending`: how a run ends, with `Ending.exitCode`;
* `Command`: the steps of a run;
* `Command.run`: a whole run.
-/

/-! ### Endings -/

/-- A condition that the command does not report itself. -/
inductive Crash
  /-- The settings cannot be had, although the file is there and holds a document. -/
  | config (error : ConfigError)
  /-- The log level is not a text. -/
  | levelNotText (found : Value)
  /-- The log file is not a text. -/
  | logFileNotText (found : Value)
  /-- The log cannot be set up. -/
  | log (fault : LogFault)
  /-- The input asks for something that no device can do. -/
  | misuse (cause : Misuse)
  /-- The number of symbol rows is not an integer. -/
  | rowLimit (found : Value)
  /-- The report cannot be written. -/
  | report (cause : PathFault)
  deriving Repr

/-- The wording of a condition that the command does not report itself. -/
def Crash.message : Crash → String
  | .config error => error.message
  | .levelNotText found => "The log level is not a text: " ++ found.literal
  | .logFileNotText found => "The log file is not a text: " ++ found.literal
  | .log fault => fault.message
  | .misuse cause => cause.message
  | .rowLimit found => "The number of symbol rows is not an integer: " ++ found.literal
  | .report cause => cause.message

/-- How a run ends unless it ends well. -/
inductive Stop
  /-- The command line is not understood. -/
  | usage (error : UsageError)
  /-- The command has shown what is wrong. -/
  | reported
  | crash (cause : Crash)
  deriving Repr

/-- How a run ends. -/
inductive Ending
  | finished
  | stopped (stop : Stop)
  deriving Repr

/-- The exit code of a run. -/
def Ending.exitCode : Ending → Nat
  | .finished => 0
  | .stopped (.usage _) => 2
  | .stopped .reported => 1
  | .stopped (.crash _) => 1

/-! ### Steps -/

/-- Where a run takes place: the width of its console, the machine with its clock, and where the
    settings are looked for if the command line names no file. -/
structure Surroundings where
  columns : Nat
  occasion : Occasion
  settingsPath : String

/-- What a run changes: the files with the log, and the text shown so far. -/
structure CommandState where
  logs : LogState := {}
  shown : String := ""

/-- A step of a run. -/
abbrev Command := ReaderT Surroundings (EStateM Stop CommandState)

namespace Command

/-- Shows a text as it is. -/
def showText (text : String) : Command Unit :=
  modify fun s => { s with shown := s.shown ++ text }

/-- Shows console calls. -/
def showCalls (calls : List ConsoleCall) : Command Unit := do
  showText (renderCalls (← read).columns false calls)

/-- Reports what is wrong and stops. -/
def fail {α : Type} (message : String) : Command α := do
  showCalls [.message .error message]
  throw .reported

/-- Stops without a report. -/
def crash {α : Type} (cause : Crash) : Command α :=
  throw (.crash cause)

/-! ### Settings and log -/

/-- Whether an error in the settings is reported.  That a section is no table is not, nor that
    values are nested too deeply, nor is a file that cannot be opened. -/
def isReported : ConfigError → Bool
  | .malformed error => error.cause != .nestedTooDeeply
  | .invalidText _ | .chunkSize _ => true
  | .notFound _ | .refused _ | .notTable _ => false

/-- The settings of an invocation.  A choice about symbols overrides the setting. -/
def settings (invocation : Invocation) : Command Config := do
  match Config.loadOr (← read).settingsPath (← get).logs.store invocation.config with
  | .ok config =>
    match invocation.symbols with
    | none => return config
    | some choice =>
      return { config with display := { config.display with showSymbols := .boolean choice } }
  | .error error =>
    if isReported error then
      fail ("Invalid configuration " ++ invocation.config.getD "None" ++ ": " ++ error.message)
    else crash (.config error)

/-- The level of the log. -/
def logLevel (invocation : Invocation) (general : GlobalSettings) : Command String :=
  if invocation.verbose then return "DEBUG"
  else
    match general.logLevel with
    | .text level => return level
    | found => crash (.levelNotText found)

/-- Sets the log up for the component that decodes. -/
def openLog (invocation : Invocation) (general : GlobalSettings) : Command ScopeLogger := do
  let level ← logLevel invocation general
  let setup : LoggerSetup :=
    { level, layout := if general.logJson.isTruthy then .json else .plain
      console := invocation.verbose }
  let configure (setup : LoggerSetup) : Command Unit := do
    let (result, logs) := (← get).logs.configure "loader" setup
    modify fun s => { s with logs }
    match result with
    | .ok () => pure ()
    | .error fault => crash (.log fault)
  match general.logFile with
  | .null => configure setup
  | .text file => configure { setup with file := some file }
  | found =>
    -- The log is set up without a file before the run stops.
    configure setup
    crash (.logFileNotText found)
  return { component := "loader" }

/-! ### Decoding -/

/-- Stops because of an error in the file.  Only an error of the input is reported. -/
def failDecode {α : Type} (context : String) (error : DecodeError) : Command α :=
  match error with
  | .misuse cause => crash (.misuse cause)
  | error => fail (context ++ ": " ++ error.message)

/-- Stops because a load has failed. -/
def failLoad {α : Type} (path : String) (failure : LoadFailure) : Command α :=
  let during := match failure.phase with
    | none => ""
    | some phase => " during " ++ phase.name
  failDecode ("Failed to decode " ++ path ++ during) failure.error

/-- The chunk size in the settings. -/
def chunkSize (config : Config) : Int :=
  config.decoder.readChunkSize.toInt?.getD defaultChunkSize

/-- The file at a path holds what the log has written to it so far.  It has been opened before, so
    that it is the same file when log files are moved aside: from then on it stays as it is. -/
def feedback (path : String) (logger : ScopeLogger) (occasion : Occasion) (logs : LogState) :
    Load.Feedback := fun journal device =>
  match (logger.beforeMove occasion logs journal.reverse).store.read path with
  | .ok content => { device with content }
  | .error _ => device

/-- Decodes the file at a path and logs how that goes. -/
def decode (path : String) (config : Config) (logger : ScopeLogger) : Command ElfFile := do
  let occasion := (← read).occasion
  match openFile occasion.machine.room (← get).logs.store path with
  | .error failure => failLoad path failure
  | .ok device =>
    let logs := (← get).logs
    let run := Load.run device (chunkSize config) (feedback path logger occasion logs)
    -- What the load has noted is logged in any case, and only then the failure is reported.
    modify fun s => { s with logs := (logger.replay occasion run.journal s.logs).2 }
    match run.outcome with
    | .ok file => return file
    | .error failure => failLoad path failure

/-! ### Showing and reporting -/

/-- Stops because symbols do not decode. -/
def failSymbols {α : Type} (path : String) (error : DecodeError) : Command α :=
  failDecode ("Failed to decode symbols in " ++ path) error

/-- The number of symbol rows in the settings, if it can be used as one. -/
def rowLimit? : Value → Option Int
  | .integer i => some i
  | .boolean b => some (if b then 1 else 0)
  -- A real number can be compared with zero, but it is no number of rows.
  | .real r => if r.isPositive then none else some 0
  | _ => none

/-- The display options in the settings. -/
def displayOptions (settings : DisplaySettings) : DisplayOptions :=
  { showSegments := settings.showSegments.isTruthy
    showSections := settings.showSections.isTruthy
    showSymbols := settings.showSymbols.isTruthy
    maxSymbolRows := (rowLimit? settings.maxSymbolRows).getD 0 }

/-- Whether a call shows a table. -/
def isTable : ConsoleCall → Bool
  | .table _ => true
  | _ => false

/-- Shows a file on the console, up to the first symbol table that does not decode.  A limit on
    symbol rows that cannot be used stops the run at the first symbol table. -/
def display (invocation : Invocation) (settings : DisplaySettings) (file : ElfFile) :
    Command Unit := do
  let options := displayOptions settings
  let (symbols, failure) := Display.symbols options file invocation.sectionName
  showCalls (Display.overview options file)
  -- The limit is not looked at before a table of symbols is to be shown.
  if (rowLimit? settings.maxSymbolRows).isNone && symbols.any isTable then
    crash (.rowLimit settings.maxSymbolRows)
  showCalls symbols
  match failure with
  | none => pure ()
  | some error => failSymbols invocation.path error

/-- Prints a file as a JSON document. -/
def printReport (invocation : Invocation) (includeSymbols : Bool) (file : ElfFile) :
    Command Unit := do
  match Report.text (← read).occasion.precise file invocation.path includeSymbols with
  | .ok document => showText (document ++ "\n")
  | .error error => failSymbols invocation.path error

/-- Writes the report of a file, and says so unless a document is what is shown. -/
def saveReport (invocation : Invocation) (includeSymbols : Bool) (file : ElfFile)
    (output : String) : Command Unit := do
  let logs := (← get).logs
  let (result, store) :=
    Report.save logs.store output (← read).occasion.precise file invocation.path includeSymbols
  modify fun s => { s with logs := { logs with store } }
  match result with
  | .error (.refused cause) => crash (.report cause)
  | .error (.undecodable error) => failSymbols invocation.path error
  | .ok path =>
    if !invocation.json then
      showCalls [.message .success ("JSON report saved: " ++ path)]

/-! ### Whole runs -/

/-- Carries out an invocation. -/
def perform (invocation : Invocation) : Command Unit := do
  let config ← settings invocation
  let logger ← openLog invocation config.globalSettings
  let file ← decode invocation.path config logger
  -- The choice about symbols is part of the settings by now.
  let includeSymbols := config.display.showSymbols.isTruthy
  if invocation.json then printReport invocation includeSymbols file
  else display invocation config.display file
  match invocation.output with
  | none => pure ()
  -- An empty path counts as none.
  | some output => if output ≠ "" then saveReport invocation includeSymbols file output

/-- Reads a command line and carries it out. -/
def interpret (arguments : List String) : Command Unit := do
  match Request.ofArguments (← get).logs.store arguments with
  | .error (.usage error) => throw (.usage error)
  | .error (.misuse cause) => crash (.misuse cause)
  | .ok .help => showText helpText
  | .ok (.inspect invocation) => perform invocation

/-- What a run leaves behind. -/
structure Outcome where
  ending : Ending
  state : CommandState

/-- Runs the command with some arguments on a store. -/
def run (surroundings : Surroundings) (store : Store) (arguments : List String) : Outcome :=
  match interpret arguments surroundings { logs := { store } } with
  | .ok () state => ⟨.finished, state⟩
  | .error stop state => ⟨.stopped stop, state⟩

end Command

end ElfInspect
