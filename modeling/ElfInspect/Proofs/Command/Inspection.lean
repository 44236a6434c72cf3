import ElfInspect.Proofs.Command.Demand
import ElfInspect.Proofs.Load.Feedback
import ElfInspect.Proofs.Log.Rotation

namespace ElfInspect

/-!
# Inspections

An inspection is a run of the command that nothing stands in the way of but the file that it is to
decode: the command line is understood, the settings can be used, the file can be read, and the log
and the report can be written.

* `Config.Declared` — settings of the declared types;
* `Inspection` — a run with all that it relies on;
* `Inspection.interpret_eq` — the order of a run, of which the log and the load come first;
* `Inspection.run_of_phase`, `Inspection.run_of_no_phase`, `Inspection.interpret_of_ok` — what it
  comes to if the load fails, and how it goes on if it does not.
-/

open Store (Keeps Rewrites Leaves Rearranges)

/-! ### Steps -/

namespace Command

variable {α β : Type} {m : Command α} {surroundings : Surroundings} {s t : CommandState}

/-- A command that looks at its state goes on with it. -/
theorem get_bind (f : CommandState → Command α) :
    (get >>= f) surroundings s = f s surroundings s := rfl

/-- So does one that looks at its surroundings. -/
theorem read_bind (f : Surroundings → Command α) :
    (read >>= f) surroundings s = f surroundings surroundings s := rfl

/-- What comes after a step that succeeds. -/
theorem bind_ok {f : α → Command β} {a : α} (h : m surroundings s = .ok a t) :
    (m >>= f) surroundings s = f a surroundings t :=
  bind_of_ending_ok (f := fun a => f a surroundings) h

/-- Nothing comes after a step that stops. -/
theorem bind_error {f : α → Command β} {stop : Stop} (h : m surroundings s = .error stop t) :
    (m >>= f) surroundings s = .error stop t :=
  bind_of_ending_error (f := fun a => f a surroundings) h

/-- The line that says what is wrong. -/
def errorLine (surroundings : Surroundings) (message : String) : String :=
  renderCalls surroundings.columns false [.message .error message]

/-- An error of the input is reported. -/
theorem failDecode_of_isInputFault (context : String) {error : DecodeError}
    (h : error.isInputFault = true) (s : CommandState) :
    (failDecode context error : Command α) surroundings s = .error .reported
      { s with shown := s.shown ++ errorLine surroundings (context ++ ": " ++ error.message) } := by
  cases error with
  | misuse cause => cases h
  | _ => rfl

/-- A log that can be set up is set up. -/
theorem configure_eq {setup : LoggerSetup} {opened : LogState}
    (h : s.logs.configure "loader" setup = (.ok (), opened)) :
    (do
      let s ← get
      modify fun t => { t with logs := (s.logs.configure "loader" setup).2 }
      match (s.logs.configure "loader" setup).1 with
      | .ok () => pure ()
      | .error fault => crash (.log fault) : Command Unit) surroundings s =
    .ok () { s with logs := opened } := by
  rw [get_bind, h]
  rfl

/-- The logger of the component that decodes. -/
def logger : ScopeLogger :=
  { component := "loader" }

end Command

/-! ### Settings that can be used -/

/-- The settings are of the declared types, as far as that matters, and the level of the log is
    one. -/
structure Config.Declared (config : Config) : Prop where
  level : ∃ name level, config.globalSettings.logLevel = .text name ∧ levelNamed name = .ok level
  logFile : config.globalSettings.logFile = .null ∨
    ∃ file, config.globalSettings.logFile = .text file
  rowLimit : ∃ rows, config.display.maxSymbolRows = .integer rows

/-- A chunk size that is accepted is positive. -/
theorem DecoderSettings.one_le_of_ofChunkSize {size : Value} {decoder : DecoderSettings}
    (h : ofChunkSize size = .ok decoder) :
    ∃ chunk, decoder.readChunkSize.toInt? = some chunk ∧ 1 ≤ chunk := by
  unfold ofChunkSize at h
  cases hsize : size.toInt? with
  | none =>
    rw [Value.isPositiveInt, hsize] at h
    cases h
  | some chunk =>
    rw [Value.isPositiveInt, hsize] at h
    -- only a number that is positive is accepted
    by_cases hpos : 0 < chunk
    · rw [if_pos (decide_eq_true hpos)] at h
      cases h
      exact ⟨chunk, hsize, hpos⟩
    · rw [if_neg (by simpa using hpos)] at h
      cases h

namespace Config

variable {config : Config}

/-- Settings that are read from a document have a chunk size that is positive. -/
theorem one_le_chunkSize_of_ofEntries {entries : Toml.Entries}
    (h : ofEntries entries = .ok config) : 1 ≤ Command.chunkSize config := by
  obtain ⟨general, -, h⟩ := exists_of_bind_eq_ok h
  obtain ⟨table, -, h⟩ := exists_of_bind_eq_ok h
  obtain ⟨decoder, hdecoder, h⟩ := exists_of_bind_eq_ok h
  obtain ⟨display, -, h⟩ := exists_of_bind_eq_ok h
  cases h
  obtain ⟨chunk, hsize, hpos⟩ := DecoderSettings.one_le_of_ofChunkSize hdecoder
  rw [Command.chunkSize, hsize]
  exact hpos

/-- Of all that a path may lead to, only a file has settings. -/
theorem exists_ofBytes_of_ofFile {store : Store} {path : String}
    (h : ofFile store path = .ok config) : ∃ content, ofBytes content = .ok config := by
  unfold ofFile at h
  dsimp only at h
  split at h
  case h_5 content _ => exact ⟨content, h⟩
  all_goals cases h

/-- Settings are those of a file or the defaults. -/
theorem exists_ofBytes_of_loadOr {fallback : String} {store : Store} {path : Option String}
    (h : loadOr fallback store path = .ok config) :
    config = {} ∨ ∃ content, ofBytes content = .ok config := by
  cases path with
  | some path => exact .inr (exists_ofBytes_of_ofFile h)
  | none =>
    simp only [loadOr] at h
    split at h
    · exact .inl (Except.ok.inj h).symm
    · exact .inr (exists_ofBytes_of_ofFile h)

/-- **Chunk sizes.**  Settings that can be had have a positive chunk size. -/
theorem one_le_chunkSize_of_loadOr {fallback : String} {store : Store} {path : Option String}
    (h : loadOr fallback store path = .ok config) : 1 ≤ Command.chunkSize config := by
  rcases exists_ofBytes_of_loadOr h with rfl | ⟨content, hcontent⟩
  · decide
  · unfold ofBytes at hcontent
    split at hcontent
    case h_1 => cases hcontent
    case h_2 =>
      split at hcontent
      case h_1 => cases hcontent
      case h_2 => exact one_le_chunkSize_of_ofEntries hcontent

end Config

/-- The text that a value is. -/
def Value.text? : Value → Option String
  | .text t => some t
  | _ => none

/-- Only texts have a text. -/
theorem Value.text?_eq_some_iff {v : Value} {t : String} : v.text? = some t ↔ v = .text t := by
  cases v <;> simp [text?]

/-- How an invocation sets up its log. -/
def Invocation.logSetup (invocation : Invocation) (general : GlobalSettings) : LoggerSetup where
  level := if invocation.verbose then "DEBUG" else general.logLevel.text?.getD ""
  file := general.logFile.text?
  layout := if general.logJson.isTruthy then .json else .plain
  console := invocation.verbose

/-- The log of an invocation when it has been set up. -/
def Invocation.openedLog (invocation : Invocation) (general : GlobalSettings) (store : Store) :
    LogState :=
  (LogState.configure { store } "loader" (invocation.logSetup general)).2

/-- The log of an invocation when a file has been decoded. -/
def Invocation.closedLog (invocation : Invocation) (config : Config) (occasion : Occasion)
    (store : Store) (content : Bytes) : LogState :=
  let device := Device.ofFile occasion.machine.room content
  let run := Load.run device (Command.chunkSize config)
  (Command.logger.replay occasion run.journal
    (invocation.openedLog config.globalSettings store)).2

/-- Where the log of an invocation goes, if it goes to a file. -/
def Invocation.logPlaces (invocation : Invocation) (general : GlobalSettings) (store : Store) :
    List (List String) :=
  ((invocation.logSetup general).destination? store).toList

/-- Where the log of an invocation stands when a file has been decoded, if it goes to a file: with
    its backups if it has been full by then. -/
def Invocation.loggedPlaces (invocation : Invocation) (config : Config) (occasion : Occasion)
    (store : Store) (content : Bytes) : List (List String) :=
  let places := invocation.logPlaces config.globalSettings store
  if (invocation.closedLog config occasion store content).moves = 0 then places
  else places.flatMap ({} : Rotation).places

/-- A run of the command on a command line that it understands, with settings that it can use, for a
    file that can be read.  If the log goes to a file, then this can be written and is not the file
    that is read, and if it gets full, then its backups are files as well or not there yet.  If a
    report is asked for, then it can be written when the file has been decoded, and goes where
    neither the log nor, if the log gets full, a backup of it goes. -/
structure Inspection where
  surroundings : Surroundings
  store : Store
  arguments : List String
  invocation : Invocation
  config : Config
  location : List String
  content : Bytes
  understood : Request.ofArguments store arguments = .ok (.inspect invocation)
  configured : Config.loadOr surroundings.settingsPath store invocation.config = .ok config
  declared : config.Declared
  found : store.find invocation.path = .ok (location, .file content)
  logged : ∀ path, config.globalSettings.logFile = .text path →
    ∃ place, store.destination? (Path.normalize path) = some place ∧ place ≠ location
  movable : (invocation.closedLog config surroundings.occasion store content).moves ≠ 0 →
    ∀ place ∈ invocation.loggedPlaces config surroundings.occasion store content,
      (invocation.openedLog config.globalSettings store).store.IsLeaf place
  reported : ∀ path, invocation.reportPath? = some path → ∃ place,
    (invocation.closedLog config surroundings.occasion store content).store.destination?
      (Path.normalize path) = some place ∧
    place ∉ invocation.loggedPlaces config surroundings.occasion store content

namespace Inspection

variable (i : Inspection)

/-- The run. -/
def run : Command.Outcome :=
  Command.run i.surroundings i.store i.arguments

/-- The file when it has been opened. -/
def device : Device :=
  .ofFile i.surroundings.occasion.machine.room i.content

/-- What loading the file comes to. -/
def load : Except LoadFailure ElfFile :=
  (Load.run i.device (Command.chunkSize i.config)).outcome

/-- Whether symbols are shown. -/
def showSymbols : Bool :=
  i.invocation.showsSymbols i.config.display

/-- The symbol tables that the run needs. -/
def neededTables (file : ElfFile) : List Section :=
  i.invocation.neededTables i.showSymbols file

/-- Where the log goes, if it goes to a file. -/
def logPlaces : List (List String) :=
  i.invocation.logPlaces i.config.globalSettings i.store

/-- The log when it has been set up. -/
def openedLog : LogState :=
  i.invocation.openedLog i.config.globalSettings i.store

/-- The log that the load leaves behind. -/
def closedLog : LogState :=
  i.invocation.closedLog i.config i.surroundings.occasion i.store i.content

/-- Where this log stands, if it goes to a file, with its backups if it has been full. -/
def loggedPlaces : List (List String) :=
  i.invocation.loggedPlaces i.config i.surroundings.occasion i.store i.content

/-- Where the report goes, if one is asked for. -/
def reportPlaces : List (List String) :=
  (i.invocation.reportPath?.bind fun path =>
    i.closedLog.store.destination? (Path.normalize path)).toList

/-- The document that the run prints or writes. -/
def document (file : ElfFile) : Except DecodeError String :=
  Report.text i.surroundings.occasion.precise file i.invocation.path i.showSymbols

/-- The display options of the run. -/
def displayOptions : DisplayOptions :=
  { Command.displayOptions i.config.display with showSymbols := i.showSymbols }

/-- What is displayed of a file. -/
def displayed (file : ElfFile) : String :=
  renderCalls i.surroundings.columns false
    (Display.run i.displayOptions file i.invocation.sectionName).1

/-- The settings, with symbols shown or not as the command line says. -/
def settings : Config :=
  match i.invocation.symbols with
  | none => i.config
  | some choice =>
    { i.config with display := { i.config.display with showSymbols := .boolean choice } }

/-- The state that the run begins in. -/
def start : CommandState :=
  { logs := { store := i.store } }

/-! ### Settings and log -/

/-- The settings are those that are configured, with those of the command line. -/
theorem settings_eq :
    Command.settings i.invocation i.surroundings i.start = .ok i.settings i.start := by
  have hconfig : Config.loadOr i.surroundings.settingsPath i.start.logs.store i.invocation.config =
      .ok i.config := i.configured
  unfold Command.settings
  rw [Command.read_bind, Command.get_bind, hconfig, settings]
  cases i.invocation.symbols <;> rfl

/-- The command line has no part in the general settings. -/
theorem globalSettings_settings : i.settings.globalSettings = i.config.globalSettings := by
  unfold settings
  split <;> rfl

/-- Nor has it one in the chunk size. -/
theorem chunkSize_settings : Command.chunkSize i.settings = Command.chunkSize i.config := by
  unfold settings
  split <;> rfl

/-- The options for the display are those of the run. -/
theorem displayOptions_settings :
    Command.displayOptions i.settings.display = i.displayOptions := by
  unfold settings displayOptions showSymbols Invocation.showsSymbols
  cases i.invocation.symbols <;> rfl

/-- So is whether symbols are shown. -/
theorem showSymbols_settings : i.settings.display.showSymbols.isTruthy = i.showSymbols := by
  unfold settings showSymbols Invocation.showsSymbols
  cases i.invocation.symbols <;> rfl

/-- The limit of rows is a number. -/
theorem rowLimit_settings :
    (Command.rowLimit? i.settings.display.maxSymbolRows).isNone = false := by
  obtain ⟨rows, hrows⟩ := i.declared.rowLimit
  have hsame : i.settings.display.maxSymbolRows = i.config.display.maxSymbolRows := by
    unfold settings
    split <;> rfl
  rw [hsame, hrows]
  rfl

/-- The level of the log is one. -/
theorem exists_level :
    ∃ level, levelNamed (i.invocation.logSetup i.config.globalSettings).level = .ok level := by
  obtain ⟨name, level, hname, hlevel⟩ := i.declared.level
  unfold Invocation.logSetup
  by_cases hverbose : i.invocation.verbose = true
  · have hdebug : levelNamed "DEBUG" = .ok 10 := eq_ok_of_toOption (by decide +kernel)
    exact ⟨10, by rw [if_pos hverbose]; exact hdebug⟩
  · exact ⟨level, by rw [if_neg hverbose, hname]; exact hlevel⟩

/-- The log can be set up.  That changes no file but the one that the log goes to. -/
theorem openedLog_spec :
    LogState.configure { store := i.store } "loader"
        (i.invocation.logSetup i.config.globalSettings) = (.ok (), i.openedLog) ∧
      Keeps i.logPlaces i.store i.openedLog.store ∧ i.openedLog.WritesIn i.logPlaces := by
  obtain ⟨level, hlevel⟩ := i.exists_level
  -- the place of the log file can be written to
  have hfile (path : String)
      (hpath : (i.invocation.logSetup i.config.globalSettings).file = some path) :
      ∃ place, i.store.destination? (Path.normalize path) = some place := by
    obtain ⟨place, hplace, -⟩ := i.logged path (Value.text?_eq_some_iff.mp hpath)
    exact ⟨place, hplace⟩
  obtain ⟨state, hconfigure, hkeeps, hwrites⟩ :=
    LogState.configure_opens hlevel hfile "loader"
  have hstate : i.openedLog = state := by
    rw [openedLog, Invocation.openedLog, hconfigure]
  rw [hstate]
  exact ⟨hconfigure, hkeeps, hwrites⟩

/-- The log is set up without failing. -/
theorem openLog_eq :
    Command.openLog i.invocation i.config.globalSettings i.surroundings i.start =
      .ok Command.logger { logs := i.openedLog } := by
  have hlevel : Command.logLevel i.invocation i.config.globalSettings =
      pure (i.invocation.logSetup i.config.globalSettings).level := by
    obtain ⟨name, level, hname, -⟩ := i.declared.level
    unfold Command.logLevel Invocation.logSetup
    rw [hname]
    by_cases hverbose : i.invocation.verbose = true
    · rw [if_pos hverbose, if_pos hverbose]
    · rw [if_neg hverbose, if_neg hverbose]
      rfl
  obtain ⟨hconfigure, -, -⟩ := i.openedLog_spec
  unfold Command.openLog
  rw [hlevel, pure_bind]
  -- the log file is text or missing; in both cases the set-up is that of the invocation
  rcases i.declared.logFile with hnull | ⟨file, hfile⟩
  · rw [Invocation.logSetup, hnull] at hconfigure
    rw [hnull, Invocation.logSetup]
    dsimp only [Value.text?] at hconfigure ⊢
    exact (Command.bind_ok (Command.configure_eq (s := i.start) hconfigure)).trans rfl
  · rw [Invocation.logSetup, hfile] at hconfigure
    rw [hfile, Invocation.logSetup]
    dsimp only [Value.text?] at hconfigure ⊢
    exact (Command.bind_ok (Command.configure_eq (s := i.start) hconfigure)).trans rfl

/-! ### Decoding -/

/-- The file that is read stays as it is. -/
theorem read_of_rewrites {store : Store} (h : Rewrites i.logPlaces i.openedLog.store store) :
    store.read i.invocation.path = .ok i.content := by
  -- the only file that the log changes is its own
  have hplace : i.location ∉ i.logPlaces := by
    intro hmem
    obtain ⟨path, hpath, hdestination⟩ := Option.bind_eq_some_iff.mp (Option.mem_toList.mp hmem)
    obtain ⟨place, hplace, hne⟩ := i.logged path (Value.text?_eq_some_iff.mp hpath)
    rw [hdestination] at hplace
    exact hne (Option.some.inj hplace).symm
  obtain ⟨-, hkeeps, -⟩ := i.openedLog_spec
  have hfind := (hkeeps.trans h.keeps).find_file i.found hplace
  rw [Store.read, hfind]

/-- What the log does is not noticed by the load. -/
theorem feedback_spares :
    Load.Feedback.Spares i.content (Command.feedback i.invocation.path Command.logger
      i.surroundings.occasion i.openedLog) := by
  intro journal d hd
  obtain ⟨-, -, hwrites⟩ := i.openedLog_spec
  have hread := i.read_of_rewrites
    (ScopeLogger.rewrites_beforeMove hwrites Command.logger i.surroundings.occasion journal.reverse)
  unfold Command.feedback
  rw [hread, ← hd]

/-- A log that gets full has backups. -/
theorem loggedPlaces_of_full (h : i.closedLog.moves ≠ 0) :
    i.loggedPlaces = i.logPlaces.flatMap ({} : Rotation).places :=
  if_neg h

/-- If the log gets full, then files can stand at the places of its file and its backups. -/
theorem leaves_openedLog (h : i.closedLog.moves ≠ 0) :
    Leaves (i.logPlaces.flatMap ({} : Rotation).places) i.openedLog.store := by
  have hleaf : ∀ place ∈ i.loggedPlaces, i.openedLog.store.IsLeaf place := i.movable h
  -- there is one log file at most
  have hplaces : i.logPlaces =
    ((i.invocation.logSetup i.config.globalSettings).destination? i.store).toList := rfl
  rw [i.loggedPlaces_of_full h, hplaces] at hleaf
  rw [hplaces]
  generalize (i.invocation.logSetup i.config.globalSettings).destination? i.store = found at hleaf ⊢
  cases found with
  | none => exact ⟨nofun, nofun⟩
  | some location =>
    rw [Option.toList_some, List.flatMap_singleton] at hleaf ⊢
    exact Rotation.leaves_places hleaf

/-- **The log.**  Until the load is over, no file has been changed but those of the log. -/
theorem keeps_closedLog : Keeps i.loggedPlaces i.store i.closedLog.store := by
  obtain ⟨hconfigure, hkeeps, hwrites⟩ := i.openedLog_spec
  by_cases hfull : i.closedLog.moves = 0
  · have hplaces : i.loggedPlaces = i.logPlaces := if_pos hfull
    -- as the log is not full at the end, it was not full when it was opened
    have hle : i.openedLog.moves ≤ i.closedLog.moves := ScopeLogger.moves_le_replay _ _ _ _
    have hrewrites : Rewrites i.logPlaces i.openedLog.store i.closedLog.store :=
      ScopeLogger.rewrites_replay hwrites _ _ _ (hfull.trans (by omega))
    rw [hplaces]
    exact hkeeps.trans hrewrites.keeps
  · have hleaves := i.leaves_openedLog hfull
    have hrotates : i.openedLog.RotatesIn (i.logPlaces.flatMap ({} : Rotation).places) :=
      fun name handler hmem => (hwrites name handler hmem).rotatesIn fun _ _ _ htarget =>
        LogState.rotation_of_configure hconfigure hmem htarget
    have hrearranges : Rearranges _ i.openedLog.store i.closedLog.store :=
      ScopeLogger.rearranges_replay hleaves hrotates _ _ _
    rw [i.loggedPlaces_of_full hfull]
    exact (hkeeps.mono fun location hmem =>
      List.mem_flatMap.mpr ⟨location, hmem, List.mem_cons_self⟩).trans (hrearranges.keeps hleaves)

/-- Prints the document or displays the file. -/
def showing (file : ElfFile) : Command Unit :=
  if i.invocation.json then Command.printReport i.invocation i.showSymbols file
  else Command.display i.invocation i.settings.display file

/-- Saves the report, if one is asked for. -/
def saving (file : ElfFile) : Command Unit :=
  match i.invocation.output with
  | none => pure ()
  | some output =>
    if output ≠ "" then Command.saveReport i.invocation i.showSymbols file output else pure ()

/-- The file is loaded, and what is logged meanwhile is in the log. -/
theorem decode_eq :
    Command.decode i.invocation.path i.settings Command.logger i.surroundings
        { logs := i.openedLog } =
      (match i.load with
        | .ok file => pure file
        | .error failure => Command.failLoad i.invocation.path failure : Command ElfFile)
      i.surroundings { logs := i.closedLog } := by
  -- the file is opened when the log has been, and the load does not notice the log either
  have hopen : openFile i.surroundings.occasion.machine.room i.openedLog.store i.invocation.path =
      .ok i.device := by
    rw [openFile, i.read_of_rewrites (.refl _), device]
  have hrun : Load.run i.device (Command.chunkSize i.settings)
      (Command.feedback i.invocation.path Command.logger i.surroundings.occasion i.openedLog) =
      Load.run i.device (Command.chunkSize i.config) := by
    rw [i.chunkSize_settings]
    exact Load.run_of_feedback i.feedback_spares _
  unfold Command.decode
  rw [Command.read_bind, Command.get_bind, hopen]
  dsimp only
  rw [Command.get_bind, hrun]
  exact Command.bind_ok (t := { logs := i.closedLog }) rfl

/-- The line for a load that has failed in a phase. -/
def loadLine (phase : Phase) (error : DecodeError) : String :=
  Command.errorLine i.surroundings ("Failed to decode " ++ i.invocation.path ++
    (" during " ++ phase.name) ++ ": " ++ error.message)

/-- A load that fails in a phase is reported with it. -/
theorem failLoad_of_phase {failure : LoadFailure} {phase : Phase} (h : i.load = .error failure)
    (hphase : failure.phase = some phase) {α : Type} (s : CommandState) :
    (Command.failLoad i.invocation.path failure : Command α) i.surroundings s =
      .error .reported { s with shown := s.shown ++ i.loadLine phase failure.error } := by
  obtain ⟨cause, rfl⟩ := Load.phase_run_of_error _ _ _ h
  cases hcause : cause.isInputFault with
  | true =>
    unfold Command.failLoad
    rw [hphase]
    exact Command.failDecode_of_isInputFault _ hcause s
  | false =>
    rw [DecodeError.inPhase, hcause] at hphase
    cases hphase

/-- A load that fails in no phase is not reported. -/
theorem failLoad_of_no_phase {failure : LoadFailure} (h : i.load = .error failure)
    (hphase : failure.phase = none) :
    ∃ cause, ∀ {α : Type} (s : CommandState),
      (Command.failLoad i.invocation.path failure : Command α) i.surroundings s =
        .error (.crash (.misuse cause)) s := by
  obtain ⟨cause, rfl⟩ := Load.phase_run_of_error _ _ _ h
  cases cause with
  | misuse cause => exact ⟨cause, fun _ => rfl⟩
  | _ => cases hphase

/-! ### Whole runs -/

/-- The run sets up its log and decodes the file before anything else. -/
theorem interpret_eq :
    Command.interpret i.arguments i.surroundings i.start =
      (do
        let file ← Command.decode i.invocation.path i.settings Command.logger
        i.showing file
        i.saving file : Command Unit) i.surroundings { logs := i.openedLog } := by
  have hrequest : Request.ofArguments i.start.logs.store i.arguments =
      .ok (.inspect i.invocation) := i.understood
  unfold Command.interpret
  rw [Command.get_bind, hrequest]
  dsimp only
  unfold Command.perform
  rw [Command.bind_ok i.settings_eq, i.globalSettings_settings, Command.bind_ok i.openLog_eq,
    i.showSymbols_settings]
  unfold showing
  cases i.invocation.json <;> rfl

/-- What the command comes to is what the run does. -/
theorem run_of_ok {s : CommandState}
    (h : Command.interpret i.arguments i.surroundings i.start = .ok () s) :
    i.run = ⟨.finished, s⟩ := by
  rw [start] at h
  rw [run, Command.run, h]

/-- So is where it stops. -/
theorem run_of_error {stop : Stop} {s : CommandState}
    (h : Command.interpret i.arguments i.surroundings i.start = .error stop s) :
    i.run = ⟨.stopped stop, s⟩ := by
  rw [start] at h
  rw [run, Command.run, h]

/-- A run whose load fails in a phase. -/
theorem run_of_phase {failure : LoadFailure} {phase : Phase} (h : i.load = .error failure)
    (hphase : failure.phase = some phase) :
    i.run = ⟨.stopped .reported,
      { logs := i.closedLog, shown := "" ++ i.loadLine phase failure.error }⟩ := by
  refine i.run_of_error ?_
  rw [interpret_eq]
  refine Command.bind_error ?_
  rw [decode_eq, h]
  exact i.failLoad_of_phase h hphase _

/-- A run whose load fails in no phase. -/
theorem run_of_no_phase {failure : LoadFailure} (h : i.load = .error failure)
    (hphase : failure.phase = none) :
    ∃ cause, i.run = ⟨.stopped (.crash (.misuse cause)), { logs := i.closedLog, shown := "" }⟩ := by
  obtain ⟨cause, hfail⟩ := i.failLoad_of_no_phase h hphase
  refine ⟨cause, i.run_of_error ?_⟩
  rw [interpret_eq]
  refine Command.bind_error ?_
  rw [decode_eq, h]
  exact hfail _

/-- A run whose load succeeds goes on with what it shows. -/
theorem interpret_of_ok {file : ElfFile} (h : i.load = .ok file) :
    Command.interpret i.arguments i.surroundings i.start =
      (do i.showing file; i.saving file : Command Unit) i.surroundings
        { logs := i.closedLog } := by
  rw [interpret_eq]
  refine Command.bind_ok ?_
  rw [decode_eq, h]
  rfl

end Inspection

end ElfInspect
