import ElfInspect.Proofs.Json.RoundTrip
import ElfInspect.Proofs.Log.Destinations

namespace ElfInspect

/-!
# Lines of JSON logs

A call whose record passes the level of its channel adds one line to the log file of the channel,
and a call whose record does not pass adds nothing.  The line is a JSON object that tells what the
call has said, where and in which phase.

* `LogCall.IsPlain` — calls that come with JSON fields, which the machine can write, and with
  nothing else;
* `LogRecord.isJson_entries`, `LogRecord.find?_entries` — the object of a record;
* `LogState.store_emit` — what a record does to the files if the log file has room for it;
* `LoggerPool.call_writes_line` — what a call does to them, at any time.
-/

/-! ### Tables -/

/-- A key that no entry has is not found. -/
theorem Value.find?_eq_none {key : String} {entries : List (String × Value)}
    (h : ∀ entry ∈ entries, entry.1 ≠ key) : find? key entries = none := by
  induction entries with
  | nil => rfl
  | cons entry rest ih =>
    obtain ⟨hentry, hrest⟩ := List.forall_mem_cons.mp h
    rw [find?_cons, if_neg hentry, ih hrest]

/-- Entries can be written just if all of their values can. -/
theorem Value.anyEntryTooLong_eq_false_iff {entries : List (String × Value)} :
    anyEntryTooLong entries = false ↔ ∀ entry ∈ entries, entry.2.isTooLong = false := by
  induction entries with
  | nil => simp [anyEntryTooLong]
  | cons entry rest ih =>
    rw [anyEntryTooLong, Bool.or_eq_false_iff, ih, List.forall_mem_cons]

/-- Entries are nested as deeply as the deepest of their values. -/
theorem Value.entryNesting_le_iff {entries : List (String × Value)} {depth : Nat} :
    entryNesting entries ≤ depth ↔ ∀ entry ∈ entries, entry.2.nesting ≤ depth := by
  induction entries with
  | nil => simp [entryNesting]
  | cons entry rest ih =>
    rw [entryNesting, Nat.max_le, ih, List.forall_mem_cons]

/-! ### Records -/

namespace LogRecord

variable {record : LogRecord}

/-- An entry that may be missing has the value that it is made for. -/
theorem eq_some_of_mem_optionalEntry {key : String} {v : Option Value} {entry : String × Value}
    (h : entry ∈ optionalEntry key v) : v = some entry.2 := by
  cases v with
  | none => cases h
  | some v => rw [List.mem_singleton.mp h]

/-- The entries of a record are texts, apart from its extra data. -/
theorem mem_entries {entry : String × Value} (h : entry ∈ record.entries) :
    (∃ s, entry.2 = .text s) ∨ record.extra = some entry.2 := by
  simp only [entries, List.mem_append] at h
  rcases h with ((hfixed | hphase) | hextra) | hattachment
  · simp only [List.mem_cons, List.not_mem_nil, or_false] at hfixed
    rcases hfixed with rfl | rfl | rfl | rfl | rfl <;> exact .inl ⟨_, rfl⟩
  · obtain ⟨phase, -, htext⟩ := Option.map_eq_some_iff.mp (eq_some_of_mem_optionalEntry hphase)
    exact .inl ⟨phase, htext.symm⟩
  · exact .inr (eq_some_of_mem_optionalEntry hextra)
  · split at hattachment
    · exact .inl ⟨_, by rw [List.mem_singleton.mp hattachment]⟩
    · cases hattachment

/-- The object of a record is one that JSON can express if its extra data is. -/
theorem isJson_entries (h : ∀ v, record.extra = some v → v.IsJson) :
    (Value.table record.entries).IsJson := by
  refine .table record.entries fun entry hentry => ?_
  rcases mem_entries hentry with ⟨s, hs⟩ | hextra
  · rw [hs]
    exact .text s
  · exact h entry.2 hextra

/-- All that a record has besides its extra data can be written. -/
theorem isTooLong_entries (h : ∀ v, record.extra = some v → v.isTooLong = false) :
    (Value.table record.entries).isTooLong = false := by
  refine Value.anyEntryTooLong_eq_false_iff.mpr fun entry hentry => ?_
  rcases mem_entries hentry with ⟨s, hs⟩ | hextra
  · rw [hs]
    rfl
  · exact h entry.2 hextra

/-- The object of a record is nested one level deeper than its extra data. -/
theorem nesting_entries_le {depth : Nat} (h : ∀ v, record.extra = some v → v.nesting ≤ depth) :
    (Value.table record.entries).nesting ≤ depth + 1 := by
  rw [Value.nesting, Nat.add_le_add_iff_right]
  refine Value.entryNesting_le_iff.mpr fun entry hentry => ?_
  rcases mem_entries hentry with ⟨s, hs⟩ | hextra
  · rw [hs]
    exact Nat.zero_le depth
  · exact h entry.2 hextra

/-- What the object of a record says of it. -/
theorem find?_entries (record : LogRecord) :
    Value.find? "message" record.entries = some (.text record.message) ∧
    Value.find? "logger" record.entries = some (.text record.channel) ∧
    Value.find? "component" record.entries = some (.text record.component) ∧
    Value.find? "phase" record.entries = record.phase.map .text ∧
    Value.find? "extra" record.entries = record.extra := by
  obtain ⟨occasion, severity, channel, message, component, phase, extra, attachment⟩ := record
  refine ⟨rfl, rfl, rfl, ?_, ?_⟩
  · cases phase <;> cases extra <;> cases attachment <;> rfl
  · cases phase <;> cases extra <;> cases attachment <;> rfl

/-- **One line.**  The text of an object has no line breaks and is read back. -/
theorem jsonText_isLine (h : ∀ v, record.extra = some v → v.IsJson) :
    '\n' ∉ record.jsonText.toList ∧ '\r' ∉ record.jsonText.toList ∧
    Json.read record.jsonText = some (.table record.entries) := by
  have hjson := isJson_entries h
  have hvisible : ∀ c ∈ record.jsonText.toList, 0x20 ≤ c.toNat := fun c hc =>
    (Json.uses_write .line hjson c hc).1.resolve_right fun h => h.2 rfl
  refine ⟨fun hmem => ?_, fun hmem => ?_, Json.read_write .line hjson⟩
  · exact absurd (hvisible _ hmem) (by decide)
  · exact absurd (hvisible _ hmem) (by decide)

end LogRecord

/-! ### Channels that have been set up -/

/-- All handlers of a set-up have its level. -/
theorem LoggerSetup.level_of_mem_handlers {setup : LoggerSetup} {handler : Handler}
    (h : handler ∈ setup.handlers) : handler.level = setup.namedLevel := by
  rcases mem_handlers_cases h with rfl | ⟨path, -, rfl⟩ <;> rfl

section
variable {registry : Registry} {name : String} {setup : LoggerSetup}
  (hchannel : registry.channel name = setup.channel)
include hchannel

/-- The level of a set-up decides which records pass, unless it is left to the channels above. -/
theorem Registry.isEnabled_of_channel (hlevel : 0 < setup.namedLevel) (severity : Severity) :
    registry.isEnabled name severity = decide (setup.namedLevel ≤ severity.level) := by
  have hown : (registry.path name).find? (fun n => (registry.channel n).level ≠ 0) = some name := by
    refine List.find?_cons_of_pos ?_
    rw [hchannel]
    exact decide_eq_true hlevel.ne'
  rw [isEnabled, effectiveLevel, hown]
  simp only [hchannel, LoggerSetup.channel]

/-- Records do not go beyond the handlers of a set-up. -/
theorem Registry.reached_of_channel {severity : Severity}
    (hlevel : setup.namedLevel ≤ severity.level) :
    registry.reached name severity = setup.handlers := by
  have halong : registry.handlersAlong (registry.path name) = setup.handlers := by
    rw [path, handlersAlong, hchannel]
    exact List.append_nil _
  rw [reached, halong, List.filter_eq_self]
  intro handler hmem
  rw [LoggerSetup.level_of_mem_handlers hmem]
  exact decide_eq_true hlevel

end

/-! ### Calls -/

namespace LogState

/-- A record is written as JSON if the machine can write its object. -/
theorem lineOf?_json {record : LogRecord}
    (hlong : (Value.table record.entries).isTooLong = false)
    (hdepth : (Value.table record.entries).nesting < record.occasion.machine.jsonDepth) :
    lineOf? record .json = some (record.jsonText ++ "\n") := by
  have hwritten : ¬((Value.table record.entries).isTooLong = true ∨
      record.occasion.machine.jsonDepth ≤ (Value.table record.entries).nesting) := by
    rintro (h | h)
    · rw [hlong] at h
      cases h
    · omega
  rw [lineOf?]
  exact if_neg hwritten

/-- Whether a line still fits depends on the size of the file. -/
theorem isFull_of_find {state : LogState} {path : String} {location : List String}
    {content : Bytes} (hfind : state.store.find path = .ok (location, .file content))
    (rotation : Rotation) (line : String) :
    state.isFull path rotation line = rotation.isDue content.size line.length := by
  simp only [isFull, Store.fileSize?, hfind]

section
variable {state : LogState} {record : LogRecord} {path : String} {rotation : Rotation}
  {location : List String} {content : Bytes}
  (hline : lineOf? record .json = some (record.jsonText ++ "\n"))
  (hroom : rotation.isDue content.size (record.jsonText.length + 1) = false)
include hline hroom

/-- The handler of a JSON log file adds the line of a record to it if there is room. -/
theorem store_write (hfind : state.store.find path = .ok (location, .file content))
    (level : Nat) :
    (write record state ⟨.file path .json rotation, level⟩).store =
      state.store.put location
        (content ++ (Utf8.encode (record.jsonText ++ "\n").toList).toArray) := by
  have hlength : (record.jsonText ++ "\n").length = record.jsonText.length + 1 :=
    String.length_append _ _
  have hfull : state.isFull path rotation (record.jsonText ++ "\n") = false := by
    rw [isFull_of_find hfind, hlength, hroom]
  simp only [write, hline, hfull, Bool.false_eq_true, if_false]
  exact store_addLine hfind _

/-- **One record.**  Where a JSON log file has been set up and has room for the line of a record,
    this line is added to it, and no other file changes. -/
theorem store_emit {setup : LoggerSetup} (hrotation : setup.rotation = rotation)
    (hchannel : state.registry.channel record.channel = setup.channel)
    (hlevel : setup.namedLevel ≤ record.severity.level) {file : String}
    (hfile : setup.file = some file) (hlayout : setup.layout = .json)
    (hfind : state.store.find (Path.normalize file) = .ok (location, .file content)) :
    (state.emit record).store =
      state.store.put location
        (content ++ (Utf8.encode (record.jsonText ++ "\n").toList).toArray) := by
  subst hrotation
  rw [emit, Registry.reached_of_channel hchannel hlevel, LoggerSetup.handlers, hfile, hlayout]
  -- the console comes first, and what it shows makes no difference to the files
  cases setup.console with
  | false => exact store_write hline hroom hfind setup.namedLevel
  | true =>
    have hwritten := fun console =>
      @store_write { state with console } record _ _ _ _ hline hroom hfind setup.namedLevel
    exact hwritten (state.console ++ record.plainText ++ "\n")

end

end LogState

/-- The parameters of a call, which no field can be named for. -/
def callParameters : List String :=
  givenParameters ++ "extra" :: steeringParameters

/-- Calls that come with fields that JSON can express, and with nothing else beside the message and
    its arguments.  No field has the name of a parameter, and the fields are such that the machine
    can write an object with them. -/
structure LogCall.IsPlain (call : LogCall) (machine : Machine) : Prop where
  attributes : call.attributes = .null
  attachment : call.attachment = .nothing
  names : ∀ field ∈ call.fields, field.1 ∉ callParameters
  isJson : ∀ field ∈ call.fields, field.2.IsJson
  isTooLong : (Value.table call.fields).isTooLong = false
  shallow : (Value.table call.fields).nesting + 1 < machine.jsonDepth

namespace LogCall.IsPlain

variable {call : LogCall} {machine : Machine}

/-- No keyword is a parameter that has been given. -/
theorem find?_givenParameters (h : call.IsPlain machine) :
    (call.fields.find? fun f => f.1 ∈ givenParameters) = none := by
  refine List.find?_eq_none.mpr fun field hmem hgiven => ?_
  exact h.names field hmem (List.mem_append_left _ (of_decide_eq_true hgiven))

/-- No keyword steers the call. -/
theorem notMem_steeringParameters (h : call.IsPlain machine) {field : String × Value}
    (hmem : field ∈ call.fields) : field.1 ∉ steeringParameters := fun hsteering =>
  h.names field hmem (List.mem_append_right _ (.tail "extra" hsteering))

/-- The caller is looked for in its place. -/
theorem wrongDepth? (h : call.IsPlain machine) : call.wrongDepth? = none := by
  have hdepth : Value.find? depthParameter call.fields = none := by
    refine Value.find?_eq_none fun field hmem heq => ?_
    refine h.notMem_steeringParameters hmem ?_
    rw [heq]
    decide
  rw [LogCall.wrongDepth?, hdepth]
  rfl

/-- All keywords are extra data. -/
theorem data (h : call.IsPlain machine) : call.data = call.fields :=
  List.filter_eq_self.mpr fun _ hmem => decide_eq_true (h.notMem_steeringParameters hmem)

/-- The extra data of a record are the fields of the call. -/
theorem extra (h : call.IsPlain machine) :
    call.extra = if call.fields.isEmpty then none else some (.table call.fields) := by
  rw [LogCall.extra, h.data, h.attributes]
  split <;> rfl

end LogCall.IsPlain

/-- A call whose arguments fit its message emits one record, if that passes. -/
theorem ScopeLogger.log_of_isPlain (logger : ScopeLogger) {occasion : Occasion} {call : LogCall}
    {text : String} (hcall : call.IsPlain occasion.machine)
    (htext : Template.fill occasion.machine call.message call.arguments = .ok text)
    (state : LogState) :
    logger.log occasion call state =
      .ok (if state.registry.isEnabled (channelName logger.component) call.severity then
        state.emit (logger.record occasion call text) else state) := by
  have hattributes : call.attributeEntries = .ok [] := by
    rw [LogCall.attributeEntries, hcall.attributes]
    rfl
  simp only [log, hcall.find?_givenParameters, hattributes, submit, hcall.wrongDepth?, htext,
    List.find?_nil]
  split <;> rfl

/-! ### Lines at any time -/

/-- The line tells what a logger has been called for: it is one line, and reads as an object with
    the message in final form, the channel, the component, the phase under way and the fields. -/
structure IsLineOf (line : String) (logger : ScopeLogger) (call : LogCall) (text : String) :
    Prop where
  noLineFeed : '\n' ∉ line.toList
  noReturn : '\r' ∉ line.toList
  object : ∃ entries, Json.read line = some (.table entries) ∧
    Value.find? "message" entries = some (.text text) ∧
    Value.find? "logger" entries = some (.text ("elfscope." ++ logger.component)) ∧
    Value.find? "component" entries = some (.text logger.component) ∧
    Value.find? "phase" entries = logger.phase.map .text ∧
    Value.find? "extra" entries =
      if call.fields.isEmpty then none else some (.table call.fields)

section
variable {call : LogCall} {occasion : Occasion} (hcall : call.IsPlain occasion.machine)
include hcall

/-- The extra data can be written. -/
theorem LogCall.IsPlain.isJson_extra {v : Value} (h : call.extra = some v) : v.IsJson := by
  rw [hcall.extra] at h
  split at h
  · cases h
  · cases h
    exact .table call.fields hcall.isJson

/-- None of its integers is too long. -/
theorem LogCall.IsPlain.isTooLong_extra {v : Value} (h : call.extra = some v) :
    v.isTooLong = false := by
  rw [hcall.extra] at h
  split at h
  · cases h
  · cases h
    exact hcall.isTooLong

/-- It is nested as deeply as the keywords. -/
theorem LogCall.IsPlain.nesting_extra {v : Value} (h : call.extra = some v) :
    v.nesting ≤ (Value.table call.fields).nesting := by
  rw [hcall.extra] at h
  split at h
  · cases h
  · cases h
    exact Nat.le_refl _

/-- The record of a plain call can be written. -/
theorem LogState.lineOf?_record (logger : ScopeLogger) (text : String) :
    lineOf? (logger.record occasion call text) .json =
      some ((logger.record occasion call text).jsonText ++ "\n") := by
  refine lineOf?_json (LogRecord.isTooLong_entries fun _ => hcall.isTooLong_extra) ?_
  have hnesting : (Value.table (logger.record occasion call text).entries).nesting ≤
      (Value.table call.fields).nesting + 1 :=
    LogRecord.nesting_entries_le fun _ => hcall.nesting_extra
  exact Nat.lt_of_le_of_lt hnesting hcall.shallow

theorem isLineOf_jsonText (logger : ScopeLogger) (text : String) :
    IsLineOf (logger.record occasion call text).jsonText logger call text := by
  have hjson : ∀ v, (logger.record occasion call text).extra = some v → v.IsJson := fun _ =>
    hcall.isJson_extra
  obtain ⟨hfeed, hreturn, hread⟩ := LogRecord.jsonText_isLine hjson
  obtain ⟨hmessage, hlogger, hcomponent, hphase, hextra⟩ :=
    (logger.record occasion call text).find?_entries
  exact ⟨hfeed, hreturn, _, hread, hmessage, hlogger, hcomponent, hphase, hextra.trans hcall.extra⟩

end

namespace LoggerPool

/-- **Lines of JSON logs.**  Let the last set-up of a component in effect have a level of its own
    and a JSON log file, after any requests in which no log file has been full.  Then the log file
    is in its place, and a plain call of any logger of the component, whose arguments fit its
    message, goes well.

    * If its severity is below the level, no file changes.
    * Otherwise, if the log file has room for it, the file has one more line, which tells what the
      call has said, and no other file changes. -/
theorem call_writes_line {store : Store} {history : List (Occasion × LoggerRequest)}
    {served : List ServedRequest} {pool : LoggerPool}
    (hrun : serveAll { logs := { store } } history = (served, pool))
    (hmoves : pool.logs.moves = 0) {component path : String} {setup : LoggerSetup}
    (hsetup : lastEffect? component served = some setup) (hlevel : 0 < setup.namedLevel)
    (hfile : setup.file = some path) (hlayout : setup.layout = .json) {name : String}
    {logger : ScopeLogger} (hlogger : pool.loggers.lookup name = some logger)
    (hcomponent : logger.component = component) {occasion : Occasion} {call : LogCall}
    (hcall : call.IsPlain occasion.machine) {text : String}
    (htext : Template.fill occasion.machine call.message call.arguments = .ok text) :
    let line := (logger.record occasion call text).jsonText
    IsLineOf line logger call text ∧
    ∃ location content after,
      pool.logs.store.find (Path.normalize path) = .ok (location, .file content) ∧
      pool.serve occasion (.call name call) = (.ok (), after) ∧
      (call.severity.level < setup.namedLevel → after.logs.store = pool.logs.store) ∧
      (setup.namedLevel ≤ call.severity.level →
        setup.rotation.isDue content.size (line.length + 1) = false →
        after.logs.store.fileAt location =
          some (content ++ (Utf8.encode (line ++ "\n").toList).toArray) ∧
        ∀ other ≠ location, after.logs.store.fileAt other = pool.logs.store.fileAt other) := by
  intro line
  subst hcomponent
  have hchannel : pool.logs.registry.channel (channelName logger.component) = setup.channel := by
    have hlast := channel_serveAll { logs := { store } } logger.component history
    rwa [hrun, hsetup] at hlast
  obtain ⟨location, content, hfind⟩ := exists_file hrun hsetup hfile hmoves
  have henabled := Registry.isEnabled_of_channel hchannel hlevel call.severity
  have hlog := logger.log_of_isPlain hcall htext pool.logs
  have hserve {logs : LogState} (h : logger.log occasion call pool.logs = .ok logs) :
      pool.serve occasion (.call name call) = (.ok (), { pool with logs }) := by
    simp only [serve, withLogger, hlogger, LoggerPool.call, h]
  refine ⟨isLineOf_jsonText hcall logger text, location, content, ?_⟩
  rw [henabled] at hlog
  -- the level of the channel is that of its handlers, so that both let the record through or
  -- neither
  by_cases hpasses : setup.namedLevel ≤ call.severity.level
  · rw [decide_eq_true hpasses, if_pos rfl] at hlog
    refine ⟨_, hfind, hserve hlog, fun hbelow => ?_, fun _ hroom => ?_⟩
    · exact absurd hpasses (Nat.not_le_of_lt hbelow)
    · have hstore : (pool.logs.emit (logger.record occasion call text)).store = _ :=
        LogState.store_emit (LogState.lineOf?_record hcall logger text) hroom rfl hchannel hpasses
          hfile hlayout hfind
      refine ⟨?_, fun other hother => ?_⟩
      · simp only [hstore, Store.fileAt_put, if_true]
        rfl
      · simp only [hstore, Store.fileAt_put, if_neg hother]
  · rw [decide_eq_false hpasses, if_neg Bool.false_ne_true] at hlog
    exact ⟨_, hfind, hserve hlog, fun _ => rfl, fun h => absurd h hpasses⟩

/-- Two loggers of one component, of which the second one takes the channel as the first one has set
    it up, in a phase of its own. -/
def sharedLog : List (Occasion × LoggerRequest) :=
  [(default, .create "a" "c" { file := some "x.log", layout := .json } true),
   (default, .quiet "b" "c"),
   (default, .enter "b" "decode")]

/-- A call with a message of two lines and one field. -/
def sharedCall (field : String) : LogCall :=
  { severity := .info, message := "read %d\n", arguments := [.integer 7]
    fields := [(field, .null)] }

/-- An occasion on a machine that writes what is nested up to seven levels deep. -/
def shallowOccasion : Occasion :=
  { toClock := default, machine := { room := default, textDepth := 8, jsonDepth := 8 } }

/-- The second logger adds a line to the log file, which is still empty. -/
theorem call_writes_line_sharedLog :
    let pool := (serveAll { logs := {} } sharedLog).2
    ∃ after line, pool.serve shallowOccasion (.call "b" (sharedCall "n")) = (.ok (), after) ∧
      IsLineOf line ⟨"c", some "decode", [none]⟩ (sharedCall "n") "read 7\n" ∧
      after.logs.store.fileAt ["x.log"] = some (Utf8.encode (line ++ "\n").toList).toArray := by
  have hcall : (sharedCall "n").IsPlain shallowOccasion.machine := by
    refine ⟨rfl, rfl, ?_, ?_, rfl, by decide⟩
    · decide
    · intro field hfield
      rw [List.mem_singleton.mp hfield]
      exact .null
  have hlogger : (serveAll { logs := {} } sharedLog).2.loggers.lookup "b" =
      some ⟨"c", some "decode", [none]⟩ := by decide +kernel
  have hsetup : lastEffect? "c" (serveAll { logs := {} } sharedLog).1 =
      some { file := some "x.log", layout := .json } := by decide +kernel
  have htext : Template.fill shallowOccasion.machine (sharedCall "n").message
      (sharedCall "n").arguments = .ok "read 7\n" := by decide +kernel
  obtain ⟨hline, location, content, after, hfind, hserve, -, hfile⟩ :=
    call_writes_line (Prod.eta _).symm (by decide +kernel) hsetup (by decide +kernel) rfl rfl
      hlogger rfl hcall htext
  -- the log file is the one that has been opened, and it is still empty
  have hplace : ((serveAll { logs := {} } sharedLog).2.logs.store.find
      (Path.normalize "x.log")).toOption = some (["x.log"], .file #[]) := by decide +kernel
  rw [hfind] at hplace
  cases hplace
  obtain ⟨hadded, -⟩ := hfile (by decide +kernel) (by decide +kernel)
  rw [Array.empty_append] at hadded
  exact ⟨after, _, hserve, hline, hadded⟩

/-- A field that is named for the logger itself keeps a call from being made, and nothing is
    written, although the severity passes and the arguments fit the message. -/
theorem not_call_writes_line_self :
    let (served, pool) := serveAll { logs := {} } sharedLog
    lastEffect? "c" served = some { file := some "x.log", layout := .json } ∧
    pool.loggers.lookup "b" = some ⟨"c", some "decode", [none]⟩ ∧
    ({ file := some "x.log", layout := .json } : LoggerSetup).namedLevel ≤
      (sharedCall "self").severity.level ∧
    (∀ field ∈ (sharedCall "self").fields,
      field.1 ∉ "msg" :: "extra" :: steeringParameters ∧ field.2.IsJson) ∧
    Template.fill shallowOccasion.machine (sharedCall "self").message
      (sharedCall "self").arguments = .ok "read 7\n" ∧
    pool.serve shallowOccasion (.call "b" (sharedCall "self")) =
      (.error (.log (.givenTwice .info "self")), pool) := by
  refine ⟨by decide +kernel, by decide +kernel, by decide +kernel, ?_, by decide +kernel, rfl⟩
  intro field hfield
  rw [List.mem_singleton.mp hfield]
  exact ⟨by decide, .null⟩

end LoggerPool

end ElfInspect
