import ElfInspect.Log.Logger

namespace ElfInspect

/-!
# What a logger leaves alone

Channels change when they are set up and at no other time.  Writing records changes the files and
the console only, and setting up one channel changes no other.

* `Registry.channel_setChannel`, `Registry.channel_know` — the channels after one is set up or made
  known;
* `LogState.registry_emit`, `ScopeLogger.registry_replay`, `ScopeLogger.registry_log` — records and
  channels;
* `LogState.IsKept` — what all handlers keep, with `LogState.IsKept.replay` for journals;
* `LoggerSetup.namedLevel`, `LoggerSetup.channel` — the level and the channel of a set-up, with
  `LoggerSetup.mem_handlers_cases` for its handlers;
* `LogState.configure_cases` — the three ways in which setting up a channel ends.
-/

/-! ### The registry -/

/-- Entries of other keys are found as before when those of a key are left out. -/
theorem lookup_filter_ne {α : Type} {entries : List (String × α)} {key other : String}
    (h : other ≠ key) : (entries.filter (·.1 ≠ key)).lookup other = entries.lookup other := by
  induction entries with
  | nil => rfl
  | cons entry rest ih =>
    by_cases hentry : entry.1 = key
    · -- the entry is left out, and it is none of the other key
      have hne : (other == entry.1) = false := by simp [hentry, h]
      rw [List.filter_cons_of_neg (by simp [hentry]), ih, List.lookup_cons, hne]
    · rw [List.filter_cons_of_pos (by simp [hentry]), List.lookup_cons, List.lookup_cons, ih]

namespace Registry

variable (registry : Registry) (name other : String) (c : Channel)

/-- Setting up a channel changes no other. -/
theorem channel_setChannel :
    (registry.setChannel name c).channel other =
      if other = name then c else registry.channel other := by
  by_cases h : other = name
  · rw [if_pos h, h, channel_setChannel_self]
  · have hne : (other == name) = false := by simp [h]
    simp only [setChannel, channel, List.lookup_cons, hne, lookup_filter_ne h, if_neg h]

/-- A channel that has not been asked for yet has no settings of its own. -/
theorem channel_of_not_knows (h : registry.knows name = false) : registry.channel name = {} := by
  have hlookup : registry.channels.lookup name = none := by
    rw [List.lookup_eq_none_iff]
    intro entry hentry
    have hne : ¬ entry.1 = name := fun heq => by
      have hknows : registry.knows name = true :=
        List.any_eq_true.mpr ⟨entry, hentry, by simp [heq]⟩
      rw [h] at hknows
      cases hknows
    simpa using Ne.symm hne
  rw [channel, hlookup, Option.getD_none]

/-- A channel that becomes known is as it stands. -/
@[simp]
theorem channel_know : (registry.know name).channel other = registry.channel other := by
  unfold know
  split
  · rfl
  · rename_i hknows
    rw [channel_setChannel]
    split
    · rename_i heq
      rw [heq, channel_of_not_knows registry name (by simpa using hknows)]
    · rfl

variable {registry name}

/-- The handlers that are met on the way up belong to the channels there. -/
theorem exists_channel_of_mem_handlersAlong {names : List String} {handler : Handler}
    (h : handler ∈ registry.handlersAlong names) :
    ∃ other, handler ∈ (registry.channel other).handlers := by
  induction names with
  | nil => cases h
  | cons first above ih =>
    simp only [handlersAlong] at h
    rcases List.mem_append.mp h with hfirst | habove
    · exact ⟨first, hfirst⟩
    · split at habove
      · exact ih habove
      · cases habove

/-- A record reaches handlers of channels only. -/
theorem exists_channel_of_mem_reached {severity : Severity} {handler : Handler}
    (h : handler ∈ registry.reached name severity) :
    ∃ other, handler ∈ (registry.channel other).handlers :=
  exists_channel_of_mem_handlersAlong (List.mem_filter.mp h).1

end Registry

/-! ### Records -/

namespace LogState

variable (state : LogState) (record : LogRecord)

/-- Writing a line changes no channel. -/
@[simp]
theorem registry_addLine (path line : String) :
    (state.addLine path line).registry = state.registry := by
  unfold addLine
  split <;> rfl

/-- Nor does moving a full file aside. -/
@[simp]
theorem registry_addAside (path : String) (rotation : Rotation) (line : String) :
    (state.addAside path rotation line).registry = state.registry := by
  unfold addAside
  dsimp only
  split
  · rw [registry_addLine]
  · rfl

/-- Nor does whatever a handler does with a record. -/
@[simp]
theorem registry_write (handler : Handler) :
    (write record state handler).registry = state.registry := by
  unfold write
  split
  · rfl
  · split
    · rfl
    · split
      · exact registry_addAside _ _ _ _
      · exact registry_addLine _ _ _

end LogState

/-- A property of log states that every handler of a channel keeps when it writes a record. -/
def LogState.IsKept (P : LogState → Prop) : Prop :=
  ∀ state record name, ∀ handler ∈ (state.registry.channel name).handlers,
    P state → P (write record state handler)

namespace LogState.IsKept

variable {P : LogState → Prop} (h : IsKept P) {state : LogState} (hstate : P state)

include h hstate

/-- It is kept when a record is written, whichever handlers the record reaches. -/
theorem emit (record : LogRecord) : P (state.emit record) := by
  have hreached : ∀ handler ∈ state.registry.reached record.channel record.severity,
      ∃ name, handler ∈ (state.registry.channel name).handlers := fun _ =>
    Registry.exists_channel_of_mem_reached
  unfold LogState.emit
  -- the handlers are those of the first state, and the channels stay what they are
  generalize state.registry.reached record.channel record.severity = handlers at hreached ⊢
  induction handlers generalizing state with
  | nil => exact hstate
  | cons handler rest ih =>
    obtain ⟨name, hname⟩ := hreached handler List.mem_cons_self
    refine ih (h state record name handler hname hstate) fun other hmem => ?_
    rw [registry_write]
    exact hreached other (List.mem_cons_of_mem handler hmem)

variable (logger : ScopeLogger) (occasion : Occasion)

/-- So it is by a remark. -/
theorem say (severity : Severity) (message : String) :
    P (logger.say occasion severity message state) := by
  unfold ScopeLogger.say
  split
  · exact h.emit hstate _
  · exact hstate

/-- So it is by an action of a journal. -/
theorem act (action : LogAction) : P (ScopeLogger.act occasion (logger, state) action).2 := by
  cases action with
  | openScope phase => exact hstate
  | closeScope => exact hstate
  | emit severity message => exact h.say hstate logger occasion severity message
  | emitTimed severity label => exact h.say hstate logger occasion severity _

/-- **Journals.**  What every handler keeps is kept when a journal is carried out. -/
theorem replay (journal : List LogAction) : P (logger.replay occasion journal state).2 := by
  induction journal generalizing logger state with
  | nil => exact hstate
  | cons action rest ih => exact ih (h.act hstate logger occasion action) _

end LogState.IsKept

namespace LogState

variable (state : LogState)

/-- All handlers keep the channels as they are. -/
theorem isKept_registry (registry : Registry) : IsKept (·.registry = registry) :=
  fun state record _ handler _ h => (state.registry_write record handler).trans h

/-- Writing a record changes no channel. -/
@[simp]
theorem registry_emit (record : LogRecord) : (state.emit record).registry = state.registry :=
  (isKept_registry state.registry).emit rfl record

end LogState

namespace ScopeLogger

variable (logger : ScopeLogger) (occasion : Occasion) (state : LogState)

/-- Nor does a remark. -/
@[simp]
theorem registry_say (severity : Severity) (message : String) :
    (logger.say occasion severity message state).registry = state.registry :=
  (LogState.isKept_registry state.registry).say rfl logger occasion severity message

/-- Carrying out a journal changes no channel. -/
@[simp]
theorem registry_replay (journal : List LogAction) :
    (logger.replay occasion journal state).2.registry = state.registry :=
  (LogState.isKept_registry state.registry).replay rfl logger occasion journal

/-- A call that is let through emits its record, unless there is something wrong with it. -/
theorem submit_cases {call : LogCall} {attributes : List (String × Value)} {state' : LogState}
    (h : logger.submit occasion call attributes state = .ok state') :
    state' = state ∨ ∃ message, state' = state.emit (logger.record occasion call message) := by
  unfold submit at h
  split at h
  · cases h
  · cases h
  · split at h
    · unfold rejected at h
      dsimp only at h
      split at h
      · cases h
      · exact .inl (Except.ok.inj h).symm
    · exact .inr ⟨_, (Except.ok.inj h).symm⟩

/-- A call emits its record or does nothing. -/
theorem log_cases {call : LogCall} {state' : LogState}
    (h : logger.log occasion call state = .ok state') :
    state' = state ∨ ∃ message, state' = state.emit (logger.record occasion call message) := by
  unfold log at h
  split at h
  · cases h
  · split at h
    · cases h
    · split at h
      · exact logger.submit_cases occasion state h
      -- the level keeps the call from being looked at
      · exact .inl (Except.ok.inj h).symm

/-- A call changes no channel. -/
theorem registry_log {call : LogCall} {state' : LogState}
    (h : logger.log occasion call state = .ok state') : state'.registry = state.registry := by
  rcases logger.log_cases occasion state h with rfl | ⟨message, rfl⟩
  · rfl
  · exact LogState.registry_emit state _

end ScopeLogger

/-! ### Setting up a channel -/

/-- The spelling under which a level name is looked up. -/
def levelKey (name : String) : String :=
  String.ofList (name.toList.flatMap upperLevelChar)

/-- The level that a set-up asks for: that of its name, and the level of information if the name is
    unknown. -/
def LoggerSetup.namedLevel (setup : LoggerSetup) : Nat :=
  (namedLevels.lookup (levelKey setup.level)).getD Severity.info.level

/-- A level name that denotes no level is one of the misnamed ones. -/
theorem mem_of_levelNamed_error {name : String} {fault : LogFault}
    (h : levelNamed name = .error fault) : (levelKey name, fault) ∈ misnamedLevels := by
  unfold levelNamed at h
  dsimp only at h
  split at h
  · cases h
  · rename_i hlookup
    obtain ⟨before, after, hsplit, -⟩ := List.lookup_eq_some_iff.mp hlookup
    rw [← Except.error.inj h, hsplit]
    exact List.mem_append_right before List.mem_cons_self
  · cases h

/-- A level name has nothing to do with files. -/
theorem levelNamed_ne_refused (name : String) (cause : PathFault) :
    levelNamed name ≠ .error (.refused cause) := by
  intro h
  have hmem := mem_of_levelNamed_error h
  simp [misnamedLevels] at hmem

/-- The level of a set-up is the one that its name stands for. -/
theorem LoggerSetup.namedLevel_of_levelNamed {setup : LoggerSetup} {level : Nat}
    (h : levelNamed setup.level = .ok level) : setup.namedLevel = level := by
  unfold levelNamed at h
  dsimp only at h
  split at h
  · rename_i hlookup
    rw [namedLevel, levelKey, hlookup, ← Except.ok.inj h, Option.getD_some]
  · cases h
  · rename_i hlookup _
    rw [namedLevel, levelKey, hlookup, ← Except.ok.inj h]
    rfl

/-- The handlers of a set-up, each at its level: the console if it is asked for, and then the file
    if there is one. -/
def LoggerSetup.handlers (setup : LoggerSetup) : List Handler :=
  (if setup.console then [⟨.console, setup.namedLevel⟩] else []) ++
    match setup.file with
    | some path => [⟨.file (Path.normalize path) setup.layout setup.rotation, setup.namedLevel⟩]
    | none => []

/-- A handler of a set-up is at its level, and it writes to the console or to its file. -/
theorem LoggerSetup.mem_handlers_cases {setup : LoggerSetup} {handler : Handler}
    (h : handler ∈ setup.handlers) :
    handler = ⟨.console, setup.namedLevel⟩ ∨ ∃ path, setup.file = some path ∧
      handler = ⟨.file (Path.normalize path) setup.layout setup.rotation, setup.namedLevel⟩ := by
  rcases List.mem_append.mp h with hconsole | hfile
  · split at hconsole
    · exact .inl (List.mem_singleton.mp hconsole)
    · cases hconsole
  · cases hpath : setup.file with
    | none =>
      rw [hpath] at hfile
      cases hfile
    | some path =>
      rw [hpath] at hfile
      exact .inr ⟨path, rfl, List.mem_singleton.mp hfile⟩

/-- The channel that a set-up makes. -/
def LoggerSetup.channel (setup : LoggerSetup) : Channel :=
  { level := setup.namedLevel, propagates := false, handlers := setup.handlers }

/-- What is left of a set-up whose log file cannot be opened. -/
def LoggerSetup.withoutFile (setup : LoggerSetup) : LoggerSetup :=
  { setup with file := none }

/-- **Setting up a channel.**  Either the level name denotes no level, and nothing changes; or the
    log file cannot be opened, and the channel is left without it; or all goes well. -/
theorem LogState.configure_cases (state : LogState) (component : String) (setup : LoggerSetup) :
    (∃ fault, levelNamed setup.level = .error fault ∧
      state.configure component setup = (.error fault, state.know component)) ∨
    (∃ cause store, state.configure component setup = (.error (.refused cause),
      { state with store }.setChannel component setup.withoutFile.channel)) ∨
    ∃ store, state.configure component setup =
      (.ok (), { state with store }.setChannel component setup.channel) := by
  cases hlevel : levelNamed setup.level with
  | error fault =>
    refine .inl ⟨fault, rfl, ?_⟩
    simp only [configure, hlevel]
  | ok level =>
    refine .inr ?_
    have hnamed : setup.namedLevel = level := LoggerSetup.namedLevel_of_levelNamed hlevel
    have hwithout : setup.withoutFile.namedLevel = level := hnamed
    cases hfile : setup.file with
    | none =>
      refine .inr ⟨state.store, ?_⟩
      simp only [configure, hlevel, hfile, LoggerSetup.channel, LoggerSetup.handlers, hnamed,
        List.append_nil]
    | some path =>
      -- the level is set before the log file is opened
      rcases hopen : openLog state.store (Path.normalize path) with ⟨_ | cause, store⟩
      · refine .inr ⟨store, ?_⟩
        simp only [configure, hlevel, hfile, hopen, LoggerSetup.channel, LoggerSetup.handlers,
          hnamed]
      · refine .inl ⟨cause, store, ?_⟩
        simp only [configure, hlevel, hfile, hopen, LoggerSetup.channel, LoggerSetup.handlers,
          hwithout]
        rw [LoggerSetup.withoutFile, List.append_nil]

end ElfInspect
