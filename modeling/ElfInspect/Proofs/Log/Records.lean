import ElfInspect.Proofs.Load.Journal
import ElfInspect.Proofs.Log.Channels

namespace ElfInspect

/-!
# The records of a journal

A logger that carries out a journal makes records, each with the phase of the innermost scope that
is open, and emits those that its channel lets pass.

* `ScopeLogger.records` — the records, in order;
* `ScopeLogger.replay_snd` — carrying out a journal is emitting those records of it that pass;
* `ScopeLogger.replay_snd_of_enabled` — and all of them where debug records pass;
* `ScopeLogger.records_append` — the records of one journal behind another one whose scopes are
  closed.
-/

namespace ScopeLogger

variable (logger : ScopeLogger) (occasion : Occasion)

/-- The record of a message in final form. -/
def remark (severity : Severity) (message : String) : LogRecord :=
  logger.record occasion { severity, message } message

@[simp] theorem remark_severity (severity : Severity) (message : String) :
    (logger.remark occasion severity message).severity = severity := rfl

@[simp] theorem remark_channel (severity : Severity) (message : String) :
    (logger.remark occasion severity message).channel = channelName logger.component := rfl

/-- The records that a logger makes of a journal, whether they pass its channel or not. -/
def records (occasion : Occasion) : ScopeLogger → List LogAction → List LogRecord
  | _, [] => []
  | logger, .openScope phase :: rest => records occasion (logger.enter phase) rest
  | logger, .closeScope :: rest => records occasion logger.leave rest
  | logger, .emit severity message :: rest =>
    logger.remark occasion severity message :: records occasion logger rest
  | logger, .emitTimed severity label :: rest =>
    logger.remark occasion severity (completion occasion label) :: records occasion logger rest

/-- A scope does not change the component. -/
@[simp] theorem component_enter (phase : String) :
    (logger.enter phase).component = logger.component := rfl

/-- Nor does leaving it. -/
@[simp] theorem component_leave : logger.leave.component = logger.component := by
  unfold leave leaveAt
  split <;> rfl

/-- Whether the channel lets a record pass. -/
def passes (state : LogState) (record : LogRecord) : Bool :=
  state.registry.isEnabled record.channel record.severity

/-- A remark is a record that is emitted if it passes. -/
theorem say_eq (severity : Severity) (message : String) (state : LogState) :
    logger.say occasion severity message state =
      if passes state (logger.remark occasion severity message) then
        state.emit (logger.remark occasion severity message)
      else state := rfl

/-- A record is emitted if it passes, and which ones pass later is the same either way. -/
theorem foldl_emit_cons (severity : Severity) (message : String) (later : List LogRecord)
    (state : LogState) :
    ((logger.remark occasion severity message :: later).filter (passes state)).foldl
        LogState.emit state =
      (later.filter (passes (logger.say occasion severity message state))).foldl LogState.emit
        (logger.say occasion severity message state) := by
  have hpasses : passes (logger.say occasion severity message state) = passes state := by
    funext other
    rw [passes, passes, registry_say]
  rw [hpasses, say_eq]
  by_cases h : passes state (logger.remark occasion severity message) = true
  · rw [List.filter_cons_of_pos h, List.foldl_cons, if_pos h]
  · rw [List.filter_cons_of_neg h, if_neg h]

/-- **Carrying out a journal** is emitting those of its records that pass. -/
theorem replay_snd (journal : List LogAction) (state : LogState) :
    (logger.replay occasion journal state).2 =
      ((logger.records occasion journal).filter (passes state)).foldl LogState.emit state := by
  induction journal generalizing logger state with
  | nil => rfl
  | cons action rest ih =>
    cases action with
    | openScope phase => exact ih (logger.enter phase) state
    | closeScope => exact ih logger.leave state
    | emit severity message => exact (ih logger _).trans (logger.foldl_emit_cons occasion ..).symm
    | emitTimed severity label =>
      exact (ih logger _).trans (logger.foldl_emit_cons occasion ..).symm

/-- All records of a logger go through the channel of its component. -/
theorem channel_of_mem_records {journal : List LogAction} {record : LogRecord}
    (h : record ∈ logger.records occasion journal) :
    record.channel = channelName logger.component := by
  induction journal generalizing logger with
  | nil => cases h
  | cons action rest ih =>
    cases action with
    -- scopes change the phase of a logger and nothing else
    | openScope phase => exact ih (logger.enter phase) h
    | closeScope => exact (ih logger.leave h).trans (by rw [component_leave])
    | emit severity message =>
      rcases List.mem_cons.mp h with rfl | hrest
      · rfl
      · exact ih logger hrest
    | emitTimed severity label =>
      rcases List.mem_cons.mp h with rfl | hrest
      · rfl
      · exact ih logger hrest

/-- Where debug records pass, all records do. -/
theorem isEnabled_of_debug {registry : Registry} {name : String}
    (h : registry.isEnabled name .debug = true) (severity : Severity) :
    registry.isEnabled name severity = true := by
  simp only [Registry.isEnabled, decide_eq_true_eq] at h ⊢
  refine Nat.le_trans h ?_
  cases severity <;> decide

/-- Where debug records pass, carrying out a journal is emitting all of its records. -/
theorem replay_snd_of_enabled {state : LogState}
    (h : state.registry.isEnabled (channelName logger.component) .debug = true)
    (journal : List LogAction) :
    (logger.replay occasion journal state).2 =
      (logger.records occasion journal).foldl LogState.emit state := by
  have hall : ∀ record ∈ logger.records occasion journal, passes state record = true := by
    intro record hrecord
    rw [passes, logger.channel_of_mem_records occasion hrecord]
    exact isEnabled_of_debug h record.severity
  rw [replay_snd, List.filter_eq_self.mpr hall]

/-- **Journals one after another.**  Behind a journal whose scopes are closed, the logger goes on as
    if it had just begun. -/
theorem records_append {journal : List LogAction} (h : Nested journal) (later : List LogAction) :
    logger.records occasion (journal ++ later) =
      logger.records occasion journal ++ logger.records occasion later := by
  -- the entries behind a scope, and the scope itself behind its inner ones, are later ones as well
  induction h generalizing logger later with
  | nil => rfl
  | emit severity message _ ih => exact congrArg (_ :: ·) (ih logger later)
  | emitTimed severity label _ ih => exact congrArg (_ :: ·) (ih logger later)
  | @scope phase inner rest _ _ ihinner ihrest =>
    have hleave (entries : List LogAction) :
        records occasion (logger.enter phase) (.closeScope :: entries) =
          logger.records occasion entries := by
      rw [records, leave_enter]
    show records occasion (logger.enter phase) (inner ++ .closeScope :: rest ++ later) =
      records occasion (logger.enter phase) (inner ++ .closeScope :: rest) ++ _
    rw [List.append_assoc, List.cons_append, ihinner, ihinner, hleave, hleave, ihrest,
      List.append_assoc]

end ScopeLogger

end ElfInspect
