import ElfInspect.Proofs.Log.Channels
import ElfInspect.Proofs.Store.Frames

namespace ElfInspect

/-!
# What a log does to the files

Setting up a channel creates directories and at most one file.  After that, what the file holds is
all that records change, until it is full and is moved aside.

* `LogState.WritesIn changed` — all handlers write to the console or to files at some locations;
* `LogState.moves_le_emit`, `ScopeLogger.moves_le_replay` — log files that have been full stay
  counted;
* `LogState.isKept_rewritten` — what all handlers do to the files as long as none is full, with
  `ScopeLogger.rewrites_replay` for journals, and `ScopeLogger.rewrites_beforeMove` for one that is
  broken off when a file is;
* `LoggerSetup.destination?` — where the log file of a set-up goes;
* `LogState.configure_opens` — a set-up whose log file can be opened.
-/

open Store (Keeps Rewrites)

variable {changed : List (List String)}

/-! ### Handlers -/

/-- The handler writes to the console, or to a file at one of some locations. -/
def Handler.WritesIn (changed : List (List String)) (store : Store) (handler : Handler) : Prop :=
  ∀ path layout rotation, handler.target = .file path layout rotation →
    ∃ location ∈ changed, ∃ content, store.find path = .ok (location, .file content)

/-- What leaves the directories alone leaves a log file in its place. -/
theorem Handler.WritesIn.later {handler : Handler} {store later : Store}
    (h : handler.WritesIn changed store) (hlater : Rewrites changed store later) :
    handler.WritesIn changed later := by
  intro path layout rotation htarget
  obtain ⟨location, hmem, content, hfind⟩ := h path layout rotation htarget
  exact ⟨location, hmem, hlater.exists_find hfind⟩

/-! ### Log files that are full -/

namespace LogState

section Moves

variable (state : LogState) (record : LogRecord)

/-- A line that is added moves no file. -/
@[simp]
theorem moves_addLine (path line : String) : (state.addLine path line).moves = state.moves := by
  unfold addLine
  split <;> rfl

/-- A full file is moved once. -/
@[simp]
theorem moves_addAside (path : String) (rotation : Rotation) (line : String) :
    (state.addAside path rotation line).moves = state.moves + 1 := by
  unfold addAside
  dsimp only
  split
  · rw [moves_addLine]
  · rfl

/-- Writing a record moves a file or none. -/
theorem moves_le_write (handler : Handler) :
    state.moves ≤ (write record state handler).moves := by
  unfold write
  cases handler.target with
  | console => exact Nat.le_refl _
  | file path layout rotation =>
    dsimp only
    cases lineOf? record layout with
    | none => exact Nat.le_refl _
    | some line =>
      dsimp only
      -- the line is added, or the file is full and moved first
      split
      · rw [moves_addAside]
        exact Nat.le_succ _
      · exact Nat.le_of_eq (state.moves_addLine path line).symm

/-- No handler takes anything away from the count. -/
theorem isKept_moves (count : Nat) : IsKept (count ≤ ·.moves) :=
  fun state record _ handler _ h => Nat.le_trans h (state.moves_le_write record handler)

/-- So nothing is taken away when a record is written. -/
theorem moves_le_emit : state.moves ≤ (state.emit record).moves :=
  (isKept_moves state.moves).emit (Nat.le_refl _) record

end Moves

end LogState

/-- Nor is it when a journal is carried out. -/
theorem ScopeLogger.moves_le_replay (state : LogState) (logger : ScopeLogger) (occasion : Occasion)
    (journal : List LogAction) : state.moves ≤ (logger.replay occasion journal state).2.moves :=
  (LogState.isKept_moves state.moves).replay (Nat.le_refl _) logger occasion journal

/-! ### Records -/

namespace LogState

variable {state next : LogState} {record : LogRecord} {handler : Handler}

/-- All handlers write to the console or to files at some locations. -/
def WritesIn (changed : List (List String)) (state : LogState) : Prop :=
  ∀ name, ∀ handler ∈ (state.registry.channel name).handlers, handler.WritesIn changed state.store

/-- What is written while no file is full leaves all of them in their places. -/
theorem WritesIn.later (h : state.WritesIn changed) (hregistry : next.registry = state.registry)
    (hstore : Rewrites changed state.store next.store) : next.WritesIn changed := by
  intro name handler hmem
  rw [hregistry] at hmem
  exact (h name handler hmem).later hstore

/-- A line is added to the file that its path leads to. -/
theorem store_addLine {path : String} {location : List String} {content : Bytes}
    (hfind : state.store.find path = .ok (location, .file content)) (line : String) :
    (state.addLine path line).store =
      state.store.put location (content ++ (Utf8.encode line.toList).toArray) := by
  simp only [addLine, Store.append, Store.update, hfind]

/-- **One handler.**  As long as its file is not full, a handler changes what this file holds. -/
theorem rewrites_write (h : handler.WritesIn changed state.store)
    (hmoves : (write record state handler).moves = state.moves) :
    Rewrites changed state.store (write record state handler).store := by
  unfold write at hmoves ⊢
  cases htarget : handler.target with
  | console => exact .refl state.store
  | file path layout rotation =>
    obtain ⟨location, hmem, content, hfind⟩ := h path layout rotation htarget
    have hfile := Store.fileAt_of_entry (Store.find_eq_ok_iff.mp hfind).2.2.1
    rw [htarget] at hmoves
    dsimp only at hmoves ⊢
    cases hline : lineOf? record layout with
    | none => exact .refl state.store
    | some line =>
      rw [hline] at hmoves
      dsimp only at hmoves ⊢
      split at hmoves
      · -- a file that is full would have been counted
        rw [moves_addAside] at hmoves
        omega
      · rename_i hroom
        rw [if_neg hroom, store_addLine hfind line]
        have hput := Store.rewrites_put hfile (content ++ (Utf8.encode line.toList).toArray)
        exact ⟨hput.outline, fun other hnot => hput.fileAt other fun hother =>
          hnot (List.mem_singleton.mp hother ▸ hmem)⟩

/-- What has become of a state: as long as no log file has been full, log files have been rewritten
    in their places, and nothing else has happened to the files. -/
structure Rewritten (changed : List (List String)) (state next : LogState) : Prop where
  moves : state.moves ≤ next.moves
  writesIn : next.moves = state.moves → next.WritesIn changed
  rewrites : next.moves = state.moves → Rewrites changed state.store next.store

/-- So far nothing has become of it. -/
theorem Rewritten.refl (h : state.WritesIn changed) : Rewritten changed state state :=
  ⟨Nat.le_refl _, fun _ => h, fun _ => .refl state.store⟩

/-- All handlers take part in that. -/
theorem isKept_rewritten (changed : List (List String)) (state : LogState) :
    IsKept (Rewritten changed state) := by
  intro next record name handler hmem h
  have hle := next.moves_le_write record handler
  -- the count that is reached is the first one only if it is the same in between
  have hstep (hmoves : (write record next handler).moves = state.moves) :
      next.moves = state.moves ∧
        Rewrites changed next.store (write record next handler).store := by
    have hfirst := h.moves
    have hsame : next.moves = state.moves := by omega
    exact ⟨hsame, rewrites_write (h.writesIn hsame name handler hmem) (by omega)⟩
  refine ⟨Nat.le_trans h.moves hle, fun hmoves => ?_, fun hmoves => ?_⟩
  · obtain ⟨hsame, hrewrites⟩ := hstep hmoves
    exact (h.writesIn hsame).later (next.registry_write record handler) hrewrites
  · obtain ⟨hsame, hrewrites⟩ := hstep hmoves
    exact (h.rewrites hsame).trans hrewrites

end LogState

namespace ScopeLogger

variable {state : LogState}

/-- **Journals.**  As long as no log file is full, carrying out a journal changes what log files
    hold. -/
theorem rewrites_replay (h : state.WritesIn changed) (logger : ScopeLogger) (occasion : Occasion)
    (journal : List LogAction)
    (hmoves : (logger.replay occasion journal state).2.moves = state.moves) :
    Rewrites changed state.store (logger.replay occasion journal state).2.store :=
  ((LogState.isKept_rewritten changed state).replay (.refl h) logger occasion journal).rewrites
    hmoves

/-- A journal that is broken off before a log file is moved aside changes what log files hold,
    too. -/
theorem rewrites_beforeMove (h : state.WritesIn changed) (logger : ScopeLogger)
    (occasion : Occasion) (journal : List LogAction) :
    Rewrites changed state.store (logger.beforeMove occasion state journal).store := by
  induction journal generalizing logger state with
  | nil => exact .refl state.store
  | cons action rest ih =>
    unfold beforeMove
    dsimp only
    split
    · rename_i hsame
      have hact := (LogState.isKept_rewritten changed state).act (.refl h) logger occasion action
      exact (hact.rewrites hsame).trans (ih (hact.writesIn hsame) _)
    · exact .refl state.store

end ScopeLogger

/-! ### Opening a log -/

/-- Where the log file of a set-up goes, if there is one and it can be opened. -/
def LoggerSetup.destination? (setup : LoggerSetup) (store : Store) : Option (List String) :=
  setup.file.bind fun path => store.destination? (Path.normalize path)

namespace LogState

/-- A path that leads to a place can be opened, and is found there from then on. -/
theorem openLog_destination {store : Store} {path : String} {location : List String}
    (h : store.destination? path = some location) :
    ∃ opened, openLog store path = (none, opened) ∧ Keeps [location] store opened ∧
      ∃ content, opened.find path = .ok (location, .file content) := by
  obtain ⟨made, hmade, -, hupdate⟩ := Store.update_destination h
  -- opening for more to be added changes nothing yet, except that the file exists
  obtain ⟨opened, happend, hkeeps, -, hfind⟩ := hupdate (· ++ #[])
  refine ⟨opened, ?_, hkeeps, _, hfind⟩
  simp only [openLog, hmade, Store.append, happend]

/-- **Opening a log.**  If the level is one, and the log file can be opened if there is one, then
    the set-up changes no file but this one, which all records go to. -/
theorem configure_opens {store : Store} {setup : LoggerSetup} {level : Nat}
    (hlevel : levelNamed setup.level = .ok level)
    (hfile : ∀ path, setup.file = some path →
      ∃ location, store.destination? (Path.normalize path) = some location)
    (component : String) :
    ∃ state, configure { store } component setup = (.ok (), state) ∧
      Keeps (setup.destination? store).toList store state.store ∧
      state.WritesIn (setup.destination? store).toList := by
  have hnamed : setup.namedLevel = level := LoggerSetup.namedLevel_of_levelNamed hlevel
  -- the channel that is set up is the only one with handlers
  have hwrites (opened : Store) (locations : List (List String))
      (hopened : ∀ path, setup.file = some path → ∃ location ∈ locations, ∃ content,
        opened.find (Path.normalize path) = .ok (location, .file content)) :
      (({ store := opened } : LogState).setChannel component setup.channel).WritesIn locations := by
    intro name handler hmem path layout rotation htarget
    simp only [setChannel, Registry.channel_setChannel] at hmem
    split at hmem
    · rcases LoggerSetup.mem_handlers_cases hmem with rfl | ⟨file, hpath, rfl⟩
      · cases htarget
      · cases htarget
        exact hopened file hpath
    · cases hmem
  cases hpath : setup.file with
  | none =>
    refine ⟨({ store } : LogState).setChannel component setup.channel, ?_, .refl store, ?_⟩
    · simp only [configure, hlevel, hpath, LoggerSetup.channel, LoggerSetup.handlers, hnamed,
        List.append_nil]
    · refine hwrites store _ fun path h => ?_
      rw [hpath] at h
      cases h
  | some path =>
    obtain ⟨location, hlocation⟩ := hfile path hpath
    obtain ⟨opened, hopen, hkeeps, content, hfind⟩ := openLog_destination hlocation
    have hdestination : setup.destination? store = some location := by
      rw [LoggerSetup.destination?, hpath, Option.bind_some, hlocation]
    rw [hdestination]
    refine ⟨({ store := opened } : LogState).setChannel component setup.channel, ?_, hkeeps, ?_⟩
    · simp only [configure, hlevel, hpath, hopen, LoggerSetup.channel, LoggerSetup.handlers, hnamed]
    · refine hwrites opened _ fun file h => ?_
      cases hpath.symm.trans h
      exact ⟨location, List.mem_singleton_self location, content, hfind⟩

end LogState

end ElfInspect
