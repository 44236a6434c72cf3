import ElfInspect.Proofs.Log.Files
import ElfInspect.Proofs.Log.Setup

namespace ElfInspect

/-!
# Log files stay where they are

The log file of a channel exists from the moment at which the channel is set up.  Records change
what log files hold, and further set-ups create directories and files; as long as none is full,
nothing takes one away.

* `LogState.Open` — all handlers write to the console or to files that exist;
* `LoggerPool.logStep_serve` — what one request may do to the logs;
* `LoggerPool.moves_le_serveAll` — log files that have been full stay counted;
* `LogState.Open.configure`, `LoggerPool.open_serve` — what is kept by one step;
* `LoggerPool.open_serveAll` — and by any number of requests;
* `LoggerPool.exists_file` — where the log file of a component is.
-/

open Store (Keeps Rewrites)

/-! ### Stores -/

namespace Store

variable {store later : Store} {changed : List (List String)} {path : String}
  {location : List String} {content : Bytes}

/-- A path to a file still leads to it where files have been changed but not taken away. -/
theorem Keeps.exists_find (h : Keeps changed store later)
    (hchanged : ∀ location ∈ changed, ∃ content, later.fileAt location = some content)
    (hfind : store.find path = .ok (location, .file content)) :
    ∃ content', later.find path = .ok (location, .file content') := by
  obtain ⟨-, -, -, hnames⟩ := find_eq_ok_iff.mp hfind
  by_cases hmem : location ∈ changed
  · obtain ⟨content', hfile⟩ := hchanged location hmem
    exact ⟨content', h.find hfind (hnames content rfl) hfile⟩
  · exact ⟨content, h.find_file hfind hmem⟩

end Store

namespace LogState

/-- **Opening a log.**  Either it is refused, and some directories may have been created, or the
    path leads to a file from then on. -/
theorem openLog_cases (store : Store) (path : String) :
    (∃ cause made, openLog store path = (some cause, made) ∧ Keeps [] store made) ∨
    ∃ opened location content, openLog store path = (none, opened) ∧
      Keeps [location] store opened ∧ opened.find path = .ok (location, .file content) := by
  have hkeeps := store.keeps_makeDirectories (Path.parent path)
  rcases hmade : store.makeDirectories (Path.parent path) with ⟨_ | cause, made⟩
  · rw [hmade] at hkeeps
    cases happend : made.append path #[] with
    | error fault =>
      refine .inl ⟨⟨path, fault⟩, made, ?_, hkeeps⟩
      simp only [openLog, hmade, happend]
    | ok opened =>
      -- where nothing can be added, an empty file can be written as well
      obtain ⟨location, entry, hfind, -, -, hupdate⟩ := Store.exists_update happend
      have hdestination : store.destination? path = some location :=
        Store.destination?_eq_some_iff.mpr ⟨made, entry, _, hmade, hfind, hupdate fun _ => #[]⟩
      obtain ⟨opened', hopen, hopened, content, hfile⟩ := openLog_destination hdestination
      exact .inr ⟨opened', location, content, hopen, hopened, hfile⟩
  · rw [hmade] at hkeeps
    refine .inl ⟨cause, made, ?_, hkeeps⟩
    simp only [openLog, hmade]

/-! ### Log states -/

/-- All handlers write to the console or to files that exist. -/
def Open (state : LogState) : Prop :=
  ∃ changed, state.WritesIn changed

variable {state : LogState}

/-- Without channels there are no log files. -/
theorem open_store (store : Store) : ({ store } : LogState).Open :=
  ⟨[], fun _ _ hmem => nomatch hmem⟩

/-- A component that is asked for gets no log file by that. -/
theorem Open.know (h : state.Open) (component : String) : (state.know component).Open := by
  obtain ⟨changed, hwrites⟩ := h
  refine ⟨changed, fun name handler hmem => hwrites name handler ?_⟩
  rwa [LogState.know, Registry.channel_know] at hmem

/-- Log files stay in place when a record is written, as long as none is full. -/
theorem Open.emit (h : state.Open) (record : LogRecord)
    (hmoves : (state.emit record).moves = state.moves) : (state.emit record).Open := by
  obtain ⟨changed, hwrites⟩ := h
  have hrewritten := (isKept_rewritten changed state).emit (.refl hwrites) record
  exact ⟨changed, hrewritten.writesIn hmoves⟩

/-- So they do through a whole journal. -/
theorem Open.replay (h : state.Open) (logger : ScopeLogger) (occasion : Occasion)
    (journal : List LogAction)
    (hmoves : (logger.replay occasion journal state).2.moves = state.moves) :
    (logger.replay occasion journal state).2.Open := by
  obtain ⟨changed, hwrites⟩ := h
  have hrewritten := (isKept_rewritten changed state).replay (.refl hwrites) logger occasion journal
  exact ⟨changed, hrewritten.writesIn hmoves⟩

/-- A channel may be set up with handlers of files that exist, as long as the earlier files do. -/
theorem Open.setChannel (h : state.Open) {later : Store} {changed more : List (List String)}
    (hkeeps : Keeps changed state.store later)
    (hchanged : ∀ location ∈ changed, ∃ content, later.fileAt location = some content)
    {channel : Channel} (hhandlers : ∀ handler ∈ channel.handlers, handler.WritesIn more later)
    (component : String) :
    ({ state with store := later }.setChannel component channel).Open := by
  obtain ⟨locations, hwrites⟩ := h
  refine ⟨more ++ locations, fun name handler hmem path layout rotation htarget => ?_⟩
  simp only [LogState.setChannel, Registry.channel_setChannel] at hmem
  split at hmem
  · obtain ⟨location, hlocation, hfind⟩ := hhandlers handler hmem path layout rotation htarget
    exact ⟨location, List.mem_append_left locations hlocation, hfind⟩
  · obtain ⟨location, hlocation, content, hfind⟩ :=
      hwrites name handler hmem path layout rotation htarget
    exact ⟨location, List.mem_append_right more hlocation, hkeeps.exists_find hchanged hfind⟩

/-- **Setting up a channel** leaves all log files that exist, and creates its own. -/
theorem Open.configure (h : state.Open) (component : String) (setup : LoggerSetup) :
    (state.configure component setup).2.Open := by
  have hconsole (changed : List (List String)) (level : Nat) (store : Store) :
      ∀ handler ∈ (if setup.console then [⟨.console, level⟩] else [] : List Handler),
        handler.WritesIn changed store := by
    intro handler hmem path layout rotation htarget
    split at hmem
    · rw [List.mem_singleton.mp hmem] at htarget
      cases htarget
    · cases hmem
  unfold LogState.configure
  cases levelNamed setup.level with
  | error fault => exact h.know component
  | ok level =>
    cases setup.file with
    | none =>
      have hkeeps : Keeps [] state.store state.store := .refl state.store
      exact h.setChannel hkeeps nofun (hconsole [] level state.store) component
    | some path =>
      rcases openLog_cases state.store (Path.normalize path) with
        ⟨cause, made, hopen, hkeeps⟩ | ⟨opened, location, content, hopen, hkeeps, hfind⟩
      · simp only [hopen]
        exact h.setChannel hkeeps nofun (hconsole [] level made) component
      · simp only [hopen]
        have hchanged : ∀ other ∈ [location], ∃ content, opened.fileAt other = some content :=
          List.forall_mem_singleton.mpr
            ⟨content, Store.fileAt_of_entry (Store.find_eq_ok_iff.mp hfind).2.2.1⟩
        -- the file that has just been opened is where it was opened
        have hown : Handler.WritesIn [location] opened
            ⟨.file (Path.normalize path) setup.layout setup.rotation, level⟩ := by
          intro _ _ _ htarget
          cases htarget
          exact ⟨location, List.mem_singleton_self location, content, hfind⟩
        have hhandlers := List.forall_mem_append.mpr
          ⟨hconsole [location] level opened, List.forall_mem_singleton.mpr hown⟩
        exact h.setChannel hkeeps hchanged hhandlers component

/-- Setting up a channel moves no log file aside. -/
theorem moves_configure (state : LogState) (component : String) (setup : LoggerSetup) :
    (state.configure component setup).2.moves = state.moves := by
  rcases state.configure_cases component setup with
    ⟨_, -, h⟩ | ⟨_, _, h⟩ | ⟨_, h⟩ <;> rw [h] <;> rfl

end LogState

/-! ### Pools -/

namespace LoggerPool

variable {pool : LoggerPool}

/-- What a request may do to the channels and the files. -/
inductive LogStep (occasion : Occasion) (state : LogState) : LogState → Prop
  | stay : LogStep occasion state state
  | know (component : String) : LogStep occasion state (state.know component)
  | configure (component : String) (setup : LoggerSetup) :
      LogStep occasion state (state.configure component setup).2
  | emit (record : LogRecord) : LogStep occasion state (state.emit record)
  | replay (logger : ScopeLogger) (journal : List LogAction) :
      LogStep occasion state (logger.replay occasion journal state).2
  | load (logger : ScopeLogger) (journal : List LogAction) :
      LogStep occasion state (logger.replay occasion journal (state.know loaderComponent)).2

/-- A request does one thing at most to the log. -/
theorem logStep_serve (pool : LoggerPool) (occasion : Occasion) (request : LoggerRequest) :
    LogStep occasion pool.logs (pool.serve occasion request).2.logs := by
  have hwith {name : String} {f : ScopeLogger → Except RequestFault Unit × LoggerPool}
      (hf : ∀ logger, LogStep occasion pool.logs (f logger).2.logs) :
      LogStep occasion pool.logs (pool.withLogger name f).2.logs :=
    withLogger_of (P := fun after => LogStep occasion pool.logs after.logs) .stay hf
  cases request with
  | create name component setup configures =>
    have hconfigure : LogStep occasion pool.logs (pool.logs.configure component setup).2 :=
      .configure component setup
    show LogStep occasion pool.logs (pool.create name component setup configures).2.logs
    unfold create
    cases configures with
    | false => exact .know component
    | true =>
      rw [if_pos rfl]
      -- whether the set-up goes well makes no difference to the log
      generalize pool.logs.configure component setup = result at hconfigure ⊢
      obtain ⟨fault | ⟨⟩, logs⟩ := result
      · exact hconfigure
      · exact hconfigure
  | quiet name component => exact .know component
  | enter name phase => exact hwith fun _ => .stay
  | leave name number =>
    refine hwith fun logger => ?_
    unfold leave
    split
    · exact .stay
    · split <;> exact .stay
  | call name call =>
    refine hwith fun logger => ?_
    unfold LoggerPool.call
    split
    · rename_i logs hlog
      rcases logger.log_cases occasion pool.logs hlog with rfl | ⟨message, rfl⟩
      · exact .stay
      · exact .emit _
    · exact .stay
  | timed name label failed => exact hwith fun logger => .replay logger _
  | load name device chunk =>
    cases name with
    | some name => exact hwith fun logger => .replay logger _
    | none => exact .load _ _

/-- A request takes nothing away from the count of log files that have been full. -/
theorem moves_le_serve (pool : LoggerPool) (occasion : Occasion) (request : LoggerRequest) :
    pool.logs.moves ≤ (pool.serve occasion request).2.logs.moves := by
  have hstep := pool.logStep_serve occasion request
  generalize (pool.serve occasion request).2.logs = logs at hstep ⊢
  cases hstep with
  | stay => exact Nat.le_refl _
  | know component => exact Nat.le_refl _
  | configure component setup => exact Nat.le_of_eq (pool.logs.moves_configure _ _).symm
  | emit record => exact pool.logs.moves_le_emit record
  | replay logger journal => exact ScopeLogger.moves_le_replay pool.logs logger occasion journal
  | load logger journal =>
    exact ScopeLogger.moves_le_replay (pool.logs.know loaderComponent) logger occasion journal

/-- How often a file has been full never decreases. -/
theorem moves_le_serveAll (pool : LoggerPool) (history : List (Occasion × LoggerRequest)) :
    pool.logs.moves ≤ (pool.serveAll history).2.logs.moves := by
  induction history generalizing pool with
  | nil => exact Nat.le_refl _
  | cons entry rest ih => exact Nat.le_trans (pool.moves_le_serve entry.1 entry.2) (ih _)

/-- **One request** takes no log file away as long as none is full. -/
theorem open_serve (h : pool.logs.Open) (occasion : Occasion) (request : LoggerRequest)
    (hmoves : (pool.serve occasion request).2.logs.moves = pool.logs.moves) :
    (pool.serve occasion request).2.logs.Open := by
  have hstep := pool.logStep_serve occasion request
  generalize (pool.serve occasion request).2.logs = logs at hstep hmoves ⊢
  cases hstep with
  | stay => exact h
  | know component => exact h.know component
  | configure component setup => exact h.configure component setup
  | emit record => exact h.emit record hmoves
  | replay logger journal => exact h.replay logger occasion journal hmoves
  | load logger journal => exact (h.know loaderComponent).replay logger occasion journal hmoves

/-- **Any number of requests** take no log file away as long as none is full. -/
theorem open_serveAll (h : pool.logs.Open) (history : List (Occasion × LoggerRequest))
    (hmoves : (pool.serveAll history).2.logs.moves = pool.logs.moves) :
    (pool.serveAll history).2.logs.Open := by
  induction history generalizing pool with
  | nil => exact h
  | cons entry rest ih =>
    rw [serveAll_cons] at hmoves ⊢
    dsimp only at hmoves ⊢
    have hle := pool.moves_le_serve entry.1 entry.2
    have hrest := (pool.serve entry.1 entry.2).2.moves_le_serveAll rest
    -- the count is the same at both ends, and so it is in between
    exact ih (open_serve h entry.1 entry.2 (by omega)) (by omega)

/-- **Log files.**  As long as no log file has been full, that of the last set-up of a component in
    effect is at the place that its path leads to. -/
theorem exists_file {store : Store} {history : List (Occasion × LoggerRequest)}
    {served : List ServedRequest} (hrun : serveAll { logs := { store } } history = (served, pool))
    {component path : String} {setup : LoggerSetup}
    (hsetup : lastEffect? component served = some setup) (hfile : setup.file = some path)
    (hmoves : pool.logs.moves = 0) :
    ∃ location content,
      pool.logs.store.find (Path.normalize path) = .ok (location, .file content) := by
  have hstart : ({ logs := { store } } : LoggerPool).logs.Open := LogState.open_store store
  have hopen := open_serveAll hstart history
  have hchannel := channel_serveAll { logs := { store } } component history
  rw [hrun] at hopen hchannel
  -- no file has been full, so that all of them are in place
  replace hopen := hopen hmoves
  obtain ⟨changed, hwrites⟩ := hopen
  have hmem : (⟨.file (Path.normalize path) setup.layout setup.rotation, setup.namedLevel⟩ :
      Handler) ∈ (pool.channel component).handlers := by
    rw [hchannel, hsetup]
    simp only [channelAfter, Option.elim_some, LoggerSetup.channel, LoggerSetup.handlers, hfile]
    exact List.mem_append_right _ (List.mem_singleton_self _)
  obtain ⟨location, -, content, hfind⟩ := hwrites _ _ hmem _ _ _ rfl
  exact ⟨location, content, hfind⟩

end LoggerPool

end ElfInspect
