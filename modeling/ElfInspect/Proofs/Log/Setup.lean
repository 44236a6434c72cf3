import Mathlib.Data.List.Basic
import ElfInspect.Log.Pool
import ElfInspect.Proofs.Log.Channels

namespace ElfInspect

/-!
# Channels follow their last set-up

All loggers of a component share its channel, whoever makes them and in whatever order.  What the
channel is like depends on one of the requests so far: the last one that set it up.

* `ServedRequest.effect?` — the set-up that a request brings into effect, if any;
* `LoggerPool.channel_serve` — what one request does to a channel;
* `LoggerPool.channel_serveAll` — what any number of requests do to it;
* `LoggerPool.channels_follow_setups` — the channels of a process at any time.
-/

/-! ### Effects of requests -/

/-- The set-up that a request asks for, if it is one for the component. -/
def LoggerRequest.setup? (component : String) : LoggerRequest → Option LoggerSetup
  | .create _ target setup true => if target = component then some setup else none
  | _ => none

namespace LoggerPool

namespace ServedRequest

/-- The set-up of a component that a request brings into effect: the one that it asks for, but
    without the log file if that cannot be opened.  What fails in another way has no effect. -/
def effect? (component : String) (served : ServedRequest) : Option LoggerSetup :=
  match served.outcome with
  | .ok () => served.request.setup? component
  | .error (.log (.refused _)) => (served.request.setup? component).map LoggerSetup.withoutFile
  | .error _ => none

/-- The set-up of a component that a request carries out in full. -/
def success? (component : String) (served : ServedRequest) : Option LoggerSetup :=
  match served.outcome with
  | .ok () => served.request.setup? component
  | .error _ => none

/-- Whether the log file of a set-up could not be opened. -/
def lacksFile (served : ServedRequest) : Bool :=
  match served.outcome with
  | .error (.log (.refused _)) => true
  | _ => false

/-- A request that sets nothing up has no effect. -/
theorem effect?_of_setup? {component : String} {served : ServedRequest}
    (h : served.request.setup? component = none) : served.effect? component = none := by
  unfold effect?
  split
  · exact h
  · rw [h, Option.map_none]
  · rfl

/-- Where no log file is lacking, set-ups come into effect in full or not at all. -/
theorem effect?_eq_success? {component : String} {served : ServedRequest}
    (h : served.request.setup? component ≠ none → served.lacksFile = false) :
    served.effect? component = served.success? component := by
  by_cases hsetup : served.request.setup? component = none
  · unfold success?
    rw [effect?_of_setup? hsetup]
    split
    · exact hsetup.symm
    · rfl
  -- a set-up that fails has an effect only where its log file is what is missing
  · unfold effect? success?
    split
    · rename_i hok
      rw [hok]
    · rename_i cause hrefused
      have hlacks : served.lacksFile = true := by rw [lacksFile, hrefused]
      rw [h hsetup] at hlacks
      cases hlacks
    · rename_i fault _ herror
      rw [herror]

end ServedRequest

/-- The last set-up of a component that came into effect. -/
def lastEffect? (component : String) (served : List ServedRequest) : Option LoggerSetup :=
  (served.filterMap (·.effect? component)).getLast?

/-- The last set-up of a component that was carried out in full. -/
def lastSuccess? (component : String) (served : List ServedRequest) : Option LoggerSetup :=
  (served.filterMap (·.success? component)).getLast?

/-- The channel after a set-up, if there is one. -/
def channelAfter (before : Channel) (setup : Option LoggerSetup) : Channel :=
  setup.elim before LoggerSetup.channel

/-! ### Single requests -/

variable (pool : LoggerPool) (occasion : Occasion) (component : String)

/-- Putting a logger aside changes no channel. -/
@[simp]
theorem channel_put (name : String) (logger : ScopeLogger) :
    (pool.put name logger).channel component = pool.channel component := rfl

/-- A logger for a channel as it stands leaves it so. -/
@[simp]
theorem channel_bindTo (name target : String) :
    (pool.bindTo name target).channel component = pool.channel component := by
  simp [bindTo, channel, LogState.know, put]

/-- Nor does a journal. -/
@[simp]
theorem channel_replay (logger : ScopeLogger) (journal : List LogAction) :
    (pool.replay logger occasion journal).channel component = pool.channel component := by
  simp [replay, channel]

/-- Nor does a load. -/
@[simp]
theorem channel_load (logger : ScopeLogger) (device : Device) (chunk : Int) :
    (pool.load logger occasion device chunk).2.channel component = pool.channel component := by
  simp [load]

/-- Nor does the end of a scope. -/
@[simp]
theorem channel_leave (name : String) (logger : ScopeLogger) (number : Int) :
    (pool.leave name logger number).2.channel component = pool.channel component := by
  unfold leave
  split
  · rfl
  · split <;> rfl

/-- Nor does a call. -/
@[simp]
theorem channel_call (logger : ScopeLogger) (call : LogCall) :
    (pool.call logger occasion call).2.channel component = pool.channel component := by
  unfold LoggerPool.call
  split
  · rename_i logs hlog
    rw [channel, ScopeLogger.registry_log logger occasion pool.logs hlog, channel]
  · rfl

/-- What passing a logger on leads to holds if it holds anyway where there is no logger. -/
theorem withLogger_of {P : LoggerPool → Prop} {pool : LoggerPool} {name : String}
    {f : ScopeLogger → Except RequestFault Unit × LoggerPool} (h : P pool)
    (hf : ∀ logger, P (f logger).2) : P (pool.withLogger name f).2 := by
  unfold withLogger
  split
  · exact h
  · exact hf _

/-- Nor does a request for a logger whose own part changes none. -/
theorem channel_withLogger {name : String}
    {f : ScopeLogger → Except RequestFault Unit × LoggerPool}
    (h : ∀ logger, (f logger).2.channel component = pool.channel component) :
    (pool.withLogger name f).2.channel component = pool.channel component :=
  withLogger_of (P := fun after => after.channel component = pool.channel component) rfl h

/-- Each component has a channel of its own. -/
theorem channelName_inj {component other : String} :
    channelName component = channelName other ↔ component = other := by
  simp [channelName]

/-- Setting up the channel of a component changes no channel of another. -/
theorem channel_setChannel (logs : LogState) (loggers : List (String × ScopeLogger))
    (target : String) (c : Channel) :
    channel { logs := logs.setChannel target c, loggers } component =
      if component = target then c else logs.registry.channel (channelName component) := by
  simp only [channel, LogState.setChannel, Registry.channel_setChannel, channelName_inj]

/-- **Making a logger.**  The channels afterwards are those before, except that of the component
    if its set-up comes into effect. -/
theorem channel_create (name target : String) (setup : LoggerSetup) (configures : Bool) :
    (pool.create name target setup configures).2.channel component =
      channelAfter (pool.channel component) (ServedRequest.effect? component
        ⟨.create name target setup configures, (pool.create name target setup configures).1⟩) := by
  unfold create
  cases configures with
  | false => exact channel_bindTo ..
  | true =>
    rw [if_pos rfl]
    rcases pool.logs.configure_cases target setup with
      ⟨fault, hlevel, hconfigure⟩ | ⟨cause, store, hconfigure⟩ | ⟨store, hconfigure⟩
    · -- only a refused log file leaves a set-up in effect, and level names know of no files
      have hrefused : ∀ cause, fault ≠ .refused cause := fun cause heq =>
        levelNamed_ne_refused setup.level cause (heq ▸ hlevel)
      have hnone : ServedRequest.effect? component
          ⟨.create name target setup true, .error (.log fault)⟩ = none := by
        unfold ServedRequest.effect?
        split <;> simp_all
      simp only [hconfigure, hnone, channel, LogState.know, Registry.channel_know, channelAfter,
        Option.elim_none]
    · simp only [hconfigure, ServedRequest.effect?, LoggerRequest.setup?, channel_setChannel,
        eq_comm (a := component)]
      split <;> rfl
    · simp only [hconfigure, ServedRequest.effect?, LoggerRequest.setup?, channel_put,
        channel_setChannel, eq_comm (a := component)]
      split <;> rfl

/-- **One request.**  A channel is afterwards what it was before, unless the request brings a
    set-up of its component into effect. -/
theorem channel_serve (request : LoggerRequest) :
    (pool.serve occasion request).2.channel component =
      channelAfter (pool.channel component)
        (ServedRequest.effect? component ⟨request, (pool.serve occasion request).1⟩) := by
  -- all requests but one bring nothing into effect, whatever they are answered
  have hframe (hsetup : request.setup? component = none)
      (h : (pool.serve occasion request).2.channel component = pool.channel component) :
      (pool.serve occasion request).2.channel component =
        channelAfter (pool.channel component)
          (ServedRequest.effect? component ⟨request, (pool.serve occasion request).1⟩) := by
    rw [ServedRequest.effect?_of_setup? hsetup]
    exact h
  cases request with
  | create name target setup configures => exact pool.channel_create component ..
  | quiet name target => exact hframe rfl (pool.channel_bindTo component name target)
  | enter name phase => exact hframe rfl (pool.channel_withLogger component fun _ => rfl)
  | leave name number =>
    exact hframe rfl (pool.channel_withLogger component fun _ => pool.channel_leave component ..)
  | call name call =>
    exact hframe rfl (pool.channel_withLogger component fun _ =>
      pool.channel_call occasion component ..)
  | timed name label failed =>
    exact hframe rfl (pool.channel_withLogger component fun _ =>
      pool.channel_replay occasion component ..)
  | load name device chunk =>
    cases name with
    | some name =>
      exact hframe rfl (pool.channel_withLogger component fun _ =>
        pool.channel_load occasion component ..)
    | none =>
      refine hframe rfl ((channel_load _ occasion component ..).trans ?_)
      simp only [channel, LogState.know, Registry.channel_know]

/-- A request that asks for no set-up of a component leaves the channel of that component alone. -/
theorem channel_serve_of_setup? {request : LoggerRequest} (h : request.setup? component = none) :
    (pool.serve occasion request).2.channel component = pool.channel component := by
  rw [channel_serve, ServedRequest.effect?_of_setup? h]
  rfl

/-- A level name that denotes no level makes a channel known as it stands, and does no more. -/
theorem serve_create_of_error {name : String} {setup : LoggerSetup} {fault : LogFault}
    (h : levelNamed setup.level = .error fault) :
    pool.serve occasion (.create name component setup true) =
      (.error (.log fault), { pool with logs := pool.logs.know component }) := by
  have hconfigure : pool.logs.configure component setup =
      (.error fault, pool.logs.know component) := by
    simp only [LogState.configure, h]
  simp only [serve, create, if_true, hconfigure]

/-! ### Any number of requests -/

/-- The last set-up counts, however many there are before it. -/
theorem channelAfter_cons (before : Channel) (setup : LoggerSetup) (later : List LoggerSetup) :
    channelAfter before (setup :: later).getLast? =
      channelAfter setup.channel later.getLast? := by
  rw [List.getLast?_cons]
  cases later.getLast? <;> rfl

/-- **Any number of requests.**  A channel is afterwards as the last set-up in effect made it. -/
theorem channel_serveAll (history : List (Occasion × LoggerRequest)) :
    (pool.serveAll history).2.channel component =
      channelAfter (pool.channel component) (lastEffect? component (pool.serveAll history).1) := by
  induction history generalizing pool with
  | nil => rfl
  | cons entry rest ih =>
    obtain ⟨occasion, request⟩ := entry
    have hstep := pool.channel_serve occasion component request
    simp only [serveAll_cons, ih, lastEffect?]
    -- a set-up in effect makes what was before it irrelevant
    cases heffect :
        ServedRequest.effect? component ⟨request, (pool.serve occasion request).1⟩ with
    | none =>
      rw [List.filterMap_cons_none heffect, hstep, heffect]
      rfl
    | some setup =>
      rw [List.filterMap_cons_some heffect, channelAfter_cons, hstep, heffect]
      rfl

/-- Where no log file of a component was lacking, its last set-up in effect is its last one that
    was carried out in full. -/
theorem lastEffect?_eq_lastSuccess? {served : List ServedRequest}
    (h : ∀ s ∈ served, s.request.setup? component ≠ none → s.lacksFile = false) :
    lastEffect? component served = lastSuccess? component served := by
  unfold lastEffect? lastSuccess?
  rw [List.filterMap_congr fun s hs => ServedRequest.effect?_eq_success? (h s hs)]

/-- **Channels follow their set-ups.**  After any requests, the channel of a component

    * is as the last set-up of the component in effect made it: at the level that its name denotes,
      not propagating, and with the console handler and the file handler that were asked for; a log
      file that could not be opened has no handler;
    * is as it has ever been if there is no such set-up.

    The last set-up in effect is the last one that was carried out in full, unless a log file of
    the component could not be opened.  Requests that set up no channel, or that of another
    component, leave a channel alone, and so does a level name that denotes no level. -/
theorem channels_follow_setups (store : Store) (history : List (Occasion × LoggerRequest)) :
    let (served, pool) := serveAll { logs := { store } } history
    (∀ component, pool.channel component = channelAfter {} (lastEffect? component served)) ∧
    (∀ component, (∀ s ∈ served, s.request.setup? component ≠ none → s.lacksFile = false) →
      pool.channel component = channelAfter {} (lastSuccess? component served)) ∧
    (∀ occasion request component, request.setup? component = none →
      (pool.serve occasion request).2.channel component = pool.channel component) ∧
    ∀ occasion name component setup fault, levelNamed setup.level = .error fault →
      ∃ after,
        pool.serve occasion (.create name component setup true) = (.error (.log fault), after) ∧
        (∀ other, after.channel other = pool.channel other) ∧ after.loggers = pool.loggers ∧
        after.logs.store = pool.logs.store ∧ after.logs.console = pool.logs.console := by
  have hlast (component : String) := channel_serveAll { logs := { store } } component history
  generalize serveAll { logs := { store } } history = after at hlast ⊢
  obtain ⟨served, pool⟩ := after
  -- what single requests do is said of the pool that the history has led to
  refine ⟨hlast, fun component h => ?_, fun occasion request component h => ?_,
    fun occasion name component setup fault h => ?_⟩
  · rw [hlast, lastEffect?_eq_lastSuccess? component h]
    rfl
  · exact pool.channel_serve_of_setup? occasion component h
  · refine ⟨_, pool.serve_create_of_error occasion component h, fun other => ?_, rfl, rfl, rfl⟩
    simp only [channel, LogState.know, Registry.channel_know]

/-- Two loggers, the second of which is to write below the log file of the first. -/
def crossedLogs : List (Occasion × LoggerRequest) :=
  [(default, .create "a" "reader" { level := "debug", file := some "x.log" } true),
   (default, .create "b" "writer" { level := "error", file := some "x.log/d/y.log" } true)]

/-- The channel of the second logger is left without its file, that of the first one has its own;
    a level name that denotes no level changes nothing about either. -/
theorem channels_follow_setups_crossedLogs :
    let (_, pool) := serveAll { logs := { store := {} } } crossedLogs
    pool.channel "reader" =
      { level := 10, propagates := false
        handlers := [⟨.console, 10⟩, ⟨.file "x.log" .plain {}, 10⟩] } ∧
    pool.channel "writer" = { level := 40, propagates := false, handlers := [⟨.console, 40⟩] } ∧
    ∃ fault after, pool.serve default (.create "c" "reader" { level := "basic_format" } true) =
        (.error (.log fault), after) ∧
      ∀ component, after.channel component = pool.channel component := by
  obtain ⟨hlast, hsuccess, -, hlevel⟩ := channels_follow_setups {} crossedLogs
  have hkey : levelKey "basic_format" = "BASIC_FORMAT" := by decide +kernel
  -- the name is that of an attribute which is no level
  have hnamed : levelNamed "basic_format" = .error (.unknownLevel basicLayout) := by
    rw [levelNamed, ← levelKey, hkey]
    rfl
  obtain ⟨after, hserve, hchannels, -⟩ :=
    hlevel default "c" "reader" { level := "basic_format" } _ hnamed
  exact ⟨(hsuccess "reader" (by decide +kernel)).trans (by decide +kernel),
    (hlast "writer").trans (by decide +kernel), _, after, hserve, hchannels⟩

/-- Set-ups that were not carried out in full cannot be passed over. -/
theorem not_channels_follow_successes :
    ¬ ∀ (store : Store) (history : List (Occasion × LoggerRequest)) (component : String),
      (serveAll { logs := { store } } history).2.channel component =
        channelAfter {} (lastSuccess? component (serveAll { logs := { store } } history).1) := by
  intro h
  have hwriter := h {} crossedLogs "writer"
  revert hwriter
  decide +kernel

end LoggerPool

end ElfInspect
