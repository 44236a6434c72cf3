import ElfInspect.Load
import ElfInspect.Log.Logger

namespace ElfInspect

/-!
# Loggers side by side

The loggers of a process are known by names.  Several of them may belong to one component; each has
a phase of its own, and all of them share the channels, the files and the console.

* `LoggerRequest`: what can be asked of them;
* `LoggerPool`: the loggers with what they share;
* `LoggerPool.serve`: one request, with its outcome;
* `LoggerPool.serveAll`: requests one after another.
-/

/-- What is asked of the loggers of a process. -/
inductive LoggerRequest
  /-- Makes a logger of a component, which sets up the channel or takes it as it stands. -/
  | create (name component : String) (setup : LoggerSetup) (configures : Bool)
  /-- Makes a logger that takes the channel as it stands. -/
  | quiet (name component : String)
  | enter (name phase : String)
  /-- Closes the open scope with a number. -/
  | leave (name : String) (number : Int)
  | call (name : String) (call : LogCall)
  /-- Times something that goes well or fails. -/
  | timed (name label : String) (failed : Bool)
  /-- Loads a file with a logger, or with the one that loads have by default. -/
  | load (name : Option String) (device : Device) (chunk : Int)

/-- Why a request is not fulfilled. -/
inductive RequestFault
  | unknownLogger (name : String)
  /-- There is no open scope. -/
  | noScope
  /-- There is no open scope with the number. -/
  | scopeOutside
  | log (fault : LogFault)
  | load (failure : LoadFailure)
  deriving Repr

/-- The loggers of a process by name, and what they share. -/
structure LoggerPool where
  logs : LogState := {}
  loggers : List (String × ScopeLogger) := []
  deriving Repr, DecidableEq, Inhabited

/-- The component of the logger that loads have by default. -/
def loaderComponent : String := "loader"

namespace LoggerPool

/-- Gives a name to a logger, in place of the one that has it. -/
def put (pool : LoggerPool) (name : String) (logger : ScopeLogger) : LoggerPool :=
  { pool with loggers := (name, logger) :: pool.loggers.filter (·.1 ≠ name) }

/-- The channel of a component. -/
def channel (pool : LoggerPool) (component : String) : Channel :=
  pool.logs.registry.channel (channelName component)

/-! ### Single requests -/

/-- Makes a logger for a channel as it stands. -/
def bindTo (pool : LoggerPool) (name component : String) : LoggerPool :=
  { pool with logs := pool.logs.know component }.put name { component }

/-- Makes a logger, unless its channel cannot be set up. -/
def create (pool : LoggerPool) (name component : String) (setup : LoggerSetup)
    (configures : Bool) : Except RequestFault Unit × LoggerPool :=
  if configures then
    match pool.logs.configure component setup with
    | (.ok (), logs) => (.ok (), { pool with logs }.put name { component })
    -- No logger is made, but what the set-up has done to the channel stays.
    | (.error fault, logs) => (.error (.log fault), { pool with logs })
  else (.ok (), pool.bindTo name component)

/-- Closes a scope of a logger. -/
def leave (pool : LoggerPool) (name : String) (logger : ScopeLogger) (number : Int) :
    Except RequestFault Unit × LoggerPool :=
  if (position? logger.scopes.length number).isSome then
    (.ok (), pool.put name (logger.leaveAt number))
  else if logger.scopes.isEmpty then (.error .noScope, pool)
  else (.error .scopeOutside, pool)

/-- Has a logger carry out a call. -/
def call (pool : LoggerPool) (logger : ScopeLogger) (occasion : Occasion) (call : LogCall) :
    Except RequestFault Unit × LoggerPool :=
  match logger.log occasion call pool.logs with
  | .ok logs => (.ok (), { pool with logs })
  | .error fault => (.error (.log fault), pool)

/-- Has a logger carry out a journal.  Journals close the scopes that they open. -/
def replay (pool : LoggerPool) (logger : ScopeLogger) (occasion : Occasion)
    (journal : List LogAction) : LoggerPool :=
  { pool with logs := (logger.replay occasion journal pool.logs).2 }

/-- Loads a file with a logger. -/
def load (pool : LoggerPool) (logger : ScopeLogger) (occasion : Occasion) (device : Device)
    (chunk : Int) : Except RequestFault Unit × LoggerPool :=
  let run := Load.run device chunk
  let result := match run.outcome with
    | .ok _ => .ok ()
    | .error failure => .error (.load failure)
  (result, pool.replay logger occasion run.journal)

/-- Passes a logger on, if there is one of the name. -/
def withLogger (pool : LoggerPool) (name : String)
    (f : ScopeLogger → Except RequestFault Unit × LoggerPool) :
    Except RequestFault Unit × LoggerPool :=
  match pool.loggers.lookup name with
  | none => (.error (.unknownLogger name), pool)
  | some logger => f logger

/-- Serves a request.  A load without a logger of its own makes one for a channel as it stands,
    and nobody else gets to know it. -/
def serve (pool : LoggerPool) (occasion : Occasion) :
    LoggerRequest → Except RequestFault Unit × LoggerPool
  | .create name component setup configures => pool.create name component setup configures
  | .quiet name component => (.ok (), pool.bindTo name component)
  | .enter name phase =>
    pool.withLogger name fun logger => (.ok (), pool.put name (logger.enter phase))
  | .leave name number => pool.withLogger name fun logger => pool.leave name logger number
  | .call name call => pool.withLogger name fun logger => pool.call logger occasion call
  | .timed name label failed =>
    pool.withLogger name fun logger =>
      (.ok (), pool.replay logger occasion (timedJournal label failed))
  | .load (some name) device chunk =>
    pool.withLogger name fun logger => pool.load logger occasion device chunk
  | .load none device chunk =>
    -- The channel stays known afterwards.
    let pool := { pool with logs := pool.logs.know loaderComponent }
    pool.load { component := loaderComponent } occasion device chunk

/-! ### Any number of requests -/

/-- A request that has been served, with what came of it. -/
structure ServedRequest where
  request : LoggerRequest
  outcome : Except RequestFault Unit

/-- Serves requests, each at its own time: what came of them, and the pool afterwards. -/
def serveAll (pool : LoggerPool) :
    List (Occasion × LoggerRequest) → List ServedRequest × LoggerPool
  | [] => ([], pool)
  | (occasion, request) :: rest =>
    let (outcome, pool) := pool.serve occasion request
    let (served, pool) := pool.serveAll rest
    (⟨request, outcome⟩ :: served, pool)

@[simp]
theorem serveAll_nil (pool : LoggerPool) : pool.serveAll [] = ([], pool) := rfl

theorem serveAll_cons (pool : LoggerPool) (occasion : Occasion) (request : LoggerRequest)
    (rest : List (Occasion × LoggerRequest)) :
    pool.serveAll ((occasion, request) :: rest) =
      (⟨request, (pool.serve occasion request).1⟩ ::
          ((pool.serve occasion request).2.serveAll rest).1,
        ((pool.serve occasion request).2.serveAll rest).2) := rfl

end LoggerPool

end ElfInspect
