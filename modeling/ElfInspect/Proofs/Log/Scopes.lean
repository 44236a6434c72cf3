import ElfInspect.Proofs.Log.Records
import ElfInspect.Proofs.Log.Setup

namespace ElfInspect

/-!
# Phase scopes nest

A scope remembers nothing but the phase that was under way before it.  Code opens scopes as blocks,
which it leaves at their end or because of a failure, and in between it has its own logger and
others carry out calls and load files.

* `ScopeLogger.inside` — a logger inside of scopes;
* `ScopeLogger.records_inside` — the records of a journal, stamped with the scopes around them;
* `ScopedCode`, `ScopedCode.course` — code with scopes as blocks, and what goes on when it runs;
* `ScopedCode.phase_follows_scopes` — at any time the phase is the innermost open scope.
-/

/-! ### Inside of scopes -/

namespace ScopeLogger

/-- The logger of a component inside of scopes with these names, the innermost first. -/
def inside (component : String) : List String → ScopeLogger
  | [] => { component }
  | phase :: scopes => (inside component scopes).enter phase

variable (component : String) (occasion : Occasion)

/-- A logger in scopes has its component. -/
@[simp]
theorem component_inside (scopes : List String) :
    (inside component scopes).component = component := by
  induction scopes with
  | nil => rfl
  | cons phase scopes ih => exact ih

/-- Inside of scopes, the phase is the innermost one. -/
@[simp]
theorem phase_inside (scopes : List String) : (inside component scopes).phase = scopes.head? := by
  cases scopes <;> rfl

/-- Each scope has a phase to go back to. -/
@[simp]
theorem length_scopes_inside (scopes : List String) :
    (inside component scopes).scopes.length = scopes.length := by
  induction scopes with
  | nil => rfl
  | cons phase scopes ih => rw [inside, enter, List.length_append, ih, List.length_cons]; rfl

/-- Leaving a scope goes back to the one around it. -/
@[simp]
theorem leave_inside (scopes : List String) :
    (inside component scopes).leave = inside component scopes.tail := by
  cases scopes with
  | nil => rfl
  | cons phase scopes => exact leave_enter _ phase

/-! ### Journals inside of scopes -/

/-- The record of a logger that is stamped with the innermost one of some scopes. -/
def stamped (scopes : List String) (call : LogCall) (message : String) : LogRecord :=
  { occasion, severity := call.severity, channel := channelName component, message, component
    phase := scopes.head?, extra := call.extra, attachment := call.attachment }

/-- What a logger in scopes records carries the phase of the innermost one. -/
@[simp]
theorem record_inside (scopes : List String) (call : LogCall) (message : String) :
    (inside component scopes).record occasion call message =
      stamped component occasion scopes call message := by
  rw [record, component_inside, phase_inside, stamped]

/-- The records that a journal asks for, each stamped with the innermost scope that is open where
    it stands.  The scopes around the journal are given, the innermost first. -/
def stampedRecords : List String → List LogAction → List LogRecord
  | _, [] => []
  | scopes, .openScope phase :: rest => stampedRecords (phase :: scopes) rest
  | scopes, .closeScope :: rest => stampedRecords scopes.tail rest
  | scopes, .emit severity message :: rest =>
    stamped component occasion scopes { severity, message } message :: stampedRecords scopes rest
  | scopes, .emitTimed severity label :: rest =>
    let message := completion occasion label
    stamped component occasion scopes { severity, message } message :: stampedRecords scopes rest

/-- **The records of a journal** are stamped with the scopes that are open around them. -/
theorem records_inside (scopes : List String) (journal : List LogAction) :
    (inside component scopes).records occasion journal =
      stampedRecords component occasion scopes journal := by
  induction journal generalizing scopes with
  | nil => rfl
  | cons action rest ih =>
    cases action with
    | openScope phase => exact ih (phase :: scopes)
    | closeScope =>
      rw [records, leave_inside]
      exact ih scopes.tail
    | emit severity message => rw [records, remark, record_inside, ih, stampedRecords]
    | emitTimed severity label => rw [records, remark, record_inside, ih, stampedRecords]

end ScopeLogger

/-- What is timed opens no scope. -/
theorem nested_timedJournal (label : String) (failed : Bool) :
    Nested (timedJournal label failed) := by
  cases failed with
  | false => exact .emit _ _ (.emitTimed _ _ .nil)
  | true => exact .emit _ _ .nil

/-! ### Code with scopes -/

/-- Whether a request is none for scopes of the logger of a name, and does not make another logger
    of that name either. -/
def LoggerRequest.sparesScopes (name : String) : LoggerRequest → Bool
  | .create other .. | .quiet other _ | .enter other _ | .leave other _ => other ≠ name
  | .call .. | .timed .. | .load .. => true

/-- Code that opens and closes the scopes of the logger of a name as blocks.  What it asks for
    within them may concern that logger or any other. -/
inductive ScopedCode (name : String)
  | skip
  /-- Fails without asking for anything. -/
  | fail
  | ask (occasion : Occasion) (request : LoggerRequest) (hspares : request.sparesScopes name = true)
  | seq (first second : ScopedCode name)
  /-- A block in a scope of its own, which is closed however the block is left. -/
  | within (phase : String) (body : ScopedCode name)
  /-- Code for which other code steps in if it fails. -/
  | attempt (body handler : ScopedCode name)

/-- A request that is served, with the names of the scopes that are open before and behind it, the
    innermost first. -/
structure ScopedRequest where
  opened : List String
  left : List String
  occasion : Occasion
  request : LoggerRequest
  before : LoggerPool

/-- The pool behind the request. -/
def ScopedRequest.after (m : ScopedRequest) : LoggerPool :=
  (m.before.serve m.occasion m.request).2

/-- What goes on when code runs: all that is served, the pool that is left and whether the code has
    failed. -/
structure Course where
  moments : List ScopedRequest
  pool : LoggerPool
  failed : Bool

namespace Course

/-- One request is served.  The code fails if the request does. -/
def single (m : ScopedRequest) : Course :=
  ⟨[m], m.after, !(m.before.serve m.occasion m.request).1.isOk⟩

/-- Other code goes on with the pool that is left. -/
def append (first : Course) (next : LoggerPool → Course) : Course :=
  ⟨first.moments ++ (next first.pool).moments, (next first.pool).pool, (next first.pool).failed⟩

/-- Other code follows unless there is a failure. -/
def andThen (first : Course) (next : LoggerPool → Course) : Course :=
  if first.failed then first else first.append next

/-- Other code follows if there is a failure. -/
def orElse (first : Course) (next : LoggerPool → Course) : Course :=
  if first.failed then first.append next else first

/-- Other code follows in any case, and an earlier failure is not forgotten. -/
def thenAlways (first : Course) (next : LoggerPool → Course) : Course :=
  { first.append next with failed := first.failed || (next first.pool).failed }

end Course

/-- Runs code inside of scopes of the logger. -/
def ScopedCode.course {name : String} : ScopedCode name → List String → LoggerPool → Course
  | .skip, _, pool => ⟨[], pool, false⟩
  | .fail, _, pool => ⟨[], pool, true⟩
  | .ask occasion request _, scopes, pool => .single ⟨scopes, scopes, occasion, request, pool⟩
  | .seq first second, scopes, pool => (first.course scopes pool).andThen (second.course scopes)
  | .within phase body, scopes, pool =>
    (Course.single ⟨scopes, phase :: scopes, default, .enter name phase, pool⟩).andThen fun pool =>
      (body.course (phase :: scopes) pool).thenAlways fun pool =>
        .single ⟨phase :: scopes, scopes, default, .leave name (-1), pool⟩
  | .attempt body handler, scopes, pool =>
    (body.course scopes pool).orElse (handler.course scopes)

/-! ### The logger of a name -/

namespace LoggerPool

variable {pool : LoggerPool} {name : String}

/-- The phase of the logger of a name. -/
def phase? (pool : LoggerPool) (name : String) : Option (Option String) :=
  (pool.loggers.lookup name).map (·.phase)

/-- A request for a logger that is there is carried out with it. -/
theorem withLogger_of_lookup {logger : ScopeLogger} (h : pool.loggers.lookup name = some logger)
    (f : ScopeLogger → Except RequestFault Unit × LoggerPool) :
    pool.withLogger name f = f logger := by
  rw [withLogger, h]

/-- What has been put there is found. -/
@[simp]
theorem lookup_put_self (pool : LoggerPool) (name : String) (logger : ScopeLogger) :
    (pool.put name logger).loggers.lookup name = some logger := by
  rw [put, List.lookup_cons_self]

/-- Giving a name to a logger takes no other name away. -/
theorem lookup_put_of_ne {other : String} (h : other ≠ name) (logger : ScopeLogger) :
    (pool.put other logger).loggers.lookup name = pool.loggers.lookup name := by
  have hne : (name == other) = false := by simpa using Ne.symm h
  simp only [put, List.lookup_cons, hne, lookup_filter_ne (Ne.symm h)]

/-- **Bystanders.**  Requests that spare the scopes of a logger leave it as it is, whatever they do
    with other loggers and whether they are fulfilled or not. -/
theorem lookup_serve (pool : LoggerPool) (occasion : Occasion) {request : LoggerRequest}
    (h : request.sparesScopes name = true) :
    (pool.serve occasion request).2.loggers.lookup name = pool.loggers.lookup name := by
  -- most requests are for a logger, which there may not be
  have hpass {target : String} {f : ScopeLogger → Except RequestFault Unit × LoggerPool}
      (hf : ∀ logger, (f logger).2.loggers.lookup name = pool.loggers.lookup name) :
      (pool.withLogger target f).2.loggers.lookup name = pool.loggers.lookup name :=
    withLogger_of (P := fun after => after.loggers.lookup name = pool.loggers.lookup name) rfl hf
  cases request with
  | create other component setup configures =>
    have hne : other ≠ name := of_decide_eq_true h
    show (pool.create other component setup configures).2.loggers.lookup name = _
    unfold create
    split
    · split
      · exact lookup_put_of_ne hne _
      · rfl
    · exact lookup_put_of_ne hne _
  | quiet other component => exact lookup_put_of_ne (of_decide_eq_true h) _
  | enter other phase => exact hpass fun logger => lookup_put_of_ne (of_decide_eq_true h) _
  | leave other number =>
    refine hpass fun logger => ?_
    unfold leave
    split
    · exact lookup_put_of_ne (of_decide_eq_true h) _
    · split <;> rfl
  | call caller call =>
    refine hpass fun logger => ?_
    unfold LoggerPool.call
    split <;> rfl
  | timed teller label failed => exact hpass fun _ => rfl
  | load teller device chunk =>
    cases teller with
    | some teller => exact hpass fun _ => rfl
    | none => rfl

/-- Opening a scope of a logger that is known. -/
theorem serve_enter {logger : ScopeLogger} (h : pool.loggers.lookup name = some logger)
    (occasion : Occasion) (phase : String) :
    pool.serve occasion (.enter name phase) = (.ok (), pool.put name (logger.enter phase)) := by
  rw [serve, withLogger_of_lookup h]

/-- Closing the scope that was opened last. -/
theorem serve_leave {component phase : String} {scopes : List String}
    (h : pool.loggers.lookup name = some (.inside component (phase :: scopes)))
    (occasion : Occasion) :
    pool.serve occasion (.leave name (-1)) =
      (.ok (), pool.put name (.inside component scopes)) := by
  have hlength := ScopeLogger.length_scopes_inside component (phase :: scopes)
  rw [serve, withLogger_of_lookup h, leave, hlength, List.length_cons, position?_last,
    if_pos Option.isSome_some]
  exact congrArg (fun logger => (Except.ok (), pool.put name logger))
    (ScopeLogger.leave_inside component (phase :: scopes))

end LoggerPool

/-! ### Single requests -/

namespace ScopedRequest

/-- The logger carries out a journal under the scopes that are open: it emits those of the records
    that its channel lets pass, each stamped with the innermost scope that is open around it, and
    is left as it was. -/
def Tells (component : String) (m : ScopedRequest) (journal : List LogAction) : Prop :=
  let logger := ScopeLogger.inside component m.opened
  (logger.replay m.occasion journal m.before.logs).1 = logger ∧
  m.after.logs =
    ((ScopeLogger.stampedRecords component m.occasion m.opened journal).filter
      (ScopeLogger.passes m.before.logs)).foldl LogState.emit m.before.logs

/-- The records of the logger of a name are stamped with the innermost open scope. -/
def Stamps (name component : String) (m : ScopedRequest) : Prop :=
  match m.request with
  | .call caller call => caller = name →
      m.after.logs = m.before.logs ∨ ∃ message, m.after.logs =
        m.before.logs.emit (ScopeLogger.stamped component m.occasion m.opened call message)
  | .timed teller label failed => teller = name → m.Tells component (timedJournal label failed)
  | .load teller device chunk =>
    teller = some name → m.Tells component (Load.run device chunk).journal
  | .enter .. | .leave .. => m.after.logs = m.before.logs
  | .create .. | .quiet .. => True

/-- The phase of the logger goes along with the scopes that are open. -/
structure Follows (name component : String) (m : ScopedRequest) : Prop where
  before : m.before.phase? name = some m.opened.head?
  after : m.after.phase? name = some m.left.head?
  stamps : m.Stamps name component

variable {name component : String} {m : ScopedRequest}

/-- What goes along with the scopes before and behind a request does so with the phase. -/
theorem Follows.of_lookup
    (hbefore : m.before.loggers.lookup name = some (.inside component m.opened))
    (hafter : m.after.loggers.lookup name = some (.inside component m.left))
    (hstamps : m.Stamps name component) : m.Follows name component where
  before := by rw [LoggerPool.phase?, hbefore, Option.map_some, ScopeLogger.phase_inside]
  after := by rw [LoggerPool.phase?, hafter, Option.map_some, ScopeLogger.phase_inside]
  stamps := hstamps

/-- A logger inside of scopes tells what stands in a journal with closed scopes. -/
theorem Tells.of_nested {journal : List LogAction} (hnested : Nested journal)
    (hafter : m.after.logs =
      ((ScopeLogger.inside component m.opened).replay m.occasion journal m.before.logs).2) :
    m.Tells component journal := by
  refine ⟨hnested.replay_fst _ _ _, ?_⟩
  rw [hafter, ScopeLogger.replay_snd, ScopeLogger.records_inside]

/-- **Stamps.**  Whatever is asked of a logger inside of scopes, its records are stamped with the
    innermost one. -/
theorem Stamps.of_lookup (h : m.before.loggers.lookup name = some (.inside component m.opened)) :
    m.Stamps name component := by
  obtain ⟨opened, left, occasion, request, before⟩ := m
  cases request with
  | create | quiet => trivial
  | enter other phase =>
    exact LoggerPool.withLogger_of (P := fun after => after.logs = before.logs) rfl fun _ => rfl
  | leave other number =>
    refine LoggerPool.withLogger_of (P := fun after => after.logs = before.logs) rfl
      fun logger => ?_
    unfold LoggerPool.leave
    split
    · rfl
    · split <;> rfl
  | call caller call =>
    rintro rfl
    -- the logger that is called is the one whose scopes are followed
    have hserve : ScopedRequest.after ⟨opened, left, occasion, .call caller call, before⟩ =
        (before.call (.inside component opened) occasion call).2 :=
      congrArg Prod.snd (LoggerPool.withLogger_of_lookup h _)
    rw [hserve, LoggerPool.call]
    split
    · rename_i logs hlog
      obtain hsame | ⟨message, hemit⟩ := ScopeLogger.log_cases _ _ _ hlog
      · exact .inl hsame
      · exact .inr ⟨message, by rw [hemit, ScopeLogger.record_inside]⟩
    · exact .inl rfl
  | timed teller label failed =>
    rintro rfl
    have hserve := congrArg (·.2.logs) (LoggerPool.withLogger_of_lookup h fun logger =>
      (.ok (), before.replay logger occasion (timedJournal label failed)))
    exact .of_nested (nested_timedJournal label failed) hserve
  | load teller device chunk =>
    rintro rfl
    have hserve := congrArg (·.2.logs) (LoggerPool.withLogger_of_lookup h fun logger =>
      before.load logger occasion device chunk)
    exact .of_nested (Load.nested_journal device chunk .none) hserve

end ScopedRequest

/-! ### Courses -/

/-- All moments of a course are such ones, and so is the pool that is left. -/
structure Course.Upholds (P : ScopedRequest → Prop) (Q : LoggerPool → Prop) (c : Course) :
    Prop where
  moments : ∀ m ∈ c.moments, P m
  pool : Q c.pool

namespace Course.Upholds

variable {P : ScopedRequest → Prop} {Q R : LoggerPool → Prop} {first : Course}
  {next : LoggerPool → Course}

/-- A single moment. -/
theorem single {m : ScopedRequest} (hm : P m) (hafter : Q m.after) : (single m).Upholds P Q :=
  ⟨List.forall_mem_singleton.mpr hm, hafter⟩

/-- The moments of one course and then those of another. -/
theorem append (hfirst : first.Upholds P R) (hnext : ∀ pool, R pool → (next pool).Upholds P Q) :
    (first.append next).Upholds P Q := by
  have hrest := hnext _ hfirst.pool
  exact ⟨List.forall_mem_append.mpr ⟨hfirst.moments, hrest.moments⟩, hrest.pool⟩

/-- The other follows only if the first has not failed. -/
theorem andThen (hfirst : first.Upholds P R) (hfailed : first.failed = true → Q first.pool)
    (hnext : ∀ pool, R pool → (next pool).Upholds P Q) : (first.andThen next).Upholds P Q := by
  unfold Course.andThen
  split
  · rename_i hfails
    exact ⟨hfirst.moments, hfailed hfails⟩
  · exact hfirst.append hnext

/-- The other follows only if the first has failed. -/
theorem orElse (hfirst : first.Upholds P Q) (hnext : ∀ pool, Q pool → (next pool).Upholds P Q) :
    (first.orElse next).Upholds P Q := by
  unfold Course.orElse
  split
  · exact hfirst.append hnext
  · exact hfirst

/-- The other follows in any case. -/
theorem thenAlways (hfirst : first.Upholds P R)
    (hnext : ∀ pool, R pool → (next pool).Upholds P Q) : (first.thenAlways next).Upholds P Q :=
  ⟨(hfirst.append hnext).moments, (hfirst.append hnext).pool⟩

end Course.Upholds

namespace ScopedCode

variable {name component : String}

/-- While code runs inside of scopes, the logger follows them, and it is inside of the same scopes
    again when the code is left. -/
theorem upholds (code : ScopedCode name) (scopes : List String) {pool : LoggerPool}
    (h : pool.loggers.lookup name = some (.inside component scopes)) :
    (code.course scopes pool).Upholds (ScopedRequest.Follows name component)
      (fun pool => pool.loggers.lookup name = some (.inside component scopes)) := by
  -- a block is code inside of one more scope
  induction code generalizing scopes pool with
  | skip | fail => exact ⟨nofun, h⟩
  | ask occasion request hspares =>
    have hafter := (pool.lookup_serve occasion hspares).trans h
    exact .single (.of_lookup h hafter (.of_lookup h)) hafter
  | seq first second ihfirst ihsecond =>
    have hfirst := ihfirst scopes h
    exact hfirst.andThen (fun _ => hfirst.pool) fun _ hpool => ihsecond scopes hpool
  | within phase body ih =>
    let inner := fun pool : LoggerPool =>
      pool.loggers.lookup name = some (.inside component (phase :: scopes))
    have henter := LoggerPool.serve_enter h default phase
    have hentered : inner (pool.serve default (.enter name phase)).2 := by
      rw [henter]
      exact LoggerPool.lookup_put_self ..
    refine Course.Upholds.andThen (R := inner)
      (.single (.of_lookup h hentered (.of_lookup h)) hentered) (fun hfailed => ?_)
      fun _ hpool => (ih _ hpool).thenAlways fun last hlast => ?_
    · -- the scope of a logger that is known can always be opened
      rw [Course.single, henter] at hfailed
      cases hfailed
    · have hleft : (last.serve default (.leave name (-1))).2.loggers.lookup name =
          some (.inside component scopes) := by
        rw [LoggerPool.serve_leave hlast]
        exact LoggerPool.lookup_put_self ..
      exact .single (.of_lookup hlast hleft (.of_lookup hlast)) hleft
  | attempt body handler ihbody ihhandler =>
    exact (ihbody scopes h).orElse fun _ hpool => ihhandler scopes hpool

/-- **Scopes nest.**  Let code run with a logger that is inside of some scopes, or of none.  Before
    and behind every request the phase of the logger is the innermost scope that is open, or none;
    its records, those of loads among them, are stamped with the innermost scope that is open
    around them; and however the code is left, the logger is the same as before. -/
theorem phase_follows_scopes (code : ScopedCode name) (scopes : List String) (pool : LoggerPool)
    (h : pool.loggers.lookup name = some (.inside component scopes)) :
    let course := code.course scopes pool
    (∀ m ∈ course.moments, m.Follows name component) ∧
    course.pool.loggers.lookup name = pool.loggers.lookup name ∧
    course.pool.phase? name = some scopes.head? := by
  have hcourse := code.upholds scopes h
  refine ⟨hcourse.moments, hcourse.pool.trans h.symm, ?_⟩
  rw [LoggerPool.phase?, hcourse.pool, Option.map_some, ScopeLogger.phase_inside]

/-- A load that fails inside of two scopes, next to another logger of the same component that opens
    a scope and keeps it open. -/
def failingLoad : ScopedCode "own" :=
  .within "outer" <| .seq
    (.attempt (.within "inner" <| .seq (.ask default (.enter "other" "another") rfl)
      (.ask default (.load (some "own") (.ofBytes #[]) defaultChunkSize) rfl)) .skip)
    (.ask default (.call "own" { severity := .debug, message := "behind the failure" }) rfl)

/-- The phase behind each request of such code, and at last. -/
theorem phase_follows_scopes_failingLoad :
    let pool : LoggerPool :=
      { loggers := [("own", { component := "loader" }), ("other", { component := "loader" })] }
    let course := failingLoad.course [] pool
    course.moments.map (·.after.phase? "own") =
      ["outer", "inner", "inner", "inner", "outer", "outer"].map (some <| some ·) ++ [some none] ∧
    course.pool.phase? "own" = some none := by
  obtain ⟨hmoments, -, hend⟩ := phase_follows_scopes failingLoad []
    { loggers := [("own", { component := "loader" }), ("other", { component := "loader" })] }
    rfl
  refine ⟨?_, hend⟩
  rw [List.map_congr_left fun m hm => (hmoments m hm).after]
  decide +kernel

end ScopedCode

end ElfInspect
