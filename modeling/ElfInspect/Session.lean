import ElfInspect.Load
import ElfInspect.Log.Logger

namespace ElfInspect

/-!
# Loaders and sessions

A loader runs one load after another with the same chunk size and remembers the phase that the
most recent load reached.  A session is a loader with the files it has loaded so far.  A load starts
out in the phase that the load before it has left behind, which makes no difference to it.  In a
logged session one logger carries out what all of the loads note.
-/

/-- A loader: its chunk size and the phase that its most recent load reached. -/
structure Loader where
  chunk : Int := defaultChunkSize
  phase : Phase := .validateIdent
  deriving Repr, DecidableEq, Inhabited

/-- Loads a file, from the phase that the load before has left behind, and remembers the phase
    reached. -/
def Loader.load (loader : Loader) (device : Device) : Load.Run × Loader :=
  let start : LoadState := { device, phase := loader.phase }
  let run := Load.Run.ofResult (Load.pipeline loader.chunk .none start)
  (run, { loader with phase := run.phase })

/-- Nothing is done in the phase left behind: a load begins with entering its first phase. -/
theorem Loader.load_fst (loader : Loader) (device : Device) :
    (loader.load device).1 = Load.run device loader.chunk := rfl

/-- A loader with the files loaded so far, oldest first. -/
structure Session where
  loader : Loader := {}
  files : List ElfFile := []
  deriving Repr, DecidableEq, Inhabited

namespace Session

/-- Loads a file and keeps it if the load succeeds. -/
def load (session : Session) (device : Device) : Except LoadFailure ElfFile × Session :=
  let (run, loader) := session.loader.load device
  match run.outcome with
  | .ok file => (.ok file, { loader, files := session.files ++ [file] })
  | .error failure => (.error failure, { session with loader })

/-- The file with a given number, or the most recent one. -/
def file? (session : Session) (number : Option Int) : Option ElfFile :=
  itemAt? session.files (number.getD (-1))

/-- The outcome of a load is that of the same load on its own. -/
theorem load_fst (session : Session) (device : Device) :
    (session.load device).1 = (Load.run device session.loader.chunk).outcome := by
  simp only [load, ← Loader.load_fst]
  split <;> simp_all

/-- The files loaded earlier are kept. -/
theorem files_load (session : Session) (device : Device) :
    (session.load device).2.files =
      match (Load.run device session.loader.chunk).outcome with
      | .ok file => session.files ++ [file]
      | .error _ => session.files := by
  simp only [load, ← Loader.load_fst]
  split <;> simp_all

end Session

/-! ### Logged sessions -/

/-- A load that is asked for: the device to read, and the time that the records of the load tell. -/
structure LoadTask where
  device : Device
  occasion : Occasion
  deriving Repr, DecidableEq

/-- A session with the logger that its loads report to. -/
structure LoggedSession extends Session where
  logger : ScopeLogger
  logs : LogState := {}
  deriving Repr, DecidableEq, Inhabited

namespace LoggedSession

/-- Loads a file, and has the logger carry out the journal of the load, successful or not. -/
def load (s : LoggedSession) (task : LoadTask) : Except LoadFailure ElfFile × LoggedSession :=
  let journal := (s.loader.load task.device).1.journal
  let (logger, logs) := s.logger.replay task.occasion journal s.logs
  let (outcome, session) := s.toSession.load task.device
  (outcome, { toSession := session, logger, logs })

/-- The session after some loads, one after another. -/
def after (s : LoggedSession) (tasks : List LoadTask) : LoggedSession :=
  tasks.foldl (fun s task => (s.load task).2) s

end LoggedSession

end ElfInspect
