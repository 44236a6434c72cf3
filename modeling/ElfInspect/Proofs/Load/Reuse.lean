import ElfInspect.Proofs.Load.InputFaults
import ElfInspect.Proofs.Load.Journal
import ElfInspect.Proofs.Load.Outcome

namespace ElfInspect

/-!
# Loaders that are used again

A loader carries its phase, and a logger carries its own phase, from one load to the next, and a
load may stop anywhere.  Still no load depends on those before it, and each leaves behind what tells
how it ended: a loader that is ready, or one in the phase of the failure.

* `Stops before m after` — if `m` fails, it does so in a phase before the last, by a fault of the
  input that is attributed to that phase;
* `Load.ready_or_stopped` — how the phase of a load and its outcome go together;
* `LoggedSession.ready_iff`, `LoggedSession.phase_of_error` — the same for the loader of a session;
* `LoggedSession.chunk_after`, `LoggedSession.logger_after`, `LoggedSession.files_prefix_after` —
  what all loads leave alone;
* `LoggedSession.load_after` — a load at the end of any sequence of loads.
-/

variable {α β : Type} {medium : Medium}

/-! ### How loads stop -/

/-- The computation either ends with a value and in a state with the property `after`, or fails in a
    phase before the last, and the failure carries that phase. -/
def Stops (before : LoadState → Prop) (m : Loading α) (after : α → LoadState → Prop) : Prop :=
  Ends before m after fun failure s => failure.phase = some s.phase ∧ s.phase ≠ .ready

namespace Stops

variable {P : LoadState → Prop} {m : Loading α} {Q : α → LoadState → Prop}
  {R : β → LoadState → Prop}

/-- Either part may be the one that stops. -/
theorem bind {f : α → Loading β} (hm : Stops P m Q) (hf : ∀ a, Stops (Q a) (f a) R) :
    Stops P (m >>= f) R :=
  Ends.bind hm hf

theorem note (action : LogAction) :
    Stops (fun s => s.device.medium = medium) (Load.note action)
      (fun _ s => s.device.medium = medium) :=
  fun _ hs => hs

theorem enter (phase : Phase) :
    Stops (fun s => s.device.medium = medium) (Load.enter phase)
      (fun _ s => s.device.medium = medium ∧ s.phase = phase) :=
  fun _ hs => ⟨hs, rfl⟩

/-- A step that fails by the input stops in its phase. -/
theorem perform {step : Decode α} {good : α → Prop} {phase : Phase} (hphase : phase ≠ .ready)
    (hstep : FailsByInput medium step good) :
    Stops (fun s => s.device.medium = medium ∧ s.phase = phase) (Load.perform .none step)
      (fun a s => s.device.medium = medium ∧ good a) := by
  rintro s ⟨hs, rfl⟩
  have hdecoder := hstep s.device hs
  unfold Load.perform Load.Feedback.none
  cases hrun : step s.device with
  | ok a d =>
    rw [hrun] at hdecoder
    exact hdecoder
  | error cause d =>
    rw [hrun] at hdecoder
    exact ⟨if_pos hdecoder, hphase⟩

/-- A phase: it is entered, and its decoder runs under it. -/
theorem inPhase {step : Decode α} {good : α → Prop} {phase : Phase} (hphase : phase ≠ .ready)
    (hstep : FailsByInput medium step good) {rest : α → Loading β}
    (hrest : ∀ a, good a → Stops (fun s => s.device.medium = medium) (rest a) R) :
    Stops (fun s => s.device.medium = medium)
      (do Load.enter phase; let a ← Load.perform .none step; rest a) R :=
  bind (enter phase) fun _ => bind (perform hphase hstep) fun a s hs => hrest a hs.2 s hs.1

/-- All phases stop where they fail. -/
theorem pipeline {chunk : Int} (hpos : 1 ≤ chunk) (hgrants : medium.Grants chunk.toNat) :
    Stops (fun s => s.device.medium = medium) (Load.pipeline chunk) fun _ _ => True := by
  unfold Load.pipeline
  refine bind (note _) fun _ => ?_
  refine inPhase (by decide) FailsByInput.readIdent fun ident hident => ?_
  refine inPhase (by decide) (FailsByInput.readHeader hident) fun header _ => ?_
  refine bind (note _) fun _ => ?_
  refine inPhase (by decide) (FailsByInput.readTable (FailsByInput.readLayout
    (Stored.programHeader_width_lt _) _ _) _ _) fun segments _ => ?_
  refine inPhase (by decide) (FailsByInput.readTable (FailsByInput.readLayout
    (Stored.sectionHeader_width_lt _) _ _) _ _) fun headers _ => ?_
  refine inPhase (by decide) (FailsByInput.mapM headers fun h _ =>
    FailsByInput.readContent h hpos hgrants) fun contents _ => ?_
  refine inPhase (by decide) (FailsByInput.sectionNames header headers contents) fun names _ => ?_
  -- the last phase only makes notes
  exact bind (enter .ready) fun _ _ _ => trivial

end Stops

/-- How the phase that a load reaches goes together with its outcome. -/
theorem Load.ready_or_stopped {device : Device} {chunk : Int} (hpos : 1 ≤ chunk)
    (hgrants : device.medium.Grants chunk.toNat) :
    match (Load.run device chunk).outcome with
    | .ok _ => (Load.run device chunk).phase = .ready
    | .error failure =>
      failure.phase = some (Load.run device chunk).phase ∧
        (Load.run device chunk).phase ≠ .ready := by
  cases houtcome : (Load.run device chunk).outcome with
  | ok file => exact Load.phase_run_of_ok device chunk .none houtcome
  | error failure =>
    -- the phase of the state is the one in which the load has stopped
    have hstop := Stops.pipeline hpos hgrants { device } rfl
    unfold Load.run at houtcome ⊢
    cases hrun : Load.pipeline chunk .none { device } with
    | ok file s =>
      rw [hrun] at houtcome
      cases houtcome
    | error failure' s =>
      rw [hrun] at houtcome hstop
      rw [← Except.error.inj houtcome]
      exact hstop

/-! ### Sessions -/

/-- A session keeps the files that it has. -/
theorem Session.files_prefix_load (session : Session) (device : Device) :
    session.files <+: (session.load device).2.files := by
  rw [files_load]
  split
  · exact List.prefix_append _ _
  · exact List.prefix_rfl

/-- A load of a session is one of its loader. -/
theorem Session.loader_load (session : Session) (device : Device) :
    (session.load device).2.loader = (session.loader.load device).2 := by
  simp only [load]
  split <;> rfl

/-- A session that keeps the files of another one finds them by their numbers. -/
theorem Session.file?_of_prefix {session session' : Session}
    (h : session.files <+: session'.files) {n : Nat} (hn : n < session.files.length) :
    session'.file? (some n) = session.file? (some n) := by
  have hn' : n < session'.files.length := Nat.lt_of_lt_of_le hn h.length_le
  show (position? session'.files.length n).bind (session'.files[·]?) =
    (position? session.files.length n).bind (session.files[·]?)
  rw [position?_ofNat hn, position?_ofNat hn']
  show session'.files[n]? = session.files[n]?
  rw [List.prefix_iff_getElem?.mp h n hn, List.getElem?_eq_getElem hn]

namespace LoggedSession

variable (s : LoggedSession)

/-! #### One load -/

/-- The outcome is that of a run, which does not depend on what has been loaded before. -/
theorem load_fst (task : LoadTask) :
    (s.load task).1 = (Load.run task.device s.loader.chunk).outcome :=
  s.toSession.load_fst task.device

/-- A file is added if there is one. -/
theorem files_load (task : LoadTask) :
    (s.load task).2.files =
      match (s.load task).1 with
      | .ok file => s.files ++ [file]
      | .error _ => s.files := by
  rw [load_fst]
  exact s.toSession.files_load task.device

/-- A load that succeeds adds its file behind those that are there. -/
theorem files_of_ok {task : LoadTask} {file : ElfFile} (h : (s.load task).1 = .ok file) :
    (s.load task).2.files = s.files ++ [file] := by
  rw [files_load, h]

/-- A load that fails adds none. -/
theorem files_of_error {task : LoadTask} {failure : LoadFailure}
    (h : (s.load task).1 = .error failure) : (s.load task).2.files = s.files := by
  rw [files_load, h]

/-- The loader is as if it had run this load only. -/
theorem loader_load (task : LoadTask) :
    (s.load task).2.loader =
      { s.loader with phase := (Load.run task.device s.loader.chunk).phase } :=
  s.toSession.loader_load task.device

section Stops

variable {s} {task : LoadTask}

/-- The loader is ready, or it stands in the phase that has failed. -/
theorem ready_or_stopped (hpos : 1 ≤ s.loader.chunk) (hlt : s.loader.chunk < wordLimit)
    (hdevice : task.device.medium.isFile = false) :
    match (s.load task).1 with
    | .ok _ => (s.load task).2.loader.phase = .ready
    | .error failure =>
      failure.phase = some (s.load task).2.loader.phase ∧
        (s.load task).2.loader.phase ≠ .ready := by
  have hgrants : task.device.medium.Grants s.loader.chunk.toNat :=
    Medium.grants_of_not_file hdevice (by omega)
  rw [load_fst, loader_load]
  exact Load.ready_or_stopped hpos hgrants

/-- The loader is ready behind a load that succeeds, and behind no other. -/
theorem ready_iff (hpos : 1 ≤ s.loader.chunk) (hlt : s.loader.chunk < wordLimit)
    (hdevice : task.device.medium.isFile = false) :
    (s.load task).2.loader.phase = .ready ↔ ∃ file, (s.load task).1 = .ok file := by
  have hstop := ready_or_stopped hpos hlt hdevice
  cases houtcome : (s.load task).1 with
  | ok file =>
    rw [houtcome] at hstop
    exact ⟨fun _ => ⟨file, rfl⟩, fun _ => hstop⟩
  | error failure =>
    rw [houtcome] at hstop
    exact ⟨fun hready => absurd hready hstop.2, nofun⟩

/-- A failure carries the phase that the loader is left in. -/
theorem phase_of_error (hpos : 1 ≤ s.loader.chunk) (hlt : s.loader.chunk < wordLimit)
    (hdevice : task.device.medium.isFile = false) {failure : LoadFailure}
    (h : (s.load task).1 = .error failure) :
    failure.phase = some (s.load task).2.loader.phase := by
  have hstop := ready_or_stopped hpos hlt hdevice
  rw [h] at hstop
  exact hstop.1

end Stops

/-- However the load ends, the logger is as it was before. -/
theorem logger_load (task : LoadTask) : (s.load task).2.logger = s.logger :=
  (Load.nested_journal task.device s.loader.chunk .none).replay_fst s.logger task.occasion s.logs

/-! #### Any number of loads -/

/-- Loads one after another. -/
theorem after_cons (task : LoadTask) (tasks : List LoadTask) :
    s.after (task :: tasks) = (s.load task).2.after tasks := rfl

/-- No load changes the size of the chunks. -/
theorem chunk_after (tasks : List LoadTask) : (s.after tasks).loader.chunk = s.loader.chunk := by
  induction tasks generalizing s with
  | nil => rfl
  | cons task tasks ih =>
    rw [after_cons, ih, loader_load]

/-- After each load the logger is in the scopes that it was in before. -/
theorem logger_after (tasks : List LoadTask) : (s.after tasks).logger = s.logger := by
  induction tasks generalizing s with
  | nil => rfl
  | cons task tasks ih =>
    rw [after_cons, ih, logger_load]

/-- Files stay where they are. -/
theorem files_prefix_after (tasks : List LoadTask) : s.files <+: (s.after tasks).files := by
  induction tasks generalizing s with
  | nil => exact List.prefix_rfl
  | cons task tasks ih =>
    rw [after_cons]
    have hfirst : s.files <+: (s.load task).2.files := s.toSession.files_prefix_load task.device
    exact hfirst.trans (ih (s.load task).2)

/-- **Reuse.**  Whatever loads a loader has run, the next one has the outcome that it has on a fresh
    loader.  Behind it the loader is ready exactly if it succeeded, and in the phase of the failure
    otherwise.  The files loaded so far stay as they are, also in all later loads, and the logger is
    in the phase in which it was. -/
theorem load_after (start : LoggedSession) (hpos : 1 ≤ start.loader.chunk)
    (hlt : start.loader.chunk < wordLimit) (before : List LoadTask) (task : LoadTask)
    (hdevice : task.device.medium.isFile = false) (later : List LoadTask) :
    let s := start.after before
    let outcome := (s.load task).1
    let s' := (s.load task).2
    outcome = (Loader.load { chunk := start.loader.chunk } task.device).1.outcome ∧
      (s'.loader.phase = .ready ↔ ∃ file, outcome = .ok file) ∧
      (∀ failure, outcome = .error failure →
        failure.phase = some s'.loader.phase ∧ s'.files = s.files) ∧
      (∀ file, outcome = .ok file → s'.files = s.files ++ [file]) ∧
      (∀ n < s'.files.length, (s'.after later).file? (some n) = s'.file? (some n)) ∧
      s'.logger = s.logger ∧ s.logger = start.logger := by
  intro s outcome s'
  have hchunk : s.loader.chunk = start.loader.chunk := start.chunk_after before
  rw [← hchunk] at hpos hlt
  have hrun : outcome = (Load.run task.device start.loader.chunk).outcome := by
    rw [← hchunk]
    exact s.load_fst task
  -- later loads add files behind those that are there
  have hkept (n : Nat) (hn : n < s'.files.length) :
      (s'.after later).file? (some n) = s'.file? (some n) :=
    Session.file?_of_prefix (s'.files_prefix_after later) hn
  refine ⟨hrun, ready_iff hpos hlt hdevice, fun failure hfailure => ?_, fun file hfile => ?_, hkept,
    s.logger_load task, start.logger_after before⟩
  · exact ⟨phase_of_error hpos hlt hdevice hfailure, s.files_of_error hfailure⟩
  · exact s.files_of_ok hfile

/-- A session with a logger that is in some phase. -/
def interrupted : LoggedSession :=
  { loader := { chunk := 3 }, logger := { component := "loader", phase := some "outer" } }

/-- A load of an image that is broken, and a load in which the last read is refused. -/
def failures : List LoadTask :=
  [⟨.ofBytes Loader.brokenImage, default⟩, ⟨.failing Load.mixedImage (some 69) none, default⟩]

/-- A load of the same image, two bytes at a time. -/
def trickle : LoadTask :=
  ⟨.trickling Load.mixedImage 2, default⟩

/-- Two loads fail, in different phases, before one goes well. -/
theorem load_after_failures :
    1 ≤ interrupted.loader.chunk ∧ interrupted.loader.chunk < wordLimit ∧
      trickle.device.medium.isFile = false ∧
      (interrupted.after failures).loader.phase = .loadSectionContent ∧
      ∃ file, ((interrupted.after failures).load trickle).1 = .ok file ∧
        ((interrupted.after failures).load trickle).2.loader.phase = .ready ∧
        ((interrupted.after failures).load trickle).2.logger.phase = some "outer" := by
  have hpos : 1 ≤ interrupted.loader.chunk := by decide
  have hlt : interrupted.loader.chunk < wordLimit := by decide
  have hdevice : trickle.device.medium.isFile = false := by decide
  obtain ⟨-, hready, -, -, -, hlogger, hstart⟩ :=
    load_after interrupted hpos hlt failures trickle hdevice []
  have hphase : ((interrupted.after failures).load trickle).2.loader.phase = .ready := by
    decide +kernel
  obtain ⟨file, hfile⟩ := hready.mp hphase
  refine ⟨hpos, hlt, hdevice, by decide +kernel, file, hfile, hphase, ?_⟩
  rw [hlogger, hstart]
  rfl

end LoggedSession

end ElfInspect
