import ElfInspect.Load
import ElfInspect.Log.Logger
import ElfInspect.Proofs.Ends

namespace ElfInspect

/-!
# The scopes of a journal

A load may fail at any point, and most of what it notes stands inside a scope.  Still each scope is
closed again, however the load ends, and so its journal leaves every logger as it was.

* `Nested journal` — scopes are opened and closed in pairs, one within another or one after another;
* `Nested.replay_fst` — a logger that carries out such a journal is left as it was;
* `Notes m` — all that `m` adds to the journal is nested, whether it succeeds or fails;
* `Load.nested_journal` — the journal of a load is nested.
-/

/-- The scopes of a journal are opened and closed in pairs. -/
inductive Nested : List LogAction → Prop
  | nil : Nested []
  | emit (severity : Severity) (message : String) {rest : List LogAction} (hrest : Nested rest) :
    Nested (.emit severity message :: rest)
  | emitTimed (severity : Severity) (label : String) {rest : List LogAction}
    (hrest : Nested rest) : Nested (.emitTimed severity label :: rest)
  | scope (phase : String) {inner rest : List LogAction} (hinner : Nested inner)
    (hrest : Nested rest) : Nested (.openScope phase :: (inner ++ .closeScope :: rest))

namespace Nested

variable {journal later : List LogAction}

/-- Journals one after another. -/
theorem append (h : Nested journal) (hlater : Nested later) : Nested (journal ++ later) := by
  induction h with
  | nil => exact hlater
  | emit severity message _ ih => exact .emit severity message ih
  | emitTimed severity label _ ih => exact .emitTimed severity label ih
  | scope phase hinner _ _ ih =>
    rw [List.cons_append, List.append_assoc, List.cons_append]
    exact .scope phase hinner ih

/-- Records within a single scope. -/
theorem singleScope (phase : String) {inner : List LogAction} (h : Nested inner) :
    Nested (.openScope phase :: inner ++ [.closeScope]) :=
  .scope phase h .nil

/-- What is opened in the journal is closed in it, so that the logger is the same again. -/
theorem replay_fst (h : Nested journal) (logger : ScopeLogger) (occasion : Occasion)
    (state : LogState) :
    (logger.replay occasion journal state).1 = logger := by
  -- inside of a scope the logger is another one, and so is the state behind each record
  induction h generalizing logger state with
  | nil => rfl
  | emit severity message _ ih =>
    exact ih logger (logger.say occasion severity message state)
  | emitTimed severity label _ ih =>
    exact ih logger (logger.say occasion severity (ScopeLogger.completion occasion label) state)
  | @scope phase inner rest _ _ ihinner ihrest =>
    have hinner := ihinner (logger.enter phase) state
    unfold ScopeLogger.replay at hinner ihrest ⊢
    rw [List.foldl_cons, List.foldl_append, List.foldl_cons]
    generalize hnow : inner.foldl (ScopeLogger.act occasion) (logger.enter phase, state) = now
      at hinner
    have hopen : ScopeLogger.act occasion (logger, state) (.openScope phase) =
      (logger.enter phase, state) := rfl
    have hclose : ScopeLogger.act occasion now .closeScope = (logger, now.2) := by
      show (now.1.leave, now.2) = (logger, now.2)
      rw [hinner, ScopeLogger.leave_enter]
    rw [hopen, hnow, hclose]
    exact ihrest logger now.2

end Nested

/-! ### Loads -/

variable {α β : Type}

/-- The journal, which is kept newest first, is a nested one on top of an earlier journal. -/
def NestedSince (earlier : List LogAction) (s : LoadState) : Prop :=
  ∃ noted, Nested noted ∧ s.journal = noted.reverse ++ earlier

/-- Nothing has been noted yet. -/
theorem NestedSince.refl (s : LoadState) : NestedSince s.journal s :=
  ⟨[], .nil, rfl⟩

/-- What is noted next is nested as well. -/
theorem NestedSince.more {earlier : List LogAction} {s s' : LoadState} (h : NestedSince earlier s)
    {noted : List LogAction} (hnoted : Nested noted)
    (hjournal : s'.journal = noted.reverse ++ s.journal) : NestedSince earlier s' := by
  obtain ⟨before, hbefore, hstart⟩ := h
  refine ⟨before ++ noted, hbefore.append hnoted, ?_⟩
  rw [hjournal, hstart, List.reverse_append, List.append_assoc]

/-- All that the computation adds to the journal is nested, whether it succeeds or fails. -/
def Notes (m : Loading α) : Prop :=
  ∀ earlier, Ends (NestedSince earlier) m (fun _ => NestedSince earlier)
    fun _ => NestedSince earlier

namespace Notes

variable {m : Loading α}

theorem pure (a : α) : Notes (Pure.pure a) :=
  fun _ => Ends.pure fun _ hs => hs

/-- What the second part notes follows on what the first one has noted. -/
theorem bind {f : α → Loading β} (hm : Notes m) (hf : ∀ a, Notes (f a)) : Notes (m >>= f) :=
  fun earlier => Ends.bind (hm earlier) fun a => hf a earlier

/-- A remark opens no scope. -/
theorem emit (severity : Severity) (message : String) :
    Notes (Load.note (.emit severity message)) := by
  intro earlier s hs
  have hnoted : Nested [.emit severity message] := .emit _ _ .nil
  exact hs.more hnoted rfl

/-- Nor does one on how long something took. -/
theorem emitTimed (severity : Severity) (label : String) :
    Notes (Load.note (.emitTimed severity label)) := by
  intro earlier s hs
  have hnoted : Nested [.emitTimed severity label] := .emitTimed _ _ .nil
  exact hs.more hnoted rfl

/-- Nor does the beginning of a phase. -/
theorem enter (phase : Phase) : Notes (Load.enter phase) := by
  intro earlier s hs
  have hinner : Nested [.emit .debug s!"Entering phase {phase.name}"] := .emit _ _ .nil
  exact hs.more (hinner.singleScope phase.name) rfl

/-- The scope is closed also if the decoder fails, behind what is said about that. -/
theorem perform (feedback : Load.Feedback) (step : Decode α) :
    Notes (Load.perform feedback step) := by
  intro earlier s hs
  unfold Load.perform
  cases step (feedback s.journal s.device) with
  | ok a d => exact hs.more (Nested.nil.singleScope s.phase.name) rfl
  | error cause d =>
    have hinner : Nested (Load.failureNotes s.phase cause) := by
      unfold Load.failureNotes
      split
      · exact .emit _ _ .nil
      · exact .nil
    -- there is one record at most, which reads the same in both directions
    have hreverse : (Load.failureNotes s.phase cause).reverse =
        Load.failureNotes s.phase cause := by
      unfold Load.failureNotes
      split <;> rfl
    refine hs.more (hinner.singleScope s.phase.name) ?_
    simp [hreverse]

/-- Each phase opens one scope and closes it, whatever happens within. -/
theorem pipeline (chunk : Int) (feedback : Load.Feedback) :
    Notes (Load.pipeline chunk feedback) := by
  unfold Load.pipeline
  refine bind (emit _ _) fun _ => ?_
  refine bind (enter _) fun _ => bind (perform _ _) fun ident => ?_
  refine bind (enter _) fun _ => bind (perform _ _) fun header => ?_
  refine bind (emit _ _) fun _ => ?_
  refine bind (enter _) fun _ => bind (perform _ _) fun segments => ?_
  refine bind (enter _) fun _ => bind (perform _ _) fun headers => ?_
  refine bind (enter _) fun _ => bind (perform _ _) fun contents => ?_
  refine bind (enter _) fun _ => bind (perform _ _) fun names => ?_
  refine bind (enter _) fun _ => ?_
  exact bind (emitTimed _ _) fun _ => bind (emit _ _) fun _ => pure _

end Notes

/-- **Unwinding.**  However a load ends, all scopes that it has opened are closed. -/
theorem Load.nested_journal (device : Device) (chunk : Int) (feedback : Load.Feedback) :
    Nested (Load.run device chunk feedback).journal := by
  have hend := Notes.pipeline chunk feedback [] { device } (.refl _)
  -- the journal is kept backwards while the load goes on
  have hreversed {s : LoadState} (h : NestedSince [] s) : Nested s.journal.reverse := by
    obtain ⟨noted, hnoted, hjournal⟩ := h
    rwa [hjournal, List.append_nil, List.reverse_reverse]
  unfold Load.run
  cases hrun : Load.pipeline chunk feedback { device } with
  | ok file s =>
    rw [hrun] at hend
    exact hreversed hend
  | error failure s =>
    rw [hrun] at hend
    exact hreversed hend

end ElfInspect
