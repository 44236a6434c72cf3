import ElfInspect.Proofs.Load.Outcome
import ElfInspect.Proofs.Load.Phases
import ElfInspect.Proofs.Quota

namespace ElfInspect

/-!
# Loads from devices that stop answering

A device may refuse calls after it has answered some.  A load from it is the load from a device that
answers every call as long as no call is refused, and the first refusal ends it.  No refusal is
taken for the end of the input, and none is passed over.

* `Load.trace content chunk` — the calls of a load from a device that answers all of them, each with
  the phase in which it is made;
* `Quota.FirstBeyondIn` — the first call of a trace that is refused, and its phase;
* `Load.RunAccount` — what phases come to on both devices, built up one phase after another;
* `Load.run_failing` — loads from a device that stops answering.
-/

/-! ### The calls of a load -/

/-- The calls by which a device has come from one state to a later one. -/
def Device.callsBetween (d d' : Device) : List Call :=
  (d'.calls.take (d'.calls.length - d.calls.length)).reverse

/-- What a device has recorded since is what has been put in front of its calls. -/
theorem Device.callsBetween_eq {d d' : Device} {made : List Call}
    (h : d'.calls = made.reverse ++ d.calls) : callsBetween d d' = made := by
  simp [callsBetween, h]

namespace Load

/-- The calls that phases make, each with its phase. -/
def traceFrom : List Stage → Draft → Device → List (Phase × Call)
  | [], _, _ => []
  | stage :: rest, draft, d =>
    match stage.step draft d with
    | .ok draft' d' =>
      (d.callsBetween d').map (stage.phase, ·) ++ traceFrom rest draft' d'
    | .error _ d' => (d.callsBetween d').map (stage.phase, ·)

/-- The calls of a load from memory, each with the phase in which it is made. -/
def trace (content : Bytes) (chunk : Int) : List (Phase × Call) :=
  traceFrom (stages chunk) {} (.ofBytes content)

end Load

/-- The first call of a trace that is not answered, and its phase. -/
def Quota.FirstBeyondIn (q : Quota) (trace : List (Phase × Call)) (phase : Phase) (call : Call) :
    Prop :=
  ∃ before rest, trace = before ++ (phase, call) :: rest ∧
    q.Covers (before.map Prod.snd) ∧ ¬ q.Covers (before.map Prod.snd ++ [call])

@[simp] theorem map_snd_of_phase (phase : Phase) (made : List Call) :
    (made.map (phase, ·)).map Prod.snd = made := by
  rw [List.map_map]
  exact List.map_id made

namespace Quota.FirstBeyondIn

variable {q : Quota} {made : List Call} {trace : List (Phase × Call)} {phase : Phase} {call : Call}

/-- The calls of one phase, with the phase. -/
theorem of_calls (h : q.FirstBeyond made call) (phase : Phase) :
    q.FirstBeyondIn (made.map (phase, ·)) phase call := by
  obtain ⟨before, rest, rfl, hbefore, hcall⟩ := h
  refine ⟨before.map (phase, ·), rest.map (phase, ·), by simp, ?_, ?_⟩
  · rwa [map_snd_of_phase]
  · rwa [map_snd_of_phase]

/-- Later calls make no difference. -/
theorem append_right (h : q.FirstBeyondIn trace phase call) (later : List (Phase × Call)) :
    q.FirstBeyondIn (trace ++ later) phase call := by
  obtain ⟨before, rest, rfl, hbefore, hcall⟩ := h
  exact ⟨before, rest ++ later, by simp, hbefore, hcall⟩

/-- Earlier calls that are all answered use up a part of the quota. -/
theorem append_left {earlier : List (Phase × Call)} (hearlier : q.Covers (earlier.map Prod.snd))
    (h : (q.after (earlier.map Prod.snd)).FirstBeyondIn trace phase call) :
    q.FirstBeyondIn (earlier ++ trace) phase call := by
  obtain ⟨before, rest, rfl, hbefore, hcall⟩ := h
  refine ⟨earlier ++ before, rest, by simp, ?_, ?_⟩
  · rw [List.map_append]
    exact Quota.covers_append.mpr ⟨hearlier, hbefore⟩
  · rw [List.map_append, List.append_assoc, Quota.covers_append]
    exact fun hcovers => hcall hcovers.2

end Quota.FirstBeyondIn

/-! ### Phases on a device with a quota -/

namespace Load

variable {stage : Stage} {rest : List Stage} {draft draft' : Draft} {s : LoadState} {d : Device}

theorem forM_note (actions : List LogAction) (s : LoadState) :
    ∃ journal, actions.forM note s = .ok () { s with journal } := by
  induction actions generalizing s with
  | nil => exact ⟨s.journal, rfl⟩
  | cons action actions ih => exact ih { s with journal := action :: s.journal }

/-- A phase comes to what its decoder comes to on the device. -/
theorem Stage.run_eq {r : Except DecodeError Draft}
    (h : stage.step draft s.device = ending r d) :
    ∃ journal, stage.run .none draft s =
      ending (Stored.attributed stage.phase r) ⟨d, stage.phase, journal⟩ := by
  have henter : ∃ journal, enter stage.phase s = ending (.ok ()) ⟨s.device, stage.phase, journal⟩ :=
    ⟨_, rfl⟩
  obtain ⟨journal, henter⟩ := henter
  rw [Stage.run, bind_of_ending_ok henter]
  -- remarks are made only after a step that has gone well
  cases r with
  | error cause =>
    have hperform : ∃ journal', perform .none (stage.step draft) ⟨s.device, stage.phase, journal⟩ =
        ending (.error (cause.inPhase stage.phase)) ⟨d, stage.phase, journal'⟩ := by
      simp only [perform, Feedback.none, h, ending_error]
      exact ⟨_, rfl⟩
    obtain ⟨journal', hperform⟩ := hperform
    exact ⟨journal', bind_of_ending_error hperform⟩
  | ok draft' =>
    have hperform : ∃ journal', perform .none (stage.step draft) ⟨s.device, stage.phase, journal⟩ =
        ending (.ok draft') ⟨d, stage.phase, journal'⟩ := by
      simp only [perform, Feedback.none, h, ending_ok]
      exact ⟨_, rfl⟩
    obtain ⟨journal', hperform⟩ := hperform
    obtain ⟨journal'', hnotes⟩ := forM_note (stage.remarks draft') ⟨d, stage.phase, journal'⟩
    rw [bind_of_ending_ok hperform]
    exact ⟨journal'', bind_of_ending_ok (a := ()) hnotes⟩

/-- A phase whose calls the quota covers comes to the same on the device with the quota. -/
theorem Stage.run_covered {r : Except DecodeError Draft} {made : List Call} {q : Quota}
    {t : LoadState} (h : Account (stage.step draft) s.device r made d)
    (ht : t.device = s.device.limited q) (hq : q.Covers made) :
    ∃ d' journal, stage.run .none draft t =
        ending (Stored.attributed stage.phase r) ⟨d', stage.phase, journal⟩ ∧
      ∀ a, r = .ok a → d' = d.limited (q.after made) := by
  obtain ⟨d', hrun, hnext⟩ := h.covered q hq
  rw [← ht] at hrun
  obtain ⟨journal, hstage⟩ := Stage.run_eq hrun
  exact ⟨d', journal, hstage, hnext⟩

/-- Any other phase stops at its first call beyond the quota. -/
theorem Stage.run_refused {r : Except DecodeError Draft} {made : List Call} {q : Quota}
    {t : LoadState} (h : Account (stage.step draft) s.device r made d)
    (ht : t.device = s.device.limited q) (hq : ¬ q.Covers made) :
    ∃ call, q.FirstBeyondIn (made.map (stage.phase, ·)) stage.phase call ∧
      ∃ (cause : DecodeError) (t' : LoadState),
        stage.run .none draft t = .error (cause.inPhase stage.phase) t' ∧
        t'.phase = stage.phase ∧ cause.Wraps call.refusal := by
  obtain ⟨call, hcall, cause, d', hrun, hcause⟩ := h.beyond q hq
  rw [← ht] at hrun
  obtain ⟨journal, hstage⟩ := Stage.run_eq (r := .error cause) hrun
  exact ⟨call, .of_calls hcall stage.phase, cause, ⟨d', stage.phase, journal⟩, hstage, rfl, hcause⟩

/-- Every phase of a load accounts for its calls. -/
theorem accountable_of_mem_stages {chunk : Int} (h : stage ∈ stages chunk) (draft : Draft) :
    Accountable (stage.step draft) := by
  simp only [stages, List.mem_cons, List.not_mem_nil, or_false] at h
  rcases h with rfl | rfl | rfl | rfl | rfl | rfl
  · exact Accountable.readIdent.map _
  · exact (Accountable.readHeader _).map _
  · exact (Accountable.readTable (Accountable.readLayout _ _ _) _ _).map _
  · exact (Accountable.readTable (Accountable.readLayout _ _ _) _ _).map _
  · exact (Accountable.mapM _ fun h _ => Accountable.readContent h chunk).map _
  · refine Accountable.map ?_ _
    cases sectionNames draft.header draft.headers draft.contents with
    | ok names => exact Accountable.pure names
    | error cause => exact Accountable.throw cause

/-- What phases come to on a device that answers every call, with the calls that they make, and what
    they come to on the same device with a quota. -/
structure RunAccount (stages : List Stage) (draft : Draft) (s : LoadState)
    (r : Except LoadFailure Draft) (trace : List (Phase × Call)) (s' : LoadState) : Prop where
  run : runStages .none stages draft s = ending r s'
  trace_eq : traceFrom stages draft s.device = trace
  calls : s'.device.calls = (trace.map Prod.snd).reverse ++ s.device.calls
  covered : ∀ (q : Quota) (t : LoadState), t.device = s.device.limited q → t.phase = s.phase →
    q.Covers (trace.map Prod.snd) →
    ∃ t', runStages .none stages draft t = ending r t' ∧ t'.phase = s'.phase
  beyond : ∀ (q : Quota) (t : LoadState), t.device = s.device.limited q →
    ¬ q.Covers (trace.map Prod.snd) →
    ∃ phase call, q.FirstBeyondIn trace phase call ∧
      ∃ (cause : DecodeError) (t' : LoadState),
        runStages .none stages draft t = .error (cause.inPhase phase) t' ∧
        t'.phase = phase ∧ cause.Wraps call.refusal

namespace RunAccount

variable {made : List Call} {r : Except LoadFailure Draft} {trace : List (Phase × Call)}
  {s' : LoadState}

/-- Without stages there are no calls. -/
theorem nil (draft : Draft) (s : LoadState) : RunAccount [] draft s (.ok draft) [] s where
  run := rfl
  trace_eq := rfl
  calls := rfl
  covered _ t _ hphase _ := ⟨t, rfl, hphase⟩
  beyond q _ _ hq := absurd (Quota.covers_nil q) hq

/-- A phase that fails is the last. -/
theorem cons_error {cause : DecodeError}
    (h : Account (stage.step draft) s.device (.error cause) made d) :
    ∃ s', RunAccount (stage :: rest) draft s (.error (cause.inPhase stage.phase))
      (made.map (stage.phase, ·)) s' := by
  obtain ⟨journal, hstage⟩ := Stage.run_eq h.run
  refine ⟨⟨d, stage.phase, journal⟩, ?_, ?_, ?_, fun q t ht _ hq => ?_, fun q t ht hq => ?_⟩
  -- the stages behind the one that fails are not run
  · rw [runStages_cons]
    exact bind_of_ending_error hstage
  · simp only [traceFrom, h.run, ending_error, Device.callsBetween_eq h.calls]
  · rw [map_snd_of_phase]
    exact h.calls
  · rw [map_snd_of_phase] at hq
    obtain ⟨d', journal', hstage', -⟩ := Stage.run_covered h ht hq
    refine ⟨⟨d', stage.phase, journal'⟩, ?_, rfl⟩
    rw [runStages_cons]
    exact bind_of_ending_error hstage'
  · rw [map_snd_of_phase] at hq
    obtain ⟨call, hcall, cause', t', hrun, hphase, hcause⟩ := Stage.run_refused h ht hq
    refine ⟨stage.phase, call, hcall, cause', t', ?_, hphase, hcause⟩
    rw [runStages_cons]
    exact bind_of_ending_error hrun

/-- A phase that succeeds is followed by the others. -/
theorem cons_ok {journal : List LogAction}
    (h : Account (stage.step draft) s.device (.ok draft') made d)
    (hstage : stage.run .none draft s = .ok draft' ⟨d, stage.phase, journal⟩)
    (hrest : RunAccount rest draft' ⟨d, stage.phase, journal⟩ r trace s') :
    RunAccount (stage :: rest) draft s r (made.map (stage.phase, ·) ++ trace) s' := by
  refine ⟨?_, ?_, ?_, fun q t ht _ hq => ?_, fun q t ht hq => ?_⟩
  · rw [runStages_cons]
    exact (bind_of_ending_ok hstage).trans hrest.run
  · simp only [traceFrom, h.run, ending_ok, Device.callsBetween_eq h.calls]
    rw [hrest.trace_eq]
  · rw [hrest.calls, List.map_append, map_snd_of_phase, List.reverse_append, List.append_assoc,
      h.calls]
  · rw [List.map_append, map_snd_of_phase] at hq
    obtain ⟨hmade, htrace⟩ := Quota.covers_append.mp hq
    obtain ⟨d', journal', hstage', hnext⟩ := Stage.run_covered h ht hmade
    obtain ⟨t', hrun', hphase⟩ := hrest.covered (q.after made) ⟨d', stage.phase, journal'⟩
      (hnext draft' rfl) rfl htrace
    refine ⟨t', ?_, hphase⟩
    rw [runStages_cons]
    exact (bind_of_ending_ok hstage').trans hrun'
  · rw [List.map_append, map_snd_of_phase] at hq
    rw [runStages_cons]
    by_cases hmade : q.Covers made
    · -- this phase goes through, and the refused call is one of a later phase
      have htrace : ¬ (q.after made).Covers (trace.map Prod.snd) :=
        fun htrace => hq (Quota.covers_append.mpr ⟨hmade, htrace⟩)
      obtain ⟨d', journal', hstage', hnext⟩ := Stage.run_covered h ht hmade
      obtain ⟨phase, call, hcall, cause, t', hrun', hphase, hcause⟩ :=
        hrest.beyond (q.after made) ⟨d', stage.phase, journal'⟩ (hnext draft' rfl) htrace
      refine ⟨phase, call, .append_left ?_ ?_, cause, t', ?_, hphase, hcause⟩
      · rwa [map_snd_of_phase]
      · rwa [map_snd_of_phase]
      · exact (bind_of_ending_ok hstage').trans hrun'
    · obtain ⟨call, hcall, cause, t', hrun, hphase, hcause⟩ := Stage.run_refused h ht hmade
      exact ⟨stage.phase, call, hcall.append_right trace, cause, t', bind_of_ending_error hrun,
        hphase, hcause⟩

/-- Phases that account for their calls do so together. -/
theorem exists_of_accountable {stages : List Stage}
    (hstages : ∀ stage ∈ stages, ∀ draft, Accountable (stage.step draft)) (draft : Draft)
    (s : LoadState) (hs : s.device.Unlimited) :
    ∃ r trace s', RunAccount stages draft s r trace s' := by
  induction stages generalizing draft s with
  | nil => exact ⟨.ok draft, [], s, nil draft s⟩
  | cons stage rest ih =>
    obtain ⟨r, made, d, haccount⟩ := hstages stage List.mem_cons_self draft s.device hs
    -- the calls of the later stages follow those of the first, unless it fails
    cases r with
    | error cause => exact ⟨_, _, cons_error haccount⟩
    | ok draft' =>
      obtain ⟨journal, hstage⟩ := Stage.run_eq haccount.run
      obtain ⟨r, trace, s', hrest⟩ :=
        ih (fun later hlater => hstages later (List.mem_cons_of_mem stage hlater)) draft'
          ⟨d, stage.phase, journal⟩ haccount.unlimited
      exact ⟨r, _, s', cons_ok haccount hstage hrest⟩

end RunAccount

/-! ### Loads -/

/-- The state in which the phases of a load begin. -/
def started (device : Device) : LoadState :=
  { device, journal := [.emit .debug "Started: ELF load"] }

/-- A load comes to what its phases come to.  What is left after them makes no call. -/
theorem run_of_stages {device : Device} {chunk : Int} {r : Except LoadFailure Draft} {s : LoadState}
    (h : runStages .none (stages chunk) {} (started device) = ending r s) :
    (run device chunk).outcome = r.map Draft.file ∧ (run device chunk).device = s.device ∧
      (run device chunk).phase = if r.isOk then .ready else s.phase := by
  have hstart : note (.emit .debug "Started: ELF load") { device } =
    ending (.ok ()) (started device) := rfl
  rw [run, pipeline_eq, bind_of_ending_ok hstart]
  cases r with
  | ok draft =>
    rw [bind_of_ending_ok h]
    exact ⟨rfl, rfl, rfl⟩
  | error failure =>
    rw [bind_of_ending_error h]
    exact ⟨rfl, rfl, rfl⟩

/-- The phases of a load from memory account for the calls of its trace. -/
theorem exists_runAccount (content : Bytes) (chunk : Int) :
    ∃ r s',
      RunAccount (stages chunk) {} (started (.ofBytes content)) r (trace content chunk) s' := by
  obtain ⟨r, made, s', haccount⟩ := RunAccount.exists_of_accountable
    (fun _ hstage => accountable_of_mem_stages hstage) {}
    (started (.ofBytes content)) (Device.unlimited_ofBytes content)
  have htrace : trace content chunk = made := haccount.trace_eq
  exact ⟨r, s', htrace ▸ haccount⟩

/-- The trace of a load is what the device records of it. -/
theorem calls_run (content : Bytes) (chunk : Int) :
    (run (.ofBytes content) chunk).device.calls =
      ((trace content chunk).map Prod.snd).reverse := by
  obtain ⟨r, s', haccount⟩ := exists_runAccount content chunk
  obtain ⟨-, hdevice, -⟩ := run_of_stages haccount.run
  rw [hdevice, haccount.calls]
  exact List.append_nil _

/-- A quota covers a load if it covers the numbers of its reads and seeks. -/
theorem covers_trace_iff (content : Bytes) (chunk : Int) (reads seeks : Option Nat) :
    Quota.Covers ⟨reads, seeks⟩ ((trace content chunk).map Prod.snd) ↔
      (∀ r, reads = some r → (run (.ofBytes content) chunk).device.readCount ≤ r) ∧
        ∀ s, seeks = some s → (run (.ofBytes content) chunk).device.seekCount ≤ s := by
  rw [Device.readCount_eq, Device.seekCount_eq, calls_run, Call.readCount_reverse,
    Call.seekCount_reverse]
  rfl

/-- **Refused calls.**  A load from a device that answers a bounded number of reads and of seeks is
    the load from a device that answers every call, if this makes no more calls of each kind.
    Otherwise it stops at the first call beyond these bounds, in the phase in which that call is
    made, with a cause that wraps the refusal. -/
theorem run_failing (content : Bytes) (chunk : Int) (reads seeks : Option Nat) :
    let plain := run (.ofBytes content) chunk
    let failing := run (.failing content reads seeks) chunk
    let answered := (∀ r, reads = some r → plain.device.readCount ≤ r) ∧
      ∀ s, seeks = some s → plain.device.seekCount ≤ s
    (trace content chunk).map Prod.snd = plain.device.calls.reverse ∧
      (answered → failing.outcome = plain.outcome ∧ failing.phase = plain.phase) ∧
      (¬ answered → ∃ phase call cause,
        Quota.FirstBeyondIn ⟨reads, seeks⟩ (trace content chunk) phase call ∧
          failing.outcome = .error ⟨cause, some phase⟩ ∧ failing.phase = phase ∧
          cause.Wraps call.refusal ∧ cause.isTruncated = false ∧
          ∃ head, cause.message = head ++ call.refusal.message) := by
  obtain ⟨r, s', haccount⟩ := exists_runAccount content chunk
  obtain ⟨houtcome, -, hphase⟩ := run_of_stages haccount.run
  have hcovers := covers_trace_iff content chunk reads seeks
  have hlimited := Device.failing_eq content reads seeks
  intro plain failing answered
  refine ⟨?_, fun hanswered => ?_, fun hrefused => ?_⟩
  · rw [calls_run, List.reverse_reverse]
  · -- the phases come to the same, and so does what is left after them
    obtain ⟨t', hrun, hsame⟩ := haccount.covered ⟨reads, seeks⟩
      (started (.failing content reads seeks)) hlimited rfl (hcovers.mpr hanswered)
    obtain ⟨houtcome', -, hphase'⟩ := run_of_stages hrun
    exact ⟨houtcome'.trans houtcome.symm, by rw [hphase', hphase, hsame]⟩
  · obtain ⟨phase, call, hcall, cause, t', hrun, hstop, hcause⟩ :=
      haccount.beyond ⟨reads, seeks⟩ (started (.failing content reads seeks)) hlimited
        fun hq => hrefused (hcovers.mp hq)
    obtain ⟨houtcome', -, hphase'⟩ := run_of_stages (r := .error (cause.inPhase phase)) hrun
    refine ⟨phase, call, cause, hcall, ?_, hphase'.trans hstop, hcause, hcause.isTruncated,
      hcause.message_eq⟩
    -- a refusal is a failure of the input, and so carries the phase
    rw [houtcome', DecodeError.inPhase, if_pos hcause.isInputFault]
    rfl

/-- An image whose load takes seventy reads and five seeks: with as many it is loaded, and without
    the last read its load fails in the contents. -/
theorem run_failing_mixedImage :
    (run (.failing mixedImage (some 70) (some 5)) 3).outcome = ofBytes mixedImage 3 ∧
      ∃ cause : DecodeError, cause.Wraps .readRefused ∧
        (run (.failing mixedImage (some 69) none) 3).outcome =
          .error ⟨cause, some .loadSectionContent⟩ := by
  have hreads : (run (.ofBytes mixedImage) 3).device.readCount = 70 := by decide +kernel
  have hseeks : (run (.ofBytes mixedImage) 3).device.seekCount = 5 := by decide +kernel
  have hstop : (run (.failing mixedImage (some 69) none) 3).phase = .loadSectionContent := by
    decide +kernel
  have hplenty := (run_failing mixedImage 3 (some 70) (some 5)).2.1
  have hshort := (run_failing mixedImage 3 (some 69) none).2.2
  simp only [hreads, hseeks, Option.some.injEq, forall_eq'] at hplenty hshort
  obtain ⟨houtcome, -⟩ := hplenty (by decide)
  obtain ⟨phase, call, cause, hcall, hfail, hphase, hcause, -, -⟩ := hshort (by decide)
  refine ⟨houtcome, cause, ?_, by rw [hfail, ← hphase, hstop]⟩
  cases call with
  | read size => exact hcause
  | seek offset =>
    -- no seek is beyond the quota
    obtain ⟨before, rest, -, hbefore, hbeyond⟩ := hcall
    exact absurd (Quota.covers_append.mpr ⟨hbefore, Quota.covers_seek_iff.mpr nofun⟩) hbeyond

end Load

end ElfInspect
