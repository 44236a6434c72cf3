import ElfInspect.Proofs.Load.InputFaults
import ElfInspect.Proofs.Load.Refusal

namespace ElfInspect

/-!
# Loads of files that stay as they are

A load whose log goes elsewhere does not notice what the log does.  And as long as the chunks are of
a size that there is room for, a load fails in one of its phases and nowhere else.

* `KeepsContent m` — a decoder that succeeds leaves the content of the device as it was;
  `Load.keepsContent_of_mem_stages` for the phases of a load;
* `Load.run_of_feedback` — a feedback that has nothing to do with the content makes no difference;
* `FailsInPhase medium m good` — on any device of a medium, `m` comes to a value with the property
  `good` or fails in a phase;
* `Load.exists_phase_of_error` — every failure of a load with room for its chunks has a phase.
-/

variable {α β : Type} {content : Bytes} {medium : Medium}

/-! ### Contents -/

/-- A decoder that succeeds leaves the content of the device as it was. -/
def KeepsContent (m : Decode α) : Prop :=
  ∀ content, Ends (fun d : Device => d.content = content) m (fun _ d => d.content = content)
    fun _ _ => True

namespace KeepsContent

variable {m : Decode α} {f : α → Decode β}

theorem pure (a : α) : KeepsContent (Pure.pure a) :=
  fun _ => Ends.pure fun _ hd => hd

theorem throw (e : DecodeError) : KeepsContent (α := α) (MonadExcept.throw e) :=
  fun _ => Ends.throw fun _ _ => trivial

/-- Decoders one after another. -/
theorem bind (hm : KeepsContent m) (hf : ∀ a, KeepsContent (f a)) : KeepsContent (m >>= f) :=
  fun content => Ends.bind (hm content) fun a => hf a content

theorem map (hm : KeepsContent m) (g : α → β) : KeepsContent (g <$> m) := by
  rw [map_eq_pure_bind]
  exact hm.bind fun a => pure (g a)

/-- A loop over a list. -/
theorem mapM {f : β → Decode α} (items : List β) (h : ∀ x ∈ items, KeepsContent (f x)) :
    KeepsContent (items.mapM f) :=
  fun content => Ends.mapM items fun x hx => h x hx content

/-- Records one after another. -/
theorem repeatDecodeFrom (hm : KeepsContent m) (count : Nat) (done : Array α) :
    KeepsContent (ElfInspect.repeatDecodeFrom m count done) :=
  fun content => (hm content).repeatDecodeFrom count done

/-- A read moves the device and uses up its pace and quota, no more. -/
theorem request (onFault : Fault → DecodeError) (size : Nat) :
    KeepsContent (ElfInspect.request onFault size) := by
  intro content d hd
  have hsame := (d.content_read size).trans hd
  unfold ElfInspect.request reporting
  cases reported onFault (d.read size).1 with
  | ok bytes => exact hsame
  | error cause => trivial

/-- A loop of reads is made of single ones. -/
theorem accumulate (most : Option Nat) (onFault : Fault → DecodeError) (wanted : Nat)
    (buffer : Bytes) : KeepsContent (ElfInspect.accumulate most onFault wanted buffer) :=
  accumulate_rec (fun buffer _ => pure buffer) (fun _ => throw _)
    (fun _ _ _ hf => bind (request onFault _) hf) buffer

/-- A seek moves the device. -/
theorem seekTo (offset : Int) : KeepsContent (ElfInspect.seekTo offset) := by
  intro content d hd
  have hsame := (d.content_seek offset).trans hd
  unfold ElfInspect.seekTo
  rcases hseek : d.seek offset with ⟨fault | u, d'⟩
  · trivial
  · rw [hseek] at hsame
    exact hsame

/-- A record is read field by field. -/
theorem readLayout (layout : Layout α) (order : ByteOrder) (start : α) :
    KeepsContent (layout.read order start) := by
  induction layout generalizing start with
  | nil => exact pure start
  | cons slot rest ih =>
    have hvalue : KeepsContent (readUint order slot.width) :=
      bind (accumulate _ _ _ _) fun bytes => pure (decodeUint order bytes.toList)
    exact bind hvalue fun value => ih (slot.set value start)

/-- A table is read record by record. -/
theorem readTable {step : Decode α} (hstep : KeepsContent step) (offset : Int) (count : Nat) :
    KeepsContent (ElfInspect.readTable offset count step) :=
  bind (seekTo offset) fun _ => bind (repeatDecodeFrom hstep count #[]) fun _ => pure _

/-- The identification is read and checked. -/
theorem readIdent : KeepsContent ElfInspect.readIdent := by
  refine bind (accumulate _ _ _ _) fun ident => ?_
  cases checkIdent ident with
  | ok u => exact pure ident
  | error cause => exact throw cause

/-- The file header is read behind it. -/
theorem readHeader (ident : Bytes) : KeepsContent (FileHeader.read ident) := by
  have hrequire (index : Nat) : KeepsContent (FileHeader.requireIdent ident index) := by
    unfold FileHeader.requireIdent
    split
    · exact pure ()
    · exact throw _
  exact bind (hrequire _) fun _ => bind (readLayout _ _ _) fun header =>
    bind (hrequire _) fun _ => pure header

/-- The content of a section is read in chunks. -/
theorem readContent (h : SectionHeader) (chunk : Int) : KeepsContent (h.readContent chunk) := by
  unfold SectionHeader.readContent ElfInspect.readContent
  split
  · exact pure _
  · split
    · exact throw _
    · exact bind (seekTo _) fun _ => accumulate _ _ _ _

end KeepsContent

/-! ### Feedback -/

namespace Load

variable {stage : Stage} {feedback : Feedback}

/-- Every phase of a load leaves the content as it was. -/
theorem keepsContent_of_mem_stages {chunk : Int} (h : stage ∈ stages chunk) (draft : Draft) :
    KeepsContent (stage.step draft) := by
  simp only [stages, List.mem_cons, List.not_mem_nil, or_false] at h
  rcases h with rfl | rfl | rfl | rfl | rfl | rfl
  · exact KeepsContent.readIdent.map _
  · exact (KeepsContent.readHeader _).map _
  · exact (KeepsContent.readTable (KeepsContent.readLayout _ _ _) _ _).map _
  · exact (KeepsContent.readTable (KeepsContent.readLayout _ _ _) _ _).map _
  · exact (KeepsContent.mapM _ fun h _ => KeepsContent.readContent h chunk).map _
  · refine KeepsContent.map ?_ _
    cases sectionNames draft.header draft.headers draft.contents with
    | ok names => exact KeepsContent.pure names
    | error cause => exact KeepsContent.throw cause

/-- A feedback that leaves the device alone as long as it holds some content. -/
def Feedback.Spares (content : Bytes) (feedback : Feedback) : Prop :=
  ∀ journal (d : Device), d.content = content → feedback journal d = d

/-- A stage whose device has the content is run as without feedback. -/
theorem Stage.run_of_feedback (hfeedback : feedback.Spares content) (draft : Draft)
    {s : LoadState} (hs : s.device.content = content) :
    stage.run feedback draft s = stage.run .none draft s := by
  have henter : ∃ journal, enter stage.phase s = ending (.ok ()) ⟨s.device, stage.phase, journal⟩ :=
    ⟨_, rfl⟩
  obtain ⟨journal, henter⟩ := henter
  have hperform : perform feedback (stage.step draft) ⟨s.device, stage.phase, journal⟩ =
      perform .none (stage.step draft) ⟨s.device, stage.phase, journal⟩ := by
    simp only [perform, Feedback.none, hfeedback journal s.device hs]
  rw [Stage.run, Stage.run, bind_of_ending_ok henter, bind_of_ending_ok henter]
  show EStateM.bind _ _ _ = EStateM.bind _ _ _
  simp only [EStateM.bind, hperform]

/-- Phases that leave the content as it was do not notice the feedback. -/
theorem runStages_of_feedback {stages : List Stage}
    (hstages : ∀ stage ∈ stages, ∀ draft, KeepsContent (stage.step draft))
    (hfeedback : feedback.Spares content) (draft : Draft) {s : LoadState}
    (hs : s.device.content = content) :
    runStages feedback stages draft s = runStages .none stages draft s := by
  induction stages generalizing draft s with
  | nil => rfl
  | cons stage rest ih =>
    -- the content is still the same after the phase, so that the rest does not notice either
    have hkeeps := hstages stage List.mem_cons_self draft content s.device hs
    rw [runStages_cons, runStages_cons]
    show EStateM.bind _ _ _ = EStateM.bind _ _ _
    simp only [EStateM.bind, Stage.run_of_feedback hfeedback draft hs]
    cases hstep : stage.step draft s.device with
    | error cause d =>
      obtain ⟨journal, hrun⟩ := Stage.run_eq (r := .error cause) hstep
      rw [hrun]
      rfl
    | ok draft' d =>
      obtain ⟨journal, hrun⟩ := Stage.run_eq (r := .ok draft') hstep
      rw [hstep] at hkeeps
      rw [hrun]
      exact ih (fun later hlater => hstages later (List.mem_cons_of_mem stage hlater)) draft' hkeeps

/-- **Feedback.**  A load does not notice a feedback that leaves the content alone. -/
theorem run_of_feedback {device : Device} (hfeedback : feedback.Spares device.content)
    (chunk : Int) : run device chunk feedback = run device chunk := by
  have hstart : note (.emit .debug "Started: ELF load") { device } =
    ending (.ok ()) (started device) := rfl
  have hkeeps : ∀ stage ∈ stages chunk, ∀ draft, KeepsContent (stage.step draft) :=
    fun _ hstage => keepsContent_of_mem_stages hstage
  have hstages := runStages_of_feedback hkeeps hfeedback {} (s := started device) rfl
  rw [run, run, pipeline_eq, pipeline_eq, bind_of_ending_ok hstart, bind_of_ending_ok hstart]
  show Run.ofResult (EStateM.bind _ _ _) = Run.ofResult (EStateM.bind _ _ _)
  simp only [EStateM.bind, hstages]

end Load

/-! ### Failures -/

/-- On any device of the medium, the step either ends with a value that has the property, and leaves
    a device of the medium behind, or fails in a phase. -/
def FailsInPhase (medium : Medium) (m : Loading α) (good : α → Prop) : Prop :=
  Ends (fun s : LoadState => s.device.medium = medium) m
    (fun a s => s.device.medium = medium ∧ good a) fun failure _ => failure.phase ≠ none

namespace FailsInPhase

variable {m : Loading α} {good : α → Prop}

theorem pure {a : α} (h : good a) : FailsInPhase medium (Pure.pure a) good :=
  fun _ hs => ⟨hs, h⟩

/-- Either part may be the one that fails. -/
theorem bind {f : α → Loading β} {better : β → Prop} (hm : FailsInPhase medium m good)
    (hf : ∀ a, good a → FailsInPhase medium (f a) better) :
    FailsInPhase medium (m >>= f) better :=
  Ends.bind hm fun a s hs => hf a hs.2 s hs.1

theorem note (action : LogAction) : FailsInPhase medium (Load.note action) fun _ => True :=
  fun _ hs => ⟨hs, trivial⟩

theorem enter (phase : Phase) : FailsInPhase medium (Load.enter phase) fun _ => True :=
  fun _ hs => ⟨hs, trivial⟩

/-- A decoder that fails by its input only fails in the phase that is under way. -/
theorem perform {step : Decode α} (h : FailsByInput medium step good) :
    FailsInPhase medium (Load.perform .none step) good := by
  intro s hs
  have hstep := h s.device hs
  unfold Load.perform Load.Feedback.none
  cases hrun : step s.device with
  | ok a d =>
    rw [hrun] at hstep
    exact hstep
  | error cause d =>
    rw [hrun] at hstep
    -- a fault of the input is attributed to the phase, and only that
    show (cause.inPhase s.phase).phase ≠ none
    rw [DecodeError.inPhase, if_pos hstep]
    exact Option.some_ne_none _

/-- A phase with what follows it. -/
theorem inPhase {step : Decode α} (phase : Phase) (h : FailsByInput medium step good)
    {rest : α → Loading β} {better : β → Prop}
    (hrest : ∀ a, good a → FailsInPhase medium (rest a) better) :
    FailsInPhase medium (do Load.enter phase; let a ← Load.perform .none step; rest a) better :=
  bind (enter phase) fun _ _ => bind (perform h) hrest

/-- All phases, one after another. -/
theorem pipeline {chunk : Int} (hpos : 1 ≤ chunk) (hgrants : medium.Grants chunk.toNat) :
    FailsInPhase medium (Load.pipeline chunk) fun _ => True := by
  unfold Load.pipeline
  -- only the contents are read in chunks; all other reads are of fixed sizes
  refine bind (note _) fun _ _ => inPhase .validateIdent .readIdent fun ident hident => ?_
  refine inPhase .decodeHeader (.readHeader hident) fun header _ => bind (note _) fun _ _ => ?_
  refine inPhase .decodeSegments (.readTable (.readLayout ?_ _ _) _ _) fun segments _ => ?_
  · exact Stored.programHeader_width_lt _
  refine inPhase .decodeSectionHeaders (.readTable (.readLayout ?_ _ _) _ _) fun headers _ => ?_
  · exact Stored.sectionHeader_width_lt _
  refine inPhase .loadSectionContent (.mapM headers fun h _ => .readContent h hpos hgrants)
    fun contents _ => ?_
  refine inPhase .resolveSectionNames (.sectionNames _ _ _) fun names _ => ?_
  exact bind (enter .ready) fun _ _ => bind (note _) fun _ _ => bind (note _) fun _ _ =>
    pure trivial

end FailsInPhase

/-- **Failures and phases.**  If the device has room for all that a chunk can hold, a load fails in
    one of its phases and nowhere else. -/
theorem Load.exists_phase_of_error (device : Device) {chunk : Int} (hpos : 1 ≤ chunk)
    (hgrants : device.medium.Grants chunk.toNat) {failure : LoadFailure}
    (h : (run device chunk).outcome = .error failure) : ∃ phase, failure.phase = some phase := by
  have hend := FailsInPhase.pipeline hpos hgrants { device } rfl
  rw [run] at h
  cases hrun : pipeline chunk .none { device } with
  | ok file s =>
    rw [hrun] at h
    cases h
  | error failure' s =>
    rw [hrun] at h hend
    cases h
    exact Option.ne_none_iff_exists'.mp hend

end ElfInspect
