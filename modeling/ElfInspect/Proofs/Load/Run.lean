import ElfInspect.Load
import ElfInspect.Proofs.Offsets
import ElfInspect.Proofs.Tables

namespace ElfInspect

/-!
# Loads as chains of phases

A load is a chain of decoders with notes in between.  On a device that delivers, each decoder comes
to a function of the content, and so does the chain.

* `Stored.load content medium` — what loading the content comes to, without any device;
* `Load.outcome_run` — a load from any device that delivers comes to just that, whatever the pace of
  the device and the size of the chunks;
* `Load.phase_run_of_ok`, `Load.phase_run_of_error` — a load that succeeds reaches the last phase,
  and one that fails stops in the phase that its failure is attributed to.
-/

variable {α β : Type} {content : Bytes} {medium : Medium}

/-! ### The chain without a device -/

namespace Stored

/-- A result with its cause of failure attributed to a phase. -/
def attributed (phase : Phase) (result : Except DecodeError α) : Except LoadFailure α :=
  result.mapError fun cause => cause.inPhase phase

/-- The identification bytes, or why they are refused. -/
def ident (content : Bytes) : Except DecodeError Bytes := do
  let ident ← delivered content 0 Abi.identSize
  let () ← checkIdent ident
  return ident

/-- The file header after given identification bytes. -/
def header (content ident : Bytes) : Except DecodeError FileHeader :=
  let start := FileHeader.ofIdent ident
  record content (FileHeader.layout start.encoding) start.encoding.order start Abi.identSize

/-- What loading the content comes to where reading the bytes of a section comes to `data`. -/
def loadWith (data : SectionHeader → Except DecodeError Bytes) (content : Bytes)
    (medium : Medium) : Except LoadFailure ElfFile := do
  let ident ← attributed .validateIdent (ident content)
  let header ← attributed .decodeHeader (header content ident)
  let e := header.encoding
  let segments ← attributed .decodeSegments
    (table content medium (ProgramHeader.layout e) e.order {} header.phoff header.phnum)
  let headers ← attributed .decodeSectionHeaders
    (table content medium (SectionHeader.layout e) e.order {} header.shoff header.shnum)
  let contents ← attributed .loadSectionContent (headers.mapM data)
  let names ← attributed .resolveSectionNames (Load.sectionNames header headers contents)
  return { header, segments, sections := Load.assemble names headers contents }

/-- What loading the content comes to. -/
def load (content : Bytes) (medium : Medium) : Except LoadFailure ElfFile :=
  loadWith (sectionData content medium) content medium

/-- Identification bytes that are accepted are the first bytes of the content. -/
theorem size_of_ident {ident : Bytes} (h : Stored.ident content = .ok ident) :
    Abi.identSize ≤ content.size ∧ ident = content.extract 0 Abi.identSize := by
  rw [Stored.ident, delivered] at h
  split at h
  · rename_i hsize
    rw [Nat.zero_add] at h
    -- whatever the check finds, the bytes are those from the beginning
    cases hcheck : checkIdent (content.extract 0 Abi.identSize) with
    | ok u =>
      simp only [Bind.bind, Except.bind, hcheck] at h
      cases h
      exact ⟨hsize, rfl⟩
    | error e =>
      simp only [Bind.bind, Except.bind, hcheck] at h
      cases h
  · cases h

end Stored

/-! ### The steps of a load -/

/-- With enough identification bytes at hand, the header is just its fields. -/
theorem FileHeader.read_of_lt {ident : Bytes} (h : Abi.abiVersionIndex < ident.size) :
    FileHeader.read ident =
      (layout (ofIdent ident).encoding).read (ofIdent ident).encoding.order (ofIdent ident) := by
  have hdata : Abi.dataIndex < ident.size := Nat.lt_trans (by decide) h
  simp only [read, requireIdent, if_pos h, if_pos hdata, pure_bind, bind_pure]

namespace Yields

/-- The identification is read from the beginning. -/
theorem readIdent :
    Yields (Device.Serves content medium 0) ElfInspect.readIdent (Stored.ident content)
      (Device.Serves content medium (0 + min Abi.identSize (content.size - 0))) := by
  refine bind (readExact (by decide)) (fun ident _ => ?_) (fun _ _ _ hd => hd)
  cases hcheck : checkIdent ident with
  | ok u => exact pure ident
  | error e => exact throw e

/-- The file header is read behind the identification, which names its encoding. -/
theorem readHeader {ident : Bytes} (h : Abi.abiVersionIndex < ident.size) :
    Yields (Device.Serves content medium Abi.identSize) (FileHeader.read ident)
      (Stored.header content ident) (Device.Holds content medium) := by
  rw [FileHeader.read_of_lt h]
  exact (readLayout _ (Stored.fileHeader_width_lt _)).weaken fun d hd => ⟨_, hd⟩

/-- The program headers are read from where the file header says. -/
theorem readSegments (e : Encoding) (offset count : Nat) :
    Yields (Device.Holds content medium) (ElfInspect.readTable offset count (ProgramHeader.read e))
      (Stored.table content medium (ProgramHeader.layout e) e.order {} offset count)
      (Device.Holds content medium) :=
  readTable ({} : ProgramHeader) offset count (Stored.programHeader_width_lt e)

/-- The section headers are read from where the file header says. -/
theorem readSectionHeaders (e : Encoding) (offset count : Nat) :
    Yields (Device.Holds content medium) (ElfInspect.readTable offset count (SectionHeader.read e))
      (Stored.table content medium (SectionHeader.layout e) e.order {} offset count)
      (Device.Holds content medium) :=
  readTable ({} : SectionHeader) offset count (Stored.sectionHeader_width_lt e)

/-- What is known without the device leaves it alone. -/
theorem ofExcept {P : Device → Prop} (result : Except DecodeError α) :
    Yields P (Load.ofExcept result) result P := by
  cases result with
  | ok a => exact pure a
  | error e => exact throw e

/-! ### Notes and phases -/

/-- What is logged leaves the device alone. -/
theorem note {P : Device → Prop} (action : LogAction) :
    Yields (fun s => P s.device) (Load.note action) (.ok ()) (fun s => P s.device) :=
  fun _ hs => ⟨_, rfl, hs⟩

/-- So does the beginning of a phase. -/
theorem enter {P : Device → Prop} (phase : Phase) :
    Yields (fun s => P s.device) (Load.enter phase) (.ok ())
      (fun s => P s.device ∧ s.phase = phase) :=
  fun _ hs => ⟨_, rfl, hs, rfl⟩

/-- A step attributes its cause to the phase that it is performed in. -/
theorem perform {P Q : Device → Prop} {step : Decode α} {result : Except DecodeError α}
    (phase : Phase) (h : Yields P step result Q) :
    Yields (fun s => P s.device ∧ s.phase = phase) (Load.perform .none step)
      (Stored.attributed phase result) (fun s => Q s.device) := by
  rintro s ⟨hs, rfl⟩
  obtain ⟨d, hrun, hd⟩ := h s.device hs
  -- the journal tells of the failure, if there is one, before the scope is closed
  cases result with
  | ok a =>
    refine ⟨{ s with device := d
                     journal := .closeScope :: .openScope s.phase.name :: s.journal }, ?_, hd⟩
    simp only [Load.perform, Load.Feedback.none, hrun, ending_ok, Stored.attributed,
      Except.mapError]
  | error e =>
    refine ⟨{ s with device := d
                     journal := .closeScope :: Load.failureNotes s.phase e ++
                       .openScope s.phase.name :: s.journal }, ?_, hd⟩
    simp only [Load.perform, Load.Feedback.none, hrun, ending_error, Stored.attributed,
      Except.mapError]

/-- A phase: it is entered, and its decoder runs under it. -/
theorem inPhase {P Q : Device → Prop} {R : LoadState → Prop} {step : Decode α}
    {result : Except DecodeError α} (phase : Phase) (h : Yields P step result Q)
    {rest : α → Loading β} {g : α → Except LoadFailure β}
    (hrest : ∀ a, result = .ok a → Yields (fun s => Q s.device) (rest a) (g a) R)
    (hR : ∀ s, R s) :
    Yields (fun s => P s.device)
      (do Load.enter phase; let a ← Load.perform .none step; rest a)
      (Stored.attributed phase result >>= g) R := by
  refine bind_ok (enter phase) (bind (perform phase h) (fun a ha => hrest a ?_) fun _ _ s _ => hR s)
  cases result with
  | ok b => exact congrArg Except.ok (Except.ok.inj ha)
  | error e => cases ha

/-- **The phases of a load**, from a device that delivers. -/
theorem pipelineWith {chunk : Int} {data : SectionHeader → Except DecodeError Bytes}
    (hdata : ∀ h : SectionHeader, Yields (Device.Holds content medium) (h.readContent chunk)
      (data h) (Device.Holds content medium)) :
    Yields (fun s => Device.Serves content medium 0 s.device) (Load.pipeline chunk)
      (Stored.loadWith data content medium) (fun _ => True) := by
  rw [Load.pipeline, Stored.loadWith]
  refine bind_ok (note _) ?_
  refine inPhase .validateIdent readIdent (fun ident hident => ?_) fun _ => trivial
  -- the header is read from just behind the identification bytes, which are all there
  obtain ⟨hsize, rfl⟩ := Stored.size_of_ident hident
  have hlength : (content.extract 0 Abi.identSize).size = Abi.identSize := by
    rw [Array.size_extract]
    omega
  rw [Nat.sub_zero, Nat.min_eq_left hsize, Nat.zero_add]
  refine inPhase .decodeHeader (readHeader (by rw [hlength]; decide)) (fun header _ => ?_)
    fun _ => trivial
  refine bind_ok (note _) ?_
  refine inPhase .decodeSegments (readSegments _ _ _) (fun segments _ => ?_) fun _ => trivial
  refine inPhase .decodeSectionHeaders (readSectionHeaders _ _ _) (fun headers _ => ?_)
    fun _ => trivial
  refine inPhase .loadSectionContent (mapM headers fun h _ => hdata h) (fun contents _ => ?_)
    fun _ => trivial
  refine inPhase .resolveSectionNames (ofExcept _) (fun names _ => ?_) fun _ => trivial
  have hready := (enter (P := Device.Holds content medium) .ready).weaken
    (R := fun s => Device.Holds content medium s.device) fun _ hs => hs.1
  -- only notes are left
  refine weaken (Q := fun s => Device.Holds content medium s.device) ?_ fun _ _ => trivial
  exact bind_ok hready (bind_ok (a := ()) (note _) (bind_ok (a := ()) (note _) (pure _)))

/-- The device answers every request that the chunk size allows. -/
theorem pipeline {chunk : Int} (hchunk : 1 ≤ chunk) (hgrants : medium.Grants chunk.toNat) :
    Yields (fun s => Device.Serves content medium 0 s.device) (Load.pipeline chunk)
      (Stored.load content medium) (fun _ => True) :=
  pipelineWith fun h => readContent h hchunk hgrants

end Yields

/-- **Loads without a device.**  A load from a device that delivers has the outcome that the content
    determines. -/
theorem Load.outcome_run {d : Device} (hd : d.Serves content medium 0) {chunk : Int}
    (hchunk : 1 ≤ chunk) (hgrants : medium.Grants chunk.toNat) :
    (Load.run d chunk).outcome = Stored.load content medium := by
  obtain ⟨s, hrun, -⟩ := Yields.pipeline hchunk hgrants { device := d } hd
  rw [Load.run, hrun]
  cases Stored.load content medium <;> rfl

/-- A load from memory, in chunks of any size. -/
theorem Load.ofBytes_eq {chunk : Int} (hpos : 1 ≤ chunk) (hlt : chunk < wordLimit) :
    Load.ofBytes content chunk = Stored.load content .memory :=
  Load.outcome_run (Device.ofBytes_serves content) hpos (Medium.memory_grants (by omega))

/-! ### The phase that a load stops in -/

/-- Whatever the device does, the computation either ends in a state with the property `after`, or
    its failure is attributed to the phase in which it stops. -/
def Attributes (before : LoadState → Prop) (m : Loading α) (after : LoadState → Prop) : Prop :=
  ∀ s, before s →
    match m s with
    | .ok _ s' => after s'
    | .error failure s' => ∃ cause : DecodeError, failure = cause.inPhase s'.phase

namespace Attributes

variable {P Q R : LoadState → Prop} {m : Loading α}

/-- What cannot fail attributes nothing. -/
theorem pure (a : α) : Attributes P (Pure.pure a) P :=
  fun _ hs => hs

/-- Either part may be the one that fails. -/
theorem bind {f : α → Loading β} (hm : Attributes P m Q) (hf : ∀ a, Attributes Q (f a) R) :
    Attributes P (m >>= f) R := by
  intro s hs
  show match EStateM.bind m f s with
    | .ok _ s' => R s'
    | .error failure s' => ∃ cause : DecodeError, failure = cause.inPhase s'.phase
  have hstep := hm s hs
  unfold EStateM.bind
  cases hrun : m s with
  | ok a s' =>
    rw [hrun] at hstep
    exact hf a s' hstep
  | error failure s' =>
    rw [hrun] at hstep
    exact hstep

theorem note (action : LogAction) (phase : Phase) :
    Attributes (fun s => s.phase = phase) (Load.note action) (fun s => s.phase = phase) :=
  fun _ hs => hs

/-- What is logged cannot fail, in whatever phase. -/
theorem start (action : LogAction) : Attributes P (Load.note action) (fun _ => True) :=
  fun _ _ => trivial

theorem enter (phase : Phase) : Attributes P (Load.enter phase) (fun s => s.phase = phase) :=
  fun _ _ => rfl

theorem perform (feedback : Load.Feedback) (step : Decode α) :
    Attributes P (Load.perform feedback step) (fun _ => True) := by
  intro s _
  unfold Load.perform
  cases step (feedback s.journal s.device) with
  | ok a d => trivial
  | error cause d => exact ⟨cause, rfl⟩

/-- The last phase is reached unless the load fails before it. -/
theorem pipeline (chunk : Int) (feedback : Load.Feedback) :
    Attributes (fun _ => True) (Load.pipeline chunk feedback) (fun s => s.phase = .ready) := by
  unfold Load.pipeline
  -- one line for each phase, and what it left behind is forgotten when the next is entered
  refine bind (start _) fun _ => ?_
  refine bind (enter _) fun _ => bind (perform _ _) fun ident => ?_
  refine bind (enter _) fun _ => bind (perform _ _) fun header => ?_
  refine bind (start _) fun _ => ?_
  refine bind (enter _) fun _ => bind (perform _ _) fun segments => ?_
  refine bind (enter _) fun _ => bind (perform _ _) fun headers => ?_
  refine bind (enter _) fun _ => bind (perform _ _) fun contents => ?_
  refine bind (enter _) fun _ => bind (perform _ _) fun names => ?_
  refine bind (enter .ready) fun _ => ?_
  exact bind (note _ _) fun _ => bind (note _ _) fun _ => pure _

end Attributes

namespace Load

variable (device : Device) (chunk : Int) (feedback : Feedback)

/-- A load that succeeds has reached the last phase. -/
theorem phase_run_of_ok {file : ElfFile} (h : (run device chunk feedback).outcome = .ok file) :
    (run device chunk feedback).phase = .ready := by
  have hphase := Attributes.pipeline chunk feedback { device } trivial
  unfold run at h ⊢
  cases hrun : pipeline chunk feedback { device } with
  | ok file' s =>
    rw [hrun] at hphase
    exact hphase
  | error failure s =>
    rw [hrun] at h
    cases h

/-- A failure is attributed to the phase that the load has reached. -/
theorem phase_run_of_error {failure : LoadFailure}
    (h : (run device chunk feedback).outcome = .error failure) :
    ∃ cause : DecodeError, failure = cause.inPhase (run device chunk feedback).phase := by
  have hphase := Attributes.pipeline chunk feedback { device } trivial
  unfold run at h ⊢
  cases hrun : pipeline chunk feedback { device } with
  | ok file s =>
    rw [hrun] at h
    cases h
  | error failure' s =>
    rw [hrun] at hphase h
    rw [← Except.error.inj h]
    exact hphase

end Load

end ElfInspect
