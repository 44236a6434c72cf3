import ElfInspect.Proofs.Load.InputFaults
import ElfInspect.Proofs.Load.Outcome
import ElfInspect.Proofs.Log.Records

namespace ElfInspect

/-!
# What a load has its logger write

The records of a load tell how it ends.  One record starts them, one is made of each phase that is
entered, under the scope of that phase, and one sums up the file header as soon as it is decoded.
What comes last is either what went wrong and in which phase, or how much was loaded.

* `Load.failedRecords`, `Load.loadedRecords` — the records of a load that fails in a phase, and of
  one that succeeds;
* `Device.Offers` — a device that delivers as far as it answers calls, and `Accountable.offers`,
  what a decoder comes to on it;
* `Chronicle` — the records of a load so far, with a rule for each step of a load;
* `Load.records_run` — the records of a load are those of its outcome.
-/

variable {α β : Type} {content : Bytes} {medium : Medium}

/-! ### The records of an outcome -/

namespace Load

variable (logger : ScopeLogger) (occasion : Occasion)

/-- The record of a phase that is entered. -/
def enteredRecord (phase : Phase) : LogRecord :=
  (logger.enter phase.name).remark occasion .debug s!"Entering phase {phase.name}"

/-- The records of a phase that goes through. -/
def passedRecords (header : FileHeader) (phase : Phase) : List LogRecord :=
  enteredRecord logger occasion phase ::
    if phase = .decodeHeader then [logger.remark occasion .debug (summary header)] else []

/-- The records of a load before it enters a phase. -/
def recordsBefore (header : FileHeader) (phase : Phase) : List LogRecord :=
  logger.remark occasion .debug "Started: ELF load" ::
    (Phase.all.takeWhile (· ≠ phase)).flatMap (passedRecords logger occasion header)

/-- The records of a load that fails in a phase. -/
def failedRecords (header : FileHeader) (phase : Phase) (cause : DecodeError) : List LogRecord :=
  recordsBefore logger occasion header phase ++ [enteredRecord logger occasion phase,
    (logger.enter phase.name).remark occasion .debug s!"Phase {phase.name} failed: {cause.message}"]

/-- The records of a load that succeeds. -/
def loadedRecords (header : FileHeader) : List LogRecord :=
  recordsBefore logger occasion header .ready ++ [enteredRecord logger occasion .ready,
    logger.remark occasion .info (ScopeLogger.completion occasion "ELF load"),
    logger.remark occasion .info s!"Loaded ELF: {header.phnum} segments, {header.shnum} sections"]

/-- What a load tells before it ends is for those who look for faults. -/
theorem severity_of_mem_failedRecords {header : FileHeader} {phase : Phase} {cause : DecodeError}
    {record : LogRecord} (h : record ∈ failedRecords logger occasion header phase cause) :
    record.severity = .debug := by
  simp only [failedRecords, recordsBefore, passedRecords, List.mem_append, List.mem_cons,
    List.mem_flatMap, List.not_mem_nil, or_false] at h
  rcases h with (rfl | ⟨passed, -, rfl | hsummary⟩) | rfl | rfl
  · rfl
  · rfl
  · split at hsummary
    · rw [List.mem_singleton.mp hsummary]
      rfl
    · cases hsummary
  · rfl
  · rfl

end Load

/-! ### Devices that deliver as far as they answer -/

/-- The device holds the content, stands at the position and delivers, as far as it answers
    calls. -/
def Device.Offers (content : Bytes) (medium : Medium) (position : Nat) (d : Device) : Prop :=
  ∃ (full : Device) (q : Quota), full.Serves content medium position ∧ d = full.limited q

/-- A device at its start that hands out something on every read. -/
theorem Device.offers {d : Device} (hposition : d.position = 0) (hpace : d.pace.Productive) :
    d.Offers d.content d.medium 0 :=
  ⟨{ d with readsLeft := none, seeksLeft := none }, ⟨d.readsLeft, d.seeksLeft⟩,
    ⟨rfl, rfl, hposition, hpace, rfl, rfl⟩, rfl⟩

/-- Where a decoder ends with a value although calls may be refused, it is the one that it comes to
    where all calls are answered. -/
theorem Accountable.offers {m : Decode α} (h : Accountable m) {position : Nat}
    {result : Except DecodeError α} {after : Device → Prop}
    (hyields : Yields (Device.Serves content medium position) m result after) :
    Ends (Device.Offers content medium position) m
      (fun a d => result = .ok a ∧ ∃ (full : Device) (q : Quota), after full ∧ d = full.limited q)
      (fun _ _ => True) := by
  rintro d ⟨full, q, hserves, rfl⟩
  obtain ⟨full', hrun, hafter⟩ := hyields full hserves
  obtain ⟨r, made, full'', haccount⟩ := h full ⟨hserves.readsLeft_eq, hserves.seeksLeft_eq⟩
  cases hlimited : m (full.limited q) with
  | error cause d' => trivial
  | ok a d' =>
    by_cases hcovers : q.Covers made
    · obtain ⟨d'', hcovered, hnext⟩ := haccount.covered q hcovers
      -- within the quota the run is that of the device without one
      have hr : r = .ok a := by
        rw [hlimited] at hcovered
        cases r with
        | ok b => cases hcovered; rfl
        | error e => cases hcovered
      subst hr
      have hd' : d' = d'' := by
        rw [hlimited] at hcovered
        cases hcovered
        rfl
      have hsame : ending result full' = ending (.ok a) full'' := hrun.symm.trans haccount.run
      cases result with
      | error e => cases hsame
      | ok b =>
        cases hsame
        exact ⟨rfl, full', q.after made, hafter, hd'.trans (hnext a rfl)⟩
    -- beyond the quota it would have failed
    · obtain ⟨call, -, cause, d'', hbeyond, -⟩ := haccount.beyond q hcovers
      rw [hlimited] at hbeyond
      cases hbeyond

namespace Stored

/-- A file header that can be read at all is that of the content. -/
theorem header_eq_fileHeader (h : Abi.identSize ≤ content.size) {found : FileHeader}
    (hok : header content (content.extract 0 Abi.identSize) = .ok found) :
    found = fileHeader content := by
  rw [header, encoding_ofIdent h, record] at hok
  split at hok
  · rw [decode_fileHeader h] at hok
    exact (Except.ok.inj hok).symm
  · cases hok

end Stored

/-- The identification bytes that a device offers are those of its content. -/
theorem Device.Offers.readIdent :
    Ends (Device.Offers content medium 0) ElfInspect.readIdent
      (fun ident d => (Abi.identSize ≤ content.size ∧ ident = content.extract 0 Abi.identSize) ∧
        d.Offers content medium Abi.identSize) (fun _ _ => True) := by
  refine (Accountable.readIdent.offers Yields.readIdent).weaken (fun _ hd => hd)
    fun ident d hd => ?_
  obtain ⟨hident, full, q, hserves, hd⟩ := hd
  obtain ⟨hsize, hextract⟩ := Stored.size_of_ident hident
  rw [Nat.sub_zero, Nat.min_eq_left hsize, Nat.zero_add] at hserves
  exact ⟨⟨hsize, hextract⟩, full, q, hserves, hd⟩

/-- The file header that a device offers is that of its content. -/
theorem Device.Offers.readHeader (hsize : Abi.identSize ≤ content.size) :
    Ends (Device.Offers content medium Abi.identSize)
      (FileHeader.read (content.extract 0 Abi.identSize))
      (fun header _ => header = Stored.fileHeader content) (fun _ _ => True) := by
  have hlength : Abi.abiVersionIndex < (content.extract 0 Abi.identSize).size := by
    rw [Array.size_extract, Nat.sub_zero, Nat.min_eq_left hsize]
    decide
  refine ((Accountable.readHeader _).offers (Yields.readHeader hlength)).weaken (fun _ hd => hd) ?_
  exact fun header d hd => Stored.header_eq_fileHeader hsize hd.1

/-! ### The records so far -/

/-- The records of the journal, which is kept newest first and closes its scopes. -/
structure Chronicle (logger : ScopeLogger) (occasion : Occasion) (records : List LogRecord)
    (s : LoadState) : Prop where
  nested : Nested s.journal.reverse
  records_eq : logger.records occasion s.journal.reverse = records

namespace Chronicle

variable {logger : ScopeLogger} {occasion : Occasion} {records : List LogRecord} {s t : LoadState}

/-- What is noted next is told next. -/
theorem more (h : Chronicle logger occasion records s) {noted : List LogAction}
    (hnoted : Nested noted) (hjournal : t.journal = noted.reverse ++ s.journal) :
    Chronicle logger occasion (records ++ logger.records occasion noted) t := by
  have hreverse : t.journal.reverse = s.journal.reverse ++ noted := by
    rw [hjournal, List.reverse_append, List.reverse_reverse]
  refine ⟨hreverse ▸ h.nested.append hnoted, ?_⟩
  rw [hreverse, logger.records_append occasion h.nested, h.records_eq]

end Chronicle

/-- The records are those of a load that fails in a phase before the last, with a file header that
    is `known`. -/
def TellsFailure (logger : ScopeLogger) (occasion : Occasion) (known : FileHeader → Prop)
    (failure : LoadFailure) (s : LoadState) : Prop :=
  ∃ header phase cause, known header ∧ phase ≠ .ready ∧ failure = ⟨cause, some phase⟩ ∧
    Chronicle logger occasion (Load.failedRecords logger occasion header phase cause) s

/-- Behind the records `before`, the computation ends with a value and behind certain records, or
    fails behind the records of a failure. -/
def Tells (logger : ScopeLogger) (occasion : Occasion) (known : FileHeader → Prop)
    (P : Device → Prop) (before : List LogRecord) (m : Loading α)
    (Q : α → Device → Prop) (after : α → List LogRecord) : Prop :=
  Ends (fun s => P s.device ∧ Chronicle logger occasion before s) m
    (fun a s => Q a s.device ∧ Chronicle logger occasion (after a) s)
    (TellsFailure logger occasion known)

namespace Tells

variable {logger : ScopeLogger} {occasion : Occasion} {K : FileHeader → Prop} {P : Device → Prop}
  {before : List LogRecord} {m : Loading α} {Q : α → Device → Prop} {after : α → List LogRecord}
  {R : β → Device → Prop} {last : β → List LogRecord}

/-- What is told by the second part goes on from what the first one has told. -/
theorem bind {f : α → Loading β} (hm : Tells logger occasion K P before m Q after)
    (hf : ∀ a, Tells logger occasion K (Q a) (after a) (f a) R last) :
    Tells logger occasion K P before (m >>= f) R last :=
  Ends.bind hm hf

/-- A remark is one more record. -/
theorem emit (severity : Severity) (message : String) :
    Tells logger occasion K P before (Load.note (.emit severity message)) (fun _ => P)
      fun _ => before ++ [logger.remark occasion severity message] := by
  intro s hs
  have hnoted : Nested [.emit severity message] := .emit _ _ .nil
  exact ⟨hs.1, hs.2.more hnoted rfl⟩

/-- So is a remark on how long something took. -/
theorem emitTimed (severity : Severity) (label : String) :
    Tells logger occasion K P before (Load.note (.emitTimed severity label)) (fun _ => P)
      fun _ => before ++
        [logger.remark occasion severity (ScopeLogger.completion occasion label)] := by
  intro s hs
  have hnoted : Nested [.emitTimed severity label] := .emitTimed _ _ .nil
  exact ⟨hs.1, hs.2.more hnoted rfl⟩

/-- So is the beginning of a phase. -/
theorem enter (phase : Phase) :
    Tells logger occasion K P before (Load.enter phase) (fun _ => P)
      fun _ => before ++ [Load.enteredRecord logger occasion phase] := by
  intro s hs
  have hinner : Nested [.emit .debug s!"Entering phase {phase.name}"] := .emit _ _ .nil
  exact ⟨hs.1, hs.2.more (hinner.singleScope phase.name) rfl⟩

/-- The scope of a decoder that goes through is empty, and that of one that fails has the record of
    the failure in it. -/
theorem perform {p : Phase} (hphase : p ≠ .ready) {h : FileHeader} (hknown : K h)
    {step : Decode α} {G : α → Prop}
    (hstep : Ends P step (fun a d => Q a d ∧ G a) fun cause _ => cause.isInputFault = true) :
    let told := Load.recordsBefore logger occasion h p ++ [Load.enteredRecord logger occasion p]
    Ends (fun s => (P s.device ∧ Chronicle logger occasion told s) ∧ s.phase = p)
      (Load.perform .none step)
      (fun a s => (Q a s.device ∧ Chronicle logger occasion told s) ∧ G a)
      (TellsFailure logger occasion K) := by
  rintro told s ⟨⟨hdevice, hchronicle⟩, rfl⟩
  -- either way the scope that the decoder runs in is closed before anything else is noted
  have hdecoder := hstep s.device hdevice
  unfold Load.perform Load.Feedback.none
  cases hrun : step s.device with
  | ok a d =>
    rw [hrun] at hdecoder
    have hmore := hchronicle.more (t := { s with
      device := d, journal := .closeScope :: .openScope s.phase.name :: s.journal })
      (Nested.nil.singleScope s.phase.name) rfl
    have hsilent :
        logger.records occasion (.openScope s.phase.name :: [] ++ [.closeScope]) = [] := rfl
    rw [hsilent, List.append_nil] at hmore
    exact ⟨⟨hdecoder.1, hmore⟩, hdecoder.2⟩
  | error cause d =>
    rw [hrun] at hdecoder
    have hnotes : Load.failureNotes s.phase cause =
        [.emit .debug s!"Phase {s.phase.name} failed: {cause.message}"] := if_pos hdecoder
    have hinner : Nested [.emit .debug s!"Phase {s.phase.name} failed: {cause.message}"] :=
      .emit _ _ .nil
    refine ⟨h, s.phase, cause, hknown, hphase, by rw [DecodeError.inPhase, if_pos hdecoder], ?_⟩
    have hmore := hchronicle.more (t := { s with
      device := d
      journal := .closeScope :: Load.failureNotes s.phase cause ++
        .openScope s.phase.name :: s.journal })
      (hinner.singleScope s.phase.name) (by rw [hnotes]; rfl)
    rwa [List.append_assoc] at hmore

/-- A phase: it is entered, and its decoder runs under it. -/
theorem inPhase {p : Phase} (hphase : p ≠ .ready) {h : FileHeader} (hknown : K h)
    {step : Decode α} {G : α → Prop}
    (hstep : Ends P step (fun a d => Q a d ∧ G a) fun cause _ => cause.isInputFault = true)
    {rest : α → Loading β}
    (hrest : ∀ a, G a → Tells logger occasion K (Q a)
      (Load.recordsBefore logger occasion h p ++ [Load.enteredRecord logger occasion p])
      (rest a) R last) :
    Tells logger occasion K P (Load.recordsBefore logger occasion h p)
      (do Load.enter p; let a ← Load.perform .none step; rest a) R last := by
  have henter : Ends
      (fun s => P s.device ∧ Chronicle logger occasion (Load.recordsBefore logger occasion h p) s)
      (Load.enter p)
      (fun _ s => (P s.device ∧ Chronicle logger occasion
        (Load.recordsBefore logger occasion h p ++ [Load.enteredRecord logger occasion p]) s) ∧
          s.phase = p)
      (TellsFailure logger occasion K) :=
    fun s hs => ⟨enter (K := K) p s hs, rfl⟩
  refine Ends.bind henter fun _ => Ends.bind (perform hphase hknown hstep) fun a s hs => ?_
  exact hrest a hs.2 s hs.1

end Tells

/-! ### The load -/

/-- Names are looked up for all sections. -/
theorem Load.length_sectionNames {header : FileHeader} {headers : List SectionHeader}
    {contents : List Bytes} {names : List String}
    (h : sectionNames header headers contents = .ok names) : names.length = headers.length := by
  unfold sectionNames at h
  split at h
  · rename_i hempty
    rw [← Except.ok.inj h, List.isEmpty_iff.mp hempty]
    rfl
  · split at h
    · cases h
    · exact length_of_mapM_ok h

/-- A decoder that fails by its input only and comes to a list of a certain length. -/
theorem FailsByInput.counted {m : Decode (List α)} {count : Nat}
    (h : FailsByInput medium m fun _ => True)
    (hcount : Ends (fun _ => True) m (fun items _ => items.length = count) fun _ _ => True) :
    FailsByInput medium m fun items => items.length = count :=
  (h.and hcount).mono (fun _ hd => ⟨hd, trivial⟩) (fun _ _ hd => ⟨hd.1.1, hd.2⟩) fun _ _ he => he.1

/-- Names are found for all section headers or fail by the input. -/
theorem FailsByInput.countedNames (header : FileHeader) (headers : List SectionHeader)
    (contents : List Bytes) :
    FailsByInput medium (Load.ofExcept (Load.sectionNames header headers contents))
      fun names => names.length = headers.length := by
  refine (FailsByInput.sectionNames header headers contents).counted ?_
  cases hnames : Load.sectionNames header headers contents with
  | ok names => exact Ends.pure fun _ _ => Load.length_sectionNames hnames
  | error cause => exact Ends.throw fun _ _ => trivial

/-- The file header is the one that the content stores, if the load begins at its start. -/
def KnownHeader (content : Bytes) (F : Prop) (header : FileHeader) : Prop :=
  F → header = Stored.fileHeader content

/-- **The phases of a load**, with what they tell. -/
theorem Tells.pipeline (logger : ScopeLogger) (occasion : Occasion) {F : Prop} {chunk : Int}
    (hpos : 1 ≤ chunk) (hgrants : medium.Grants chunk.toNat) :
    Tells logger occasion (KnownHeader content F)
      (fun d => d.medium = medium ∧ (F → d.Offers content medium 0)) []
      (Load.pipeline chunk)
      (fun file _ => KnownHeader content F file.header ∧
        file.segments.length = file.header.phnum ∧ file.sections.length = file.header.shnum)
      (fun file => Load.loadedRecords logger occasion file.header) := by
  unfold Load.pipeline
  -- what is told before the file header is decoded does not depend on it
  have hstored : KnownHeader content F (Stored.fileHeader content) := fun _ => rfl
  refine bind (emit _ _) fun _ => ?_
  refine inPhase (p := .validateIdent) (by decide) hstored
    (Q := fun _ d => d.medium = medium ∧ (F → d.Offers content medium Abi.identSize))
    (G := fun ident => Abi.identSize ≤ ident.size ∧
      (F → Abi.identSize ≤ content.size ∧ ident = content.extract 0 Abi.identSize)) ?_
    fun ident hident => ?_
  · refine (FailsByInput.readIdent.and (.given fun _ => Device.Offers.readIdent)).mono
      (fun _ hd => hd) (fun ident d hd => ?_) fun _ _ he => he.1
    exact ⟨⟨hd.1.1, fun hfresh => (hd.2 hfresh).2⟩, hd.1.2, fun hfresh => (hd.2 hfresh).1⟩
  refine inPhase (p := .decodeHeader) (by decide) hstored
    (Q := fun _ d => d.medium = medium) (G := KnownHeader content F) ?_
    fun header hknown => ?_
  · have hoffers (hfresh : F) : Ends (Device.Offers content medium Abi.identSize)
        (FileHeader.read ident) (fun header _ => header = Stored.fileHeader content)
        fun _ _ => True := by
      obtain ⟨hsize, hextract⟩ := hident.2 hfresh
      rw [hextract]
      exact Device.Offers.readHeader hsize
    exact ((FailsByInput.readHeader hident.1).and (.given hoffers)).mono (fun _ hd => hd)
      (fun header d hd => ⟨hd.1.1, hd.2⟩) fun _ _ he => he.1
  -- the class is told between two phases; from here on the header is known, and the decoders count
  refine bind (emit _ _) fun _ => ?_
  refine inPhase (p := .decodeSegments) (by decide) hknown
    ((FailsByInput.readTable (FailsByInput.readLayout (Stored.programHeader_width_lt _) _ _)
      _ _).counted (Ends.length_readTable _ _ _)) fun segments hsegments => ?_
  refine inPhase (p := .decodeSectionHeaders) (by decide) hknown
    ((FailsByInput.readTable (FailsByInput.readLayout (Stored.sectionHeader_width_lt _) _ _)
      _ _).counted (Ends.length_readTable _ _ _)) fun headers hheaders => ?_
  refine inPhase (p := .loadSectionContent) (by decide) hknown
    ((FailsByInput.mapM headers fun h _ => FailsByInput.readContent h hpos hgrants).counted
      (Ends.length_mapM headers)) fun contents hcontents => ?_
  refine inPhase (p := .resolveSectionNames) (by decide) hknown
    (FailsByInput.countedNames header headers contents) fun names hnames => ?_
  refine bind (enter .ready) fun _ => bind (emitTimed _ _) fun _ => bind (emit _ _) fun _ => ?_
  have hsections : (Load.assemble names headers contents).length = header.shnum := by
    simp [Load.assemble, hnames, hcontents, hheaders]
  rw [hsegments, hsections]
  exact Ends.pure fun s hs => ⟨⟨hknown, hsegments, hsections⟩, hs.2⟩

/-- **The log of a load.**  On any device other than a file, and with a logger whose channel lets
    debug records pass, what a load has the logger emit is determined by how the load ends:

    * if it succeeds, the records are those of a load that succeeds, with the numbers of segments
      and of sections that the file header names;
    * if it fails, it does so in a phase before the last, and the records are those of a load that
      fails in this phase for this cause.  None of them says that something was completed.

    The header that they tell of is that of the file, and the one that the content stores if the
    load begins at its start. -/
theorem Load.records_run (device : Device) (hmedium : device.medium.isFile = false) {chunk : Int}
    (hpos : 1 ≤ chunk) (hlt : chunk < wordLimit) (logger : ScopeLogger) (occasion : Occasion)
    (state : LogState)
    (henabled : state.registry.isEnabled (channelName logger.component) .debug = true) :
    let outcome := (run device chunk).outcome
    let records := logger.records occasion (run device chunk).journal
    (logger.replay occasion (run device chunk).journal state).2 =
        records.foldl LogState.emit state ∧
      ∃ header : FileHeader,
        (device.position = 0 ∧ device.pace.Productive →
          header = Stored.fileHeader device.content) ∧
        (∀ file, outcome = .ok file →
          file.header = header ∧ file.segments.length = header.phnum ∧
            file.sections.length = header.shnum ∧ records = loadedRecords logger occasion header) ∧
        ∀ failure, outcome = .error failure →
          ∃ phase, phase ≠ .ready ∧ failure.phase = some phase ∧
            records = failedRecords logger occasion header phase failure.error ∧
            ∀ record ∈ records, record.severity = .debug := by
  intro outcome records
  refine ⟨logger.replay_snd_of_enabled occasion henabled _, ?_⟩
  have hgrants : device.medium.Grants chunk.toNat := Medium.grants_of_not_file hmedium (by omega)
  -- the header is only known of a load from the start of a device that delivers
  have hstart : Chronicle logger occasion [] { device } := ⟨.nil, rfl⟩
  have htold := Tells.pipeline (F := device.position = 0 ∧ device.pace.Productive) logger occasion
    hpos hgrants { device } ⟨⟨rfl, fun hfresh => Device.offers hfresh.1 hfresh.2⟩, hstart⟩
  simp only [outcome, records, run]
  cases hrun : pipeline chunk .none { device } with
  | ok file s =>
    rw [hrun] at htold
    obtain ⟨⟨hknown, hsegments, hsections⟩, hchronicle⟩ := htold
    refine ⟨file.header, hknown, fun file' hfile => ?_,
      fun _ hfailure => by cases hfailure⟩
    obtain rfl : file = file' := Except.ok.inj hfile
    exact ⟨rfl, hsegments, hsections, hchronicle.records_eq⟩
  | error failure s =>
    rw [hrun] at htold
    obtain ⟨header, phase, cause, hknown, hphase, rfl, hchronicle⟩ := htold
    refine ⟨header, hknown, fun _ hfile => (by cases hfile), fun failure' hfailure => ?_⟩
    obtain rfl := Except.error.inj hfailure
    refine ⟨phase, hphase, rfl, hchronicle.records_eq, fun record hrecord => ?_⟩
    rw [Run.ofResult, hchronicle.records_eq] at hrecord
    exact severity_of_mem_failedRecords logger occasion hrecord

/-- The loader of a program that is under way, with a channel for debug records. -/
def Load.underWay : ScopeLogger × LogState :=
  ({ component := "loader", phase := some "outer" },
    (({} : LogState).configure "loader" { level := "debug" }).2)

/-- The phase that a load has failed in, if it has failed in one. -/
def Load.Run.failedPhase? (run : Run) : Option Phase :=
  match run.outcome with
  | .ok _ => none
  | .error failure => failure.phase

/-- A load whose last read is refused fails in the contents. -/
theorem Load.records_run_refused :
    ∃ cause, underWay.1.records default (run (.failing mixedImage (some 69) none) 3).journal =
      failedRecords underWay.1 default (Stored.fileHeader mixedImage) .loadSectionContent
        cause := by
  obtain ⟨-, header, hheader, -, hfailed⟩ :=
    records_run (.failing mixedImage (some 69) none) (by decide) (show (1 : Int) ≤ 3 by decide)
      (by decide) underWay.1 default underWay.2 (by decide +kernel)
  -- the 69 reads that are answered end within the contents
  have hphase : (run (.failing mixedImage (some 69) none) 3).failedPhase? =
    some .loadSectionContent := by decide +kernel
  cases houtcome : (run (.failing mixedImage (some 69) none) 3).outcome with
  | ok file =>
    rw [Run.failedPhase?, houtcome] at hphase
    cases hphase
  | error failure =>
    rw [Run.failedPhase?, houtcome] at hphase
    obtain ⟨phase, -, hsame, hrecords, -⟩ := hfailed failure houtcome
    obtain rfl := Option.some.inj (hsame.symm.trans hphase)
    rw [hheader ⟨rfl, trivial⟩] at hrecords
    exact ⟨failure.error, hrecords⟩

end ElfInspect
