import ElfInspect.Proofs.Load.Chronicle

namespace ElfInspect

/-!
# The phases that the records of a load carry

Of the records of a load, some say that a phase is entered.  The records from there up to the next
such record belong to that phase, and all but one of them carry its name: what is said of the file
header, once it is decoded, stands outside of every scope of the load.

* `LogRecord.enteredPhase?`, `lastEntered?` — the phase that a record says is entered, and the one
  entered last when some records have been emitted;
* `Load.Reaches` — the records of a load that gets as far as a phase;
* `Load.exists_reaches` — the records of any load are such records;
* `Load.phase_of_record` — the phase that each record carries.
-/

variable {α β : Type}

/-! ### Entries of phases -/

/-- The phase that a record says is entered, if it says so of one. -/
def LogRecord.enteredPhase? (record : LogRecord) : Option Phase :=
  Phase.all.find? fun phase => record.message = s!"Entering phase {phase.name}"

/-- The phase that has been entered last when some records have been emitted. -/
def lastEntered? (records : List LogRecord) : Option Phase :=
  (records.filterMap LogRecord.enteredPhase?).getLast?

/-- A message that begins with another letter enters no phase. -/
theorem LogRecord.enteredPhase?_eq_none {record : LogRecord} {c : Char}
    (hfirst : record.message.toList.head? = some c) (hc : c ≠ 'E') :
    record.enteredPhase? = none := by
  refine List.find?_eq_none.mpr fun phase _ hentered => hc ?_
  rw [of_decide_eq_true hentered, String.toList_append] at hfirst
  exact (Option.some.inj hfirst).symm

/-- The last phase that has begun is found from the end. -/
theorem lastEntered?_cons (record : LogRecord) (later : List LogRecord) :
    lastEntered? (record :: later) = (lastEntered? later).or record.enteredPhase? := by
  unfold lastEntered?
  cases hentered : record.enteredPhase? with
  | none => rw [List.filterMap_cons_none hentered, Option.or_none]
  | some phase =>
    rw [List.filterMap_cons_some hentered, List.getLast?_cons]
    cases (later.filterMap LogRecord.enteredPhase?).getLast? <;> rfl

/-! ### Records of loads -/

namespace Load

/-- The record is told under a phase that has been entered.  It carries the phase, unless that is
    the last one, whose scope is closed by then. -/
def ToldUnder (phase : Phase) (record : LogRecord) : Prop :=
  record.enteredPhase? = none ∧ (phase ≠ .ready → record.phase = some phase.name)

variable (logger : ScopeLogger) (occasion : Occasion)

/-- The records of a load that enters a phase and none behind it. -/
def Reaches (phase : Phase) (records : List LogRecord) : Prop :=
  ∃ header told,
    records =
        recordsBefore logger occasion header phase ++ enteredRecord logger occasion phase :: told ∧
    ∀ record ∈ told, ToldUnder phase record

/-- The record at the beginning of a phase names the phase. -/
@[simp]
theorem enteredPhase?_enteredRecord (phase : Phase) :
    (enteredRecord logger occasion phase).enteredPhase? = some phase := by
  show (Phase.all.find? fun other =>
    s!"Entering phase {phase.name}" = s!"Entering phase {other.name}") = some phase
  cases phase <;> decide +kernel

@[simp]
theorem phase_enteredRecord (phase : Phase) :
    (enteredRecord logger occasion phase).phase = some phase.name := rfl

/-- A remark carries the phase of its logger. -/
@[simp]
theorem phase_remark (severity : Severity) (message : String) :
    (logger.remark occasion severity message).phase = logger.phase := rfl

/-- The summary of the header begins no phase. -/
@[simp]
theorem enteredPhase?_summary (header : FileHeader) :
    (logger.remark occasion .debug (summary header)).enteredPhase? = none := by
  have hfirst : (summary header).toList.head? = some 'c' := by
    simp only [summary, String.toList_append, List.append_assoc]
    rfl
  exact LogRecord.enteredPhase?_eq_none hfirst (by decide)

/-- What is told of a failure carries the phase that it arises in. -/
theorem toldUnder_failure (phase : Phase) (cause : DecodeError) :
    ∀ record ∈ (logger.enter phase.name).records occasion (failureNotes phase cause),
      ToldUnder phase record := by
  have hfirst : (s!"Phase {phase.name} failed: {cause.message}").toList.head? = some 'P' := by
    simp only [String.toList_append, List.append_assoc]
    rfl
  intro record hrecord
  unfold failureNotes at hrecord
  split at hrecord
  · rw [List.mem_singleton.mp hrecord]
    exact ⟨LogRecord.enteredPhase?_eq_none hfirst (by decide), fun _ => rfl⟩
  · cases hrecord

/-- What is told at the end of a load stands behind the last phase. -/
theorem toldUnder_ready {record : LogRecord} {c : Char}
    (hfirst : record.message.toList.head? = some c) (hc : c ≠ 'E') : ToldUnder .ready record :=
  ⟨LogRecord.enteredPhase?_eq_none hfirst hc, fun h => absurd rfl h⟩

end Load

/-! ### Loads -/

variable {logger : ScopeLogger} {occasion : Occasion}

/-- The records so far are those of a load that enters some phase and none behind it. -/
def ReachesPhase (logger : ScopeLogger) (occasion : Occasion) (s : LoadState) : Prop :=
  ∃ phase records, Load.Reaches logger occasion phase records ∧ Chronicle logger occasion records s

namespace Chronicle

variable {told : List LogRecord} {feedback : Load.Feedback} {step : Decode α}
  {E : LoadFailure → LoadState → Prop}

/-- A remark is one more record. -/
theorem emit (severity : Severity) (message : String) :
    Ends (Chronicle logger occasion told) (Load.note (.emit severity message))
      (fun _ => Chronicle logger occasion (told ++ [logger.remark occasion severity message])) E :=
  fun _ hs => hs.more (.emit _ _ .nil) rfl

/-- So is a remark on how long something took. -/
theorem emitTimed (severity : Severity) (label : String) :
    Ends (Chronicle logger occasion told) (Load.note (.emitTimed severity label))
      (fun _ => Chronicle logger occasion
        (told ++ [logger.remark occasion severity (ScopeLogger.completion occasion label)])) E :=
  fun _ hs => hs.more (.emitTimed _ _ .nil) rfl

/-- So is the beginning of a phase. -/
theorem enter (phase : Phase) :
    Ends (Chronicle logger occasion told) (Load.enter phase)
      (fun _ s => Chronicle logger occasion (told ++ [Load.enteredRecord logger occasion phase]) s ∧
        s.phase = phase) E :=
  fun _ hs => ⟨hs.more (Nested.singleScope phase.name (.emit _ _ .nil)) rfl, rfl⟩

/-- The scope of a decoder is closed behind the notes of a failure, if there are any. -/
theorem perform (phase : Phase) :
    Ends (fun s => Chronicle logger occasion told s ∧ s.phase = phase) (Load.perform feedback step)
      (fun _ => Chronicle logger occasion told)
      (fun _ s => ∃ cause, Chronicle logger occasion
        (told ++ (logger.enter phase.name).records occasion (Load.failureNotes phase cause))
        s) := by
  rintro s ⟨hs, rfl⟩
  unfold Load.perform
  cases step (feedback s.journal s.device) with
  | ok a d =>
    have hmore := hs.more (t := { s with
      device := d, journal := .closeScope :: .openScope s.phase.name :: s.journal })
      (Nested.nil.singleScope s.phase.name) rfl
    -- a scope that is opened and closed makes no record
    have hsilent :
        logger.records occasion (.openScope s.phase.name :: [] ++ [.closeScope]) = [] := rfl
    rwa [hsilent, List.append_nil] at hmore
  | error cause d =>
    refine ⟨cause, ?_⟩
    unfold Load.failureNotes
    split
    · exact hs.more (Nested.singleScope s.phase.name (.emit _ _ .nil)) rfl
    · exact hs.more (Nested.singleScope s.phase.name .nil) rfl

/-- A phase: it is entered, and its decoder runs under it. -/
theorem inPhase (phase : Phase) (header : FileHeader) {rest : α → Loading β}
    (hrest : ∀ a, Ends (Chronicle logger occasion
        (Load.recordsBefore logger occasion header phase ++
          [Load.enteredRecord logger occasion phase]))
      (rest a) (fun _ => ReachesPhase logger occasion) fun _ => ReachesPhase logger occasion) :
    Ends (Chronicle logger occasion (Load.recordsBefore logger occasion header phase))
      (do Load.enter phase; let a ← Load.perform feedback step; rest a)
      (fun _ => ReachesPhase logger occasion) fun _ => ReachesPhase logger occasion := by
  refine Ends.bind (enter phase) fun _ => Ends.bind ?_ hrest
  refine (perform phase).mono (fun _ hs => hs) (fun _ _ hs => hs) fun _ s hs => ?_
  obtain ⟨cause, hs⟩ := hs
  rw [List.append_assoc] at hs
  exact ⟨phase, _, ⟨header, _, rfl, Load.toldUnder_failure logger occasion phase cause⟩, hs⟩

variable (logger occasion) in
/-- The records of a load, whatever becomes of it. -/
theorem pipeline (chunk : Int) (feedback : Load.Feedback) :
    Ends (Chronicle logger occasion []) (Load.pipeline chunk feedback)
      (fun _ => ReachesPhase logger occasion) fun _ => ReachesPhase logger occasion := by
  unfold Load.pipeline
  -- what is told before the file header is decoded does not depend on it
  refine Ends.bind (emit _ _) fun _ => ?_
  refine inPhase .validateIdent {} fun ident => ?_
  refine inPhase .decodeHeader {} fun header => ?_
  refine Ends.bind (emit _ _) fun _ => ?_
  refine inPhase .decodeSegments header fun segments => ?_
  refine inPhase .decodeSectionHeaders header fun headers => ?_
  refine inPhase .loadSectionContent header fun contents => ?_
  refine inPhase .resolveSectionNames header fun names => ?_
  refine Ends.bind ((enter .ready).weaken (fun _ hs => hs) fun _ _ hs => hs.1) fun _ =>
    Ends.bind (emitTimed _ _) fun _ => Ends.bind (emit _ _) fun _ => Ends.pure fun s hs => ?_
  have hcompleted : (ScopeLogger.completion occasion "ELF load").toList.head? = some 'C' := by
    simp only [ScopeLogger.completion, String.toList_append, List.append_assoc]
    rfl
  have hloaded (segments sections : Nat) :
      (s!"Loaded ELF: {segments} segments, {sections} sections").toList.head? = some 'L' := by
    simp only [String.toList_append, List.append_assoc]
    rfl
  rw [List.append_assoc, List.append_assoc] at hs
  refine ⟨.ready, _, ⟨header, _, rfl, List.forall_mem_cons.mpr ⟨?_, ?_⟩⟩, hs⟩
  · exact Load.toldUnder_ready hcompleted (by decide)
  · exact List.forall_mem_singleton.mpr (Load.toldUnder_ready (hloaded _ _) (by decide))

end Chronicle

namespace Load

/-- **The records of a load** are those of one that gets as far as some phase. -/
theorem exists_reaches (device : Device) (chunk : Int) (feedback : Feedback)
    (logger : ScopeLogger) (occasion : Occasion) :
    ∃ phase, Reaches logger occasion phase
      (logger.records occasion (run device chunk feedback).journal) := by
  have hend := Chronicle.pipeline logger occasion chunk feedback { device } ⟨.nil, rfl⟩
  -- the journal is kept backwards while the load goes on
  have hreaches {s : LoadState} (h : ReachesPhase logger occasion s) :
      ∃ phase, Reaches logger occasion phase (logger.records occasion s.journal.reverse) := by
    obtain ⟨phase, records, hreaches, hs⟩ := h
    exact ⟨phase, hs.records_eq.symm ▸ hreaches⟩
  rw [run]
  cases hrun : pipeline chunk feedback { device } with
  | ok file s =>
    rw [hrun] at hend
    exact hreaches hend
  | error failure s =>
    rw [hrun] at hend
    exact hreaches hend

/-! ### Stamps -/

/-- What a record carries when a phase has been entered and some records follow: that phase, unless
    it is the last record before the segments are decoded.  That one sums up the file header and
    carries the phase from outside of the load. -/
def Carries (outer : Option String) (phase : Phase) (record : LogRecord)
    (later : List LogRecord) : Prop :=
  if phase = .decodeHeader ∧ later.head?.bind LogRecord.enteredPhase? = some .decodeSegments then
    record.phase = outer ∧ ∃ header, record.message = summary header
  else record.phase = some phase.name

/-- Each record behind the entry of a phase before the last carries what it should. -/
def Stamped (outer : Option String) : Option Phase → List LogRecord → Prop
  | _, [] => True
  | entered?, record :: later =>
    (∀ phase, record.enteredPhase?.or entered? = some phase → phase ≠ .ready →
      Carries outer phase record later) ∧
    Stamped outer (record.enteredPhase?.or entered?) later

variable {outer : Option String}

/-- What is said of the records one after another holds of each of them. -/
theorem Stamped.carries {entered? : Option Phase} {before later : List LogRecord}
    {record : LogRecord} (h : Stamped outer entered? (before ++ record :: later)) {phase : Phase}
    (hphase : (lastEntered? (before ++ [record])).or entered? = some phase)
    (hready : phase ≠ .ready) : Carries outer phase record later := by
  induction before generalizing entered? with
  | nil =>
    refine h.1 phase ?_ hready
    rwa [List.nil_append, lastEntered?_cons] at hphase
  | cons first before ih =>
    refine ih h.2 ?_
    rwa [List.cons_append, lastEntered?_cons, Option.or_assoc] at hphase

/-- What is told under a phase does not begin with the entry of another. -/
theorem enteredPhase?_head {phase : Phase} {told : List LogRecord}
    (h : ∀ record ∈ told, ToldUnder phase record) :
    told.head?.bind LogRecord.enteredPhase? = none := by
  cases told with
  | nil => rfl
  | cons record later => exact (h record List.mem_cons_self).1

/-- Records told under a phase are stamped with it. -/
theorem Stamped.of_toldUnder {phase : Phase} {told : List LogRecord}
    (h : ∀ record ∈ told, ToldUnder phase record) : Stamped outer (some phase) told := by
  induction told with
  | nil => trivial
  | cons record later ih =>
    obtain ⟨hrecord, hlater⟩ := List.forall_mem_cons.mp h
    rw [Stamped, hrecord.1, Option.none_or]
    refine ⟨?_, ih hlater⟩
    rintro _ ⟨⟩ hready
    rw [Carries, enteredPhase?_head hlater, if_neg fun hlast => nomatch hlast.2]
    exact hrecord.2 hready

/-- The records of a load are stamped as the phases go by. -/
theorem Reaches.stamped {phase : Phase} {records : List LogRecord}
    (h : Reaches logger occasion phase records) : Stamped logger.phase none records := by
  obtain ⟨header, told, rfl, htold⟩ := h
  have hlast : Stamped logger.phase (some phase) told := .of_toldUnder htold
  have hhead := enteredPhase?_head htold
  have hsummary : ∃ told, (logger.remark occasion .debug (summary header)).message = summary told :=
    ⟨header, rfl⟩
  have hfirst : "Started: ELF load".toList.head? = some 'S' := by decide +kernel
  have hstarted : (logger.remark occasion .debug "Started: ELF load").enteredPhase? = none :=
    LogRecord.enteredPhase?_eq_none hfirst (by decide)
  -- the records before a phase are those of the phases before it, one after another
  cases phase <;>
    simp [recordsBefore, passedRecords, Phase.all, Stamped, Carries, hlast, hhead, hsummary,
      hstarted]

/-- **The phases of records.**  Whatever device is loaded and however the load ends, a logger whose
    channel lets debug records pass emits all records of the load.  From the entry of a phase before
    the last up to the entry of the next one, or to the end of the load, each of them carries that
    phase.  There is one exception: the last record before the segments are decoded, which sums up
    the file header, carries the phase that the logger has had before the load. -/
theorem phase_of_record (device : Device) (chunk : Int) (feedback : Feedback)
    (logger : ScopeLogger) (occasion : Occasion) (state : LogState)
    (henabled : state.registry.isEnabled (channelName logger.component) .debug = true) :
    let records := logger.records occasion (run device chunk feedback).journal
    (logger.replay occasion (run device chunk feedback).journal state).2 =
      records.foldl LogState.emit state ∧
    ∀ before record later, records = before ++ record :: later →
      ∀ phase, lastEntered? (before ++ [record]) = some phase → phase ≠ .ready →
        Carries logger.phase phase record later := by
  refine ⟨logger.replay_snd_of_enabled occasion henabled _, fun before record later hsplit phase
    hphase hready => ?_⟩
  obtain ⟨reached, hreaches⟩ := exists_reaches device chunk feedback logger occasion
  have hstamped := hreaches.stamped
  rw [hsplit] at hstamped
  exact hstamped.carries (by rw [hphase, Option.some_or]) hready

/-- The last record of a load that fails in the contents carries that phase, although the logger has
    another one before the load. -/
theorem phase_of_record_refused :
    let records :=
      underWay.1.records default (run (.failing mixedImage (some 69) none) 3).journal
    underWay.1.phase = some "outer" ∧
      records.getLast?.bind LogRecord.phase = some "load_section_content" := by
  obtain ⟨-, hcarries⟩ := phase_of_record (.failing mixedImage (some 69) none) 3 .none underWay.1
    default underWay.2 (by decide +kernel)
  dsimp only
  have hentered : lastEntered? (underWay.1.records default
      (run (.failing mixedImage (some 69) none) 3).journal) = some .loadSectionContent := by
    decide +kernel
  generalize underWay.1.records default _ = records at hcarries hentered ⊢
  -- the last record is one of the phase that was begun last
  rcases records.eq_nil_or_concat with rfl | ⟨before, record, hsplit⟩
  · cases hentered
  · rw [List.concat_eq_append] at hsplit
    subst hsplit
    have hrecord := hcarries before record [] rfl .loadSectionContent hentered (by decide)
    rw [Carries, if_neg (by decide)] at hrecord
    rw [List.getLast?_concat]
    exact ⟨rfl, hrecord⟩

/-- A 64-bit image that consists of a file header without any tables. -/
def bareImage : Bytes :=
  (Abi.magic ++ [2, 1, 1] ++ List.replicate 57 0).toArray

/-- Not all records of a load carry the phase that has been entered. -/
theorem not_carries_phase :
    ¬ ∀ (device : Device) (chunk : Int), 1 ≤ chunk → chunk < wordLimit →
      ∀ (logger : ScopeLogger) (occasion : Occasion) (state : LogState),
        state.registry.isEnabled (channelName logger.component) .debug = true →
        ∀ before record later,
          logger.records occasion (run device chunk).journal = before ++ record :: later →
          ∀ phase, phase ≠ .ready → lastEntered? (before ++ [record]) = some phase →
            record.phase = some phase.name := by
  intro h
  -- behind three records, the one that sums up the file header
  let records := ScopeLogger.records default { component := "loader" }
    (run (.ofBytes bareImage) defaultChunkSize).journal
  obtain ⟨record, hrecord⟩ : ∃ record, records[3]? = some record :=
    Option.isSome_iff_exists.mp (by decide +kernel)
  have htake : records.take 4 = records.take 3 ++ [record] := by
    rw [List.take_add_one, hrecord, Option.toList_some]
  have hsplit : records = records.take 3 ++ record :: records.drop 4 := by
    rw [List.append_cons, ← htake, List.take_append_drop]
  have hentered : lastEntered? (records.take 3 ++ [record]) = some .decodeHeader := by
    rw [← htake]
    decide +kernel
  have hcarries := h (.ofBytes bareImage) defaultChunkSize (by decide) (by decide)
    { component := "loader" } default underWay.2 (by decide +kernel) _ _ _ hsplit .decodeHeader
    (by decide) hentered
  have hnothing : records[3]?.bind LogRecord.phase = none := by decide +kernel
  rw [hrecord, Option.bind_some, hcarries] at hnothing
  cases hnothing

end Load

end ElfInspect
