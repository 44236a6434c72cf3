import ElfInspect.Proofs.Command.Inspection
import ElfInspect.Proofs.Report.Saved

namespace ElfInspect

/-!
# What an inspection comes to

After the load a run shows something and then saves something.  It stops at the first symbol table
that it needs and that does not decode, and no file is written before all of them have been decoded.

* `Inspection.shownText` — what is shown of a file, and `Inspection.showing_eq` when;
* `Inspection.saveReport_of_failure`, `Inspection.saveReport_of_success` — what becomes of the
  report;
* `Inspection.run_of_failure`, `Inspection.run_of_success` — runs after a load;
* `Inspection.run_outcome` — **all runs**.
-/

open Store (Keeps)

namespace Inspection

variable (i : Inspection)

/-! ### Showing -/

/-- The line for a symbol table that does not decode. -/
def symbolLine (cause : DecodeError) : String :=
  Command.errorLine i.surroundings
    ("Failed to decode symbols in " ++ i.invocation.path ++ ": " ++ cause.message)

/-- A symbol table that fails is reported on the console. -/
theorem failSymbols_eq {cause : DecodeError} (h : cause.isInputFault = true) {α : Type}
    (s : CommandState) :
    (Command.failSymbols i.invocation.path cause : Command α) i.surroundings s =
      .error .reported { s with shown := s.shown ++ i.symbolLine cause } :=
  Command.failDecode_of_isInputFault _ h s

/-- The document that is printed, if it can be made. -/
def printed (file : ElfFile) : String :=
  match i.document file with
  | .ok document => document ++ "\n"
  | .error _ => ""

/-- What is shown of a file. -/
def shownText (file : ElfFile) : String :=
  if i.invocation.json then i.printed file else i.displayed file

/-- The tables that are needed for what is shown. -/
def shownTables (file : ElfFile) : List Section :=
  if i.invocation.json then Report.neededTables file i.showSymbols
  else Display.neededTables i.displayOptions file i.invocation.sectionName

/-- The report of a run is its document. -/
theorem text_eq (file : ElfFile) :
    Report.text i.surroundings.occasion.precise file i.invocation.path i.showSymbols =
      i.document file := rfl

/-- The document can be made unless a table that it needs does not decode. -/
theorem document_eq (file : ElfFile) :
    match file.firstFailure? (Report.neededTables file i.showSymbols) with
    | some cause => i.document file = .error cause
    | none => ∃ document, i.document file = .ok document :=
  Report.text_of_firstFailure? _ file _ _

/-- A report is printed if it can be made, and else its failure is reported. -/
theorem printReport_eq (file : ElfFile) (s : CommandState) :
    Command.printReport i.invocation i.showSymbols file i.surroundings s =
      match file.firstFailure? (Report.neededTables file i.showSymbols) with
      | some cause => .error .reported
          { s with shown := s.shown ++ i.printed file ++ i.symbolLine cause }
      | none => .ok () { s with shown := s.shown ++ i.printed file } := by
  have hdocument := i.document_eq file
  unfold Command.printReport printed
  rw [Command.read_bind]
  -- the document depends on whether a table fails
  cases hfailure : file.firstFailure? (Report.neededTables file i.showSymbols) with
  | some cause =>
    have herror : i.document file = .error cause := by simpa only [hfailure] using hdocument
    rw [text_eq, herror]
    dsimp only
    rw [String.append_empty]
    exact i.failSymbols_eq (ElfFile.isInputFault_of_firstFailure? hfailure) s
  | none =>
    obtain ⟨document, hok⟩ : ∃ document, i.document file = .ok document := by
      simpa only [hfailure] using hdocument
    rw [text_eq, hok]
    rfl

/-- Calls show one after another. -/
theorem renderCalls_append (width : Nat) (calls more : List ConsoleCall) :
    renderCalls width false (calls ++ more) =
      renderCalls width false calls ++ renderCalls width false more := by
  simp only [renderCalls, Bool.false_eq_true, if_false, List.map_append, String.join_append]

/-- A display shows what it can, and then the failure of a symbol table if there is one. -/
theorem display_eq (file : ElfFile) (s : CommandState) :
    Command.display i.invocation i.settings.display file i.surroundings s =
      match file.firstFailure?
        (Display.neededTables i.displayOptions file i.invocation.sectionName) with
      | some cause => .error .reported
          { s with shown := s.shown ++ i.displayed file ++ i.symbolLine cause }
      | none => .ok () { s with shown := s.shown ++ i.displayed file } := by
  have hfailure := Display.failure_symbols file i.displayOptions i.invocation.sectionName
  -- what is shown before the symbols does not depend on them
  have hshown : i.displayed file =
      renderCalls i.surroundings.columns false (Display.overview i.displayOptions file) ++
        renderCalls i.surroundings.columns false
          (Display.symbols i.displayOptions file i.invocation.sectionName).1 :=
    renderCalls_append _ _ _
  rw [← hfailure, hshown, ← String.append_assoc]
  unfold Command.display
  rw [i.displayOptions_settings, i.rowLimit_settings]
  rcases hsymbols : Display.symbols i.displayOptions file i.invocation.sectionName with
    ⟨symbols, failure⟩
  rw [hsymbols] at hfailure
  cases failure with
  | some cause =>
    have hfault : cause.isInputFault = true :=
      ElfFile.isInputFault_of_firstFailure? hfailure.symm
    exact i.failSymbols_eq hfault _
  | none => rfl

/-- A document is printed as a whole or not at all, while a display goes on up to the first table
    that does not decode. -/
theorem showing_eq (file : ElfFile) (s : CommandState) :
    i.showing file i.surroundings s =
      match file.firstFailure? (i.shownTables file) with
      | some cause => .error .reported
          { s with shown := s.shown ++ i.shownText file ++ i.symbolLine cause }
      | none => .ok () { s with shown := s.shown ++ i.shownText file } := by
  unfold showing shownTables shownText
  cases i.invocation.json with
  | true => exact i.printReport_eq file s
  | false => exact i.display_eq file s

/-- The tables that the run needs are those for what is shown, and then those for the report. -/
theorem firstFailure?_neededTables (file : ElfFile) :
    file.firstFailure? (i.neededTables file) =
      (file.firstFailure? (i.shownTables file)).or
        (if i.invocation.reportPath?.isSome then
          file.firstFailure? (Report.neededTables file i.showSymbols) else none) := by
  unfold neededTables shownTables
  cases hjson : i.invocation.json with
  | true =>
    rw [Invocation.firstFailure?_of_json hjson, if_pos rfl]
    split
    · rw [Option.or_self]
    · rw [Option.or_none]
  | false => exact Invocation.firstFailure?_of_not_json hjson i.displayOptions file

/-- A run that needs a table that does not decode shows no document. -/
theorem shownText_of_failure {file : ElfFile} {cause : DecodeError}
    (h : file.firstFailure? (i.neededTables file) = some cause) :
    i.shownText file = if i.invocation.json then "" else i.displayed file := by
  unfold shownText
  cases hjson : i.invocation.json with
  | false => rfl
  | true =>
    have hdocument := i.document_eq file
    rw [neededTables, Invocation.firstFailure?_of_json hjson] at h
    rw [h] at hdocument
    dsimp only at hdocument
    rw [if_pos rfl, if_pos rfl, printed, hdocument]

/-! ### Saving -/

/-- A report that cannot be made is not saved. -/
theorem saveReport_of_failure {output : String} {place : List String} {s : CommandState}
    (hs : s.logs.store.destination? (Path.normalize output) = some place) {file : ElfFile}
    {cause : DecodeError}
    (h : file.firstFailure? (Report.neededTables file i.showSymbols) = some cause) :
    ∃ s', Command.saveReport i.invocation i.showSymbols file output i.surroundings s =
        .error .reported s' ∧
      s'.shown = s.shown ++ i.symbolLine cause ∧ Keeps [] s.logs.store s'.logs.store := by
  have hsave := Report.save_destination hs i.surroundings.occasion.precise file i.invocation.path
    i.showSymbols
  have hdocument := i.document_eq file
  rw [h] at hdocument
  rw [text_eq, hdocument] at hsave
  obtain ⟨later, hsaved, hkeeps⟩ := hsave
  unfold Command.saveReport
  rw [Command.get_bind, Command.read_bind, hsaved]
  refine ⟨{ logs := { s.logs with store := later }, shown := s.shown ++ i.symbolLine cause }, ?_,
    rfl, hkeeps⟩
  exact i.failSymbols_eq (ElfFile.isInputFault_of_firstFailure? h) _

/-- A report that can be made is saved, and nothing else is written. -/
theorem saveReport_of_success {output : String} {place : List String} {s : CommandState}
    (hs : s.logs.store.destination? (Path.normalize output) = some place) {file : ElfFile}
    (h : file.firstFailure? (Report.neededTables file i.showSymbols) = none) :
    ∃ document s', i.document file = .ok document ∧
      Command.saveReport i.invocation i.showSymbols file output i.surroundings s = .ok () s' ∧
      (i.invocation.json = true → s'.shown = s.shown) ∧
      Keeps [place] s.logs.store s'.logs.store ∧
      s'.logs.store.fileAt place = some (Utf8.encode document.toList).toArray := by
  have hsave := Report.save_destination hs i.surroundings.occasion.precise file i.invocation.path
    i.showSymbols
  have hdocument := i.document_eq file
  rw [h] at hdocument
  obtain ⟨document, hok⟩ := hdocument
  rw [text_eq, hok] at hsave
  obtain ⟨later, hsaved, hkeeps, hfile, -⟩ := hsave
  unfold Command.saveReport
  rw [Command.get_bind, Command.read_bind, hsaved]
  cases hjson : i.invocation.json with
  | true =>
    exact ⟨document, { s with logs := { s.logs with store := later } }, hok, rfl, fun _ => rfl,
      hkeeps, hfile⟩
  | false => exact ⟨document, _, hok, rfl, nofun, hkeeps, hfile⟩

/-- A report that is asked for is saved. -/
theorem saving_eq (file : ElfFile) :
    i.saving file =
      match i.invocation.reportPath? with
      | some output => Command.saveReport i.invocation i.showSymbols file output
      | none => pure () := by
  unfold saving Invocation.reportPath?
  cases houtput : i.invocation.output with
  | none => rfl
  | some output =>
    by_cases hempty : output = ""
    · simp [Option.filter, hempty]
    · simp [Option.filter, hempty]

/-- The report can still be written when the file has been decoded. -/
theorem exists_place {output : String} (h : i.invocation.reportPath? = some output) :
    ∃ place, i.reportPlaces = [place] ∧
      i.closedLog.store.destination? (Path.normalize output) = some place := by
  obtain ⟨place, hplace, -⟩ := i.reported output h
  refine ⟨place, ?_, hplace⟩
  rw [reportPlaces, h, Option.bind_some]
  exact congrArg Option.toList hplace

/-! ### Runs after a load -/

variable {i} {file : ElfFile}

/-- A run that stops at a symbol table. -/
theorem run_of_failure {cause : DecodeError} (hload : i.load = .ok file)
    (h : file.firstFailure? (i.neededTables file) = some cause) :
    ∃ s, i.run = ⟨.stopped .reported, s⟩ ∧
      s.shown = (if i.invocation.json then "" else i.displayed file) ++ i.symbolLine cause ∧
      Keeps i.loggedPlaces i.store s.logs.store := by
  have hshown := i.shownText_of_failure h
  have hshowing := i.showing_eq file { logs := i.closedLog }
  rw [firstFailure?_neededTables] at h
  cases hfirst : file.firstFailure? (i.shownTables file) with
  | some first =>
    -- the table is needed for what is shown
    rw [hfirst, Option.some_or, Option.some.injEq] at h
    subst h
    rw [hfirst] at hshowing
    refine ⟨_, i.run_of_error ((i.interpret_of_ok hload).trans (Command.bind_error hshowing)), ?_,
      i.keeps_closedLog⟩
    rw [← hshown]
    exact congrArg (· ++ i.symbolLine first) String.empty_append
  | none =>
    -- the table is needed for the report only
    rw [hfirst, Option.none_or] at h
    rw [hfirst] at hshowing
    cases hreport : i.invocation.reportPath? with
    | none =>
      rw [hreport] at h
      cases h
    | some output =>
      rw [hreport, Option.isSome_some, if_pos rfl] at h
      obtain ⟨place, -, hplace⟩ := i.exists_place hreport
      obtain ⟨s, hsave, hs, hkeeps⟩ := i.saveReport_of_failure
        (s := { logs := i.closedLog, shown := "" ++ i.shownText file }) hplace h
      refine ⟨s, i.run_of_error ((i.interpret_of_ok hload).trans ?_), ?_, ?_⟩
      · rw [Command.bind_ok hshowing, saving_eq, hreport]
        exact hsave
      · rw [hs, ← hshown]
        exact congrArg (· ++ i.symbolLine cause) String.empty_append
      · exact i.keeps_closedLog.trans (hkeeps.mono (List.nil_subset _))

/-- A run that decodes all that it needs. -/
theorem run_of_success (hload : i.load = .ok file)
    (h : file.firstFailure? (i.neededTables file) = none) :
    ∃ s, i.run = ⟨.finished, s⟩ ∧
      (i.invocation.json = true →
        ∃ document, i.document file = .ok document ∧ s.shown = document ++ "\n") ∧
      (∀ place ∈ i.reportPlaces, ∃ document, i.document file = .ok document ∧
        s.logs.store.fileAt place = some (Utf8.encode document.toList).toArray) ∧
      Keeps (i.loggedPlaces ++ i.reportPlaces) i.store s.logs.store := by
  have hshowing := i.showing_eq file { logs := i.closedLog }
  rw [firstFailure?_neededTables, Option.or_eq_none_iff] at h
  obtain ⟨hfirst, hlast⟩ := h
  rw [hfirst] at hshowing
  -- the tables for what is shown are those of the document, if this is what is shown
  have hprinted (hjson : i.invocation.json = true) :
      ∃ document, i.document file = .ok document ∧ "" ++ i.shownText file = document ++ "\n" := by
    have hdocument := i.document_eq file
    rw [shownTables, if_pos hjson] at hfirst
    rw [hfirst] at hdocument
    obtain ⟨document, hok⟩ := hdocument
    exact ⟨document, hok, by rw [shownText, if_pos hjson, printed, hok, String.empty_append]⟩
  cases hreport : i.invocation.reportPath? with
  | none =>
    have hplaces : i.reportPlaces = [] := by rw [reportPlaces, hreport, Option.bind_none]; rfl
    refine ⟨{ logs := i.closedLog, shown := "" ++ i.shownText file },
      i.run_of_ok ((i.interpret_of_ok hload).trans ?_), hprinted, ?_, ?_⟩
    · rw [Command.bind_ok hshowing, saving_eq, hreport]
      rfl
    · rw [hplaces]
      exact fun _ hmem => absurd hmem List.not_mem_nil
    · exact i.keeps_closedLog.mono (List.subset_append_left _ _)
  | some output =>
    rw [hreport, Option.isSome_some, if_pos rfl] at hlast
    obtain ⟨place, hplaces, hplace⟩ := i.exists_place hreport
    obtain ⟨document, s, hok, hsave, hs, hkeeps, hfile⟩ := i.saveReport_of_success
      (s := { logs := i.closedLog, shown := "" ++ i.shownText file }) hplace hlast
    refine ⟨s, i.run_of_ok ((i.interpret_of_ok hload).trans ?_), fun hjson => ?_, ?_, ?_⟩
    · rw [Command.bind_ok hshowing, saving_eq, hreport]
      exact hsave
    · rw [hs hjson]
      exact hprinted hjson
    · rw [hplaces]
      intro other hmem
      rw [List.mem_singleton.mp hmem]
      exact ⟨document, hok, hfile⟩
    · rw [hplaces]
      exact (i.keeps_closedLog.mono (List.subset_append_left _ _)).trans
        (hkeeps.mono (List.subset_append_right _ _))

/-! ### All runs -/

variable (i) in
/-- The run decodes the file and all symbol tables that it needs. -/
def DecodesAll : Prop :=
  ∃ file, i.load = .ok file ∧ ∀ s ∈ i.neededTables file, ∃ symbols, file.symbols s = .ok symbols

variable {failure : LoadFailure}

/-- All that is needed decodes if none of the tables fails. -/
theorem decodesAll_iff_of_ok (hload : i.load = .ok file) :
    i.DecodesAll ↔ file.firstFailure? (i.neededTables file) = none := by
  rw [ElfFile.firstFailure?_eq_none_iff]
  constructor
  · rintro ⟨other, hother, htables⟩
    rw [hload, Except.ok.injEq] at hother
    exact hother ▸ htables
  · exact fun htables => ⟨file, hload, htables⟩

/-- The chunks of the run are more than the machine has room for, or more than can be asked for. -/
def Overreaches (i : Inspection) : Prop :=
  (i.surroundings.occasion.machine.room.limit : Int) ≤ Command.chunkSize i.config ∨
    (wordLimit : Int) ≤ Command.chunkSize i.config + stringOverhead

/-- A load that fails in no phase overreaches. -/
theorem overreaches_of_no_phase (hload : i.load = .error failure) (hphase : failure.phase = none) :
    i.Overreaches := by
  by_contra hnot
  obtain ⟨hroom, hsize⟩ := not_or.mp hnot
  -- the settings keep the chunk size positive, so that no read is a misuse for that reason
  have hpos := Config.one_le_chunkSize_of_loadOr i.configured
  have hgrants : i.device.medium.Grants (Command.chunkSize i.config).toNat :=
    Medium.file_grants (by omega) (by omega)
  obtain ⟨phase, hsome⟩ := Load.exists_phase_of_error _ hpos hgrants hload
  rw [hphase] at hsome
  cases hsome

/-- A run whose load fails writes nothing but its log. -/
theorem run_of_load_error (hload : i.load = .error failure) :
    ∃ stop s, i.run = ⟨.stopped stop, s⟩ ∧ Ending.exitCode (.stopped stop) = 1 ∧
      Keeps i.loggedPlaces i.store s.logs.store := by
  cases hphase : failure.phase with
  | some phase => exact ⟨_, _, i.run_of_phase hload hphase, rfl, i.keeps_closedLog⟩
  | none =>
    obtain ⟨cause, hrun⟩ := i.run_of_no_phase hload hphase
    exact ⟨_, _, hrun, rfl, i.keeps_closedLog⟩

/-- A run that does not decode all that it needs has the exit code 1 and writes nothing but its
    log. -/
theorem run_of_not_decodesAll (h : ¬ i.DecodesAll) :
    ∃ stop s, i.run = ⟨.stopped stop, s⟩ ∧ Ending.exitCode (.stopped stop) = 1 ∧
      Keeps i.loggedPlaces i.store s.logs.store := by
  cases hload : i.load with
  | error failure => exact run_of_load_error hload
  | ok file =>
    rw [decodesAll_iff_of_ok hload] at h
    obtain ⟨cause, hcause⟩ := Option.ne_none_iff_exists'.mp h
    obtain ⟨s, hrun, -, hkeeps⟩ := run_of_failure hload hcause
    exact ⟨_, s, hrun, rfl, hkeeps⟩

/-- The exit code tells whether all that is needed decodes. -/
theorem exitCode_eq_zero_iff_decodesAll : i.run.ending.exitCode = 0 ↔ i.DecodesAll := by
  constructor
  · intro hzero
    by_contra h
    obtain ⟨stop, s, hrun, hone, -⟩ := run_of_not_decodesAll h
    rw [hrun] at hzero
    exact absurd (hzero.symm.trans hone) Nat.zero_ne_one
  · intro h
    obtain ⟨file, hload, -⟩ := id h
    obtain ⟨s, hrun, -⟩ := run_of_success hload ((decodesAll_iff_of_ok hload).mp h)
    rw [hrun]
    rfl

/-- **Inspections.**  A run has the exit code 0 if it decodes the file and all symbol tables that it
    needs, and 1 otherwise.

    With 1 it ends with a line that names the phase in which the load has failed, or else with one
    that tells the symbol table's error.  Only if its chunks are larger than what the machine has
    room for, or what can be asked for, may a load fail in no phase, and then the run crashes and
    shows nothing.  No document is printed, and no file is changed but those of the log.

    With 0 the document is what is printed, if that is asked for, and what the report holds. -/
theorem run_outcome (i : Inspection) :
    (i.run.ending.exitCode = 0 ↔ i.DecodesAll) ∧
    (¬ i.DecodesAll → i.run.ending.exitCode = 1) ∧
    (∀ failure phase, i.load = .error failure → failure.phase = some phase →
      i.run.ending = .stopped .reported ∧ i.run.state.shown = i.loadLine phase failure.error) ∧
    (∀ failure, i.load = .error failure → failure.phase = none →
      i.Overreaches ∧ (∃ cause, i.run.ending = .stopped (.crash cause)) ∧ i.run.state.shown = "") ∧
    (∀ file cause, i.load = .ok file → file.firstFailure? (i.neededTables file) = some cause →
      i.run.ending = .stopped .reported ∧
        i.run.state.shown =
          (if i.invocation.json then "" else i.displayed file) ++ i.symbolLine cause) ∧
    (i.run.ending.exitCode = 1 → Keeps i.loggedPlaces i.store i.run.state.logs.store) ∧
    (i.run.ending.exitCode = 0 → ∃ file, i.load = .ok file ∧
      (i.invocation.json = true → ∃ document, i.document file = .ok document ∧
        i.run.state.shown = document ++ "\n") ∧
      (∀ place ∈ i.reportPlaces, ∃ document, i.document file = .ok document ∧
        i.run.state.logs.store.fileAt place = some (Utf8.encode document.toList).toArray) ∧
      Keeps (i.loggedPlaces ++ i.reportPlaces) i.store i.run.state.logs.store) := by
  have hzero := exitCode_eq_zero_iff_decodesAll (i := i)
  refine ⟨hzero, fun h => ?failed, fun failure phase hload hphase => ?phase,
    fun failure hload hphase => ?noPhase, fun file cause hload hcause => ?symbols,
    fun hone => ?kept, fun hexit => ?succeeded⟩
  case failed =>
    obtain ⟨stop, s, hrun, hone, -⟩ := run_of_not_decodesAll h
    rw [hrun, ← hone]
  case phase =>
    rw [i.run_of_phase hload hphase]
    exact ⟨rfl, String.empty_append⟩
  case noPhase =>
    obtain ⟨cause, hrun⟩ := i.run_of_no_phase hload hphase
    refine ⟨overreaches_of_no_phase hload hphase, ?_⟩
    rw [hrun]
    exact ⟨⟨_, rfl⟩, rfl⟩
  case symbols =>
    obtain ⟨s, hrun, hshown, -⟩ := run_of_failure hload hcause
    rw [hrun]
    exact ⟨rfl, hshown⟩
  case kept =>
    -- what is written is told apart by what is decoded, not by the exit code
    have hnot : ¬ i.DecodesAll := fun h => by rw [hzero.mpr h] at hone; cases hone
    obtain ⟨stop, s, hrun, -, hkeeps⟩ := run_of_not_decodesAll hnot
    rw [hrun]
    exact hkeeps
  case succeeded =>
    obtain ⟨file, hload, htables⟩ := hzero.mp hexit
    obtain ⟨s, hrun, hprinted, hsaved, hkeeps⟩ :=
      run_of_success hload (ElfFile.firstFailure?_eq_none_iff.mpr htables)
    rw [hrun]
    exact ⟨file, hload, hprinted, hsaved, hkeeps⟩

end Inspection

/-! ### Runs on small images -/

/-- Whether two values are the same text or the same integer. -/
def Value.sameScalar : Value → Value → Bool
  | .text s, .text t => s = t
  | .integer i, .integer j => i = j
  | _, _ => false

/-- Two scalars that look the same are the same. -/
theorem Value.eq_of_sameScalar {v w : Value} (h : v.sameScalar w = true) : v = w := by
  unfold sameScalar at h
  split at h
  · exact congrArg Value.text (of_decide_eq_true h)
  · exact congrArg Value.integer (of_decide_eq_true h)
  · cases h

/-- Whether a document that has been read consists of one setting. -/
def Toml.isSetting (name key : String) (value : Value) : Except Toml.Error Toml.Entries → Bool
  | .ok [(name', .table [(key', found)])] => name' = name && key' = key && found.sameScalar value
  | _ => false

/-- A document with one setting can be told by looking at it. -/
theorem Toml.eq_of_isSetting {name key : String} {value : Value}
    {document : Except Toml.Error Toml.Entries} (h : isSetting name key value document = true) :
    document = .ok [(name, .table [(key, value)])] := by
  unfold isSetting at h
  split at h
  · simp only [Bool.and_eq_true, decide_eq_true_eq] at h
    obtain ⟨⟨rfl, rfl⟩, hvalue⟩ := h
    rw [Value.eq_of_sameScalar hvalue]
  · cases h

/-- The settings of a file that holds a text. -/
theorem Config.ofFile_of_text {store : Store} {path : String} (location : List String)
    {text : List Char} {entries : Toml.Entries} {config : Config}
    (hentries : Toml.read text = .ok entries) (hconfig : ofEntries entries = .ok config)
    (hfind : store.find (Path.normalize path) = .ok (location, .file (Utf8.encode text).toArray)) :
    ofFile store path = .ok config := by
  simp only [ofFile, hfind, ofBytes, Utf8.decode_encode, hentries, hconfig]

namespace Inspection

/-- A 64-bit image of a file header and one section header. -/
def singleImage (sectionHeader : SectionHeader) : Bytes :=
  let e : Encoding := ⟨false, .little⟩
  let header : FileHeader := { shoff := 64, shnum := 1 }
  (Abi.magic ++ [2, 1, 1] ++ List.replicate 9 0 ++
    (FileHeader.layout e).encode e.order header ++
    (SectionHeader.layout e).encode e.order sectionHeader).toArray

/-- A store with an image, settings and a report. -/
def workplace (image : Bytes) (settings : String) : Store where
  files := [(["a.elf"], image), (["c.toml"], (Utf8.encode settings.toList).toArray),
    (["r.json"], #[111, 108, 100])]

/-- In this image the file header is at the same time a symbol table, with a name that is not
    there. -/
def strayImage : Bytes :=
  singleImage { type := Abi.sectionSymtab, size := 24 }

/-- Surroundings on a machine that has room for all that can be asked for. -/
def wideSurroundings : Surroundings where
  columns := 80
  occasion :=
    { toClock := default
      machine := { room := ⟨wordLimit, by decide⟩, textDepth := 8, jsonDepth := 8 } }
  settingsPath := "config.toml"

/-- A run that displays no symbol table, but is to save a report with one that does not decode. -/
def strayRun : Inspection where
  surroundings := wideSurroundings
  store := workplace strayImage "[global]\nlog_file = \"run.log\"\n"
  arguments := ["a.elf", "--section", "none", "--output", "r.json", "--config", "c.toml"]
  invocation :=
    { path := "a.elf", sectionName := some "none", output := some "r.json"
      config := some "c.toml" }
  config := { globalSettings := { logFile := .text "run.log" } }
  location := ["a.elf"]
  content := strayImage
  understood := eq_ok_of_toOption (by decide +kernel)
  configured := by
    have hread : Toml.read "[global]\nlog_file = \"run.log\"\n".toList =
        .ok [("global", .table [("log_file", .text "run.log")])] :=
      Toml.eq_of_isSetting (by decide +kernel)
    exact Config.ofFile_of_text ["c.toml"] hread rfl (eq_ok_of_toOption (by decide +kernel))
  declared := ⟨⟨"INFO", 20, rfl, eq_ok_of_toOption (by decide +kernel)⟩, .inr ⟨_, rfl⟩, ⟨200, rfl⟩⟩
  found := eq_ok_of_toOption (by decide +kernel)
  logged path h := by
    cases h
    exact ⟨["run.log"], by decide +kernel, by decide⟩
  movable h := absurd (by decide +kernel) h
  reported path h := by
    cases h
    exact ⟨["r.json"], by decide +kernel, by decide +kernel⟩

/-- What is displayed stays displayed, and the earlier report stays in place. -/
theorem run_outcome_strayRun :
    strayRun.run.ending.exitCode = 1 ∧
      (∃ file, strayRun.load = .ok file ∧ strayRun.run.state.shown =
        strayRun.displayed file ++ strayRun.symbolLine (.stringOutside 1179403647 24)) ∧
      strayRun.run.state.logs.store.fileAt ["r.json"] = some #[111, 108, 100] := by
  obtain ⟨hzero, hone, -, -, hsymbols, hkept, -⟩ := run_outcome strayRun
  have hfailure : (strayRun.load.toOption.bind fun file =>
      file.firstFailure? (strayRun.neededTables file)) = some (.stringOutside 1179403647 24) := by
    decide +kernel
  obtain ⟨file, hfile, hcause⟩ := Option.bind_eq_some_iff.mp hfailure
  have hload := eq_ok_of_toOption hfile
  -- the display needs the symbols, which do not decode
  have hexit : strayRun.run.ending.exitCode = 1 := by
    refine hone fun h => ?_
    rw [decodesAll_iff_of_ok hload, hcause] at h
    cases h
  obtain ⟨-, hshown⟩ := hsymbols file _ hload hcause
  have hreport : ["r.json"] ∉ strayRun.loggedPlaces := by decide +kernel
  refine ⟨hexit, ⟨file, hload, hshown⟩, ((hkept hexit).fileAt _ hreport).trans ?_⟩
  decide +kernel

/-- An image with a section of a size that no file can have. -/
def wideImage : Bytes :=
  singleImage { type := Abi.sectionProgbits, size := 9223372036854775807 }

/-- A run with settings that let this section be read at once. -/
def wideRun : Inspection where
  surroundings := wideSurroundings
  store := workplace wideImage "[decoder]\nread_chunk_size = 9223372036854775807\n"
  arguments := ["a.elf", "--config", "c.toml"]
  invocation := { path := "a.elf", config := some "c.toml" }
  config := { decoder := { readChunkSize := .integer 9223372036854775807 } }
  location := ["a.elf"]
  content := wideImage
  understood := eq_ok_of_toOption (by decide +kernel)
  configured := by
    have hread : Toml.read "[decoder]\nread_chunk_size = 9223372036854775807\n".toList =
        .ok [("decoder", .table [("read_chunk_size", .integer 9223372036854775807)])] :=
      Toml.eq_of_isSetting (by decide +kernel)
    exact Config.ofFile_of_text ["c.toml"] hread rfl (eq_ok_of_toOption (by decide +kernel))
  declared := ⟨⟨"INFO", 20, rfl, eq_ok_of_toOption (by decide +kernel)⟩, .inl rfl, ⟨200, rfl⟩⟩
  found := eq_ok_of_toOption (by decide +kernel)
  logged path h := by cases h
  movable h := absurd (by decide +kernel) h
  reported path h := by cases h

/-- The load fails, but no line says so: the run crashes. -/
theorem not_reported_wideRun :
    Command.chunkSize wideRun.config < wordLimit ∧ (∃ failure, wideRun.load = .error failure) ∧
      (∃ cause, wideRun.run.ending = .stopped (.crash cause)) ∧ wideRun.run.state.shown = "" := by
  -- the load fails, and not in any phase
  have hfailure : (match wideRun.load with
    | .error failure => failure.phase.isNone
    | .ok _ => false) = true := by decide +kernel
  cases hload : wideRun.load with
  | ok file =>
    rw [hload] at hfailure
    cases hfailure
  | error failure =>
    rw [hload] at hfailure
    obtain ⟨cause, hrun⟩ := wideRun.run_of_no_phase hload (Option.isNone_iff_eq_none.mp hfailure)
    rw [hrun]
    exact ⟨by decide, ⟨failure, rfl⟩, ⟨_, rfl⟩, rfl⟩

end Inspection

end ElfInspect
