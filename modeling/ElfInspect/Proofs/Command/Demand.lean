import ElfInspect.Command
import ElfInspect.Proofs.Symbols

namespace ElfInspect

/-!
# The symbol tables that a run needs

A run decodes symbol tables for what it displays and for what it reports, and stops at the first
that does not decode.

* `ElfFile.firstFailure?` — why the first of some tables that does not decode fails;
* `Display.failure_symbols`, `Report.text_of_firstFailure?` — displays and reports fail for this
  cause and for no other;
* `Invocation.neededTables` — the tables that an invocation needs, with
  `Invocation.firstFailure?_of_json` and `Invocation.firstFailure?_of_not_json` for their order.
-/

/-! ### Tables that do not decode -/

namespace ElfFile

variable {file : ElfFile} {tables : List Section} {cause : DecodeError}

/-- Why the symbols of a section cannot be had, if they cannot. -/
def symbolFailure? (file : ElfFile) (s : Section) : Option DecodeError :=
  match file.symbols s with
  | .ok _ => none
  | .error cause => some cause

/-- Why the first of some tables that does not decode fails. -/
def firstFailure? (file : ElfFile) (tables : List Section) : Option DecodeError :=
  tables.findSome? file.symbolFailure?

/-- A table fails with the cause for which its symbols do not decode. -/
theorem symbolFailure?_eq_some_iff {s : Section} :
    file.symbolFailure? s = some cause ↔ file.symbols s = .error cause := by
  unfold symbolFailure?
  cases file.symbols s <;> simp

/-- The first table fails, or else the first failure is among the others. -/
theorem firstFailure?_cons (s : Section) :
    file.firstFailure? (s :: tables) = (file.symbolFailure? s).or (file.firstFailure? tables) := by
  simp only [firstFailure?, List.findSome?_cons]
  cases file.symbolFailure? s <;> rfl

/-- The first failure of two lists is that of the first list, or else of the second. -/
theorem firstFailure?_append (more : List Section) :
    file.firstFailure? (tables ++ more) =
      (file.firstFailure? tables).or (file.firstFailure? more) :=
  List.findSome?_append

/-- There is none if all tables decode. -/
theorem firstFailure?_eq_none_iff :
    file.firstFailure? tables = none ↔ ∀ s ∈ tables, ∃ symbols, file.symbols s = .ok symbols := by
  rw [firstFailure?, List.findSome?_eq_none_iff]
  refine forall₂_congr fun s _ => ?_
  unfold symbolFailure?
  cases file.symbols s <;> simp

/-- The symbols of a section fail by its bytes, by its names or by its link. -/
theorem isInputFault_of_symbols {s : Section} (h : file.symbols s = .error cause) :
    cause.isInputFault = true := by
  have hare := symbolsAre_symbols file s
  rw [h] at hare
  cases hare with
  | outside => rfl
  | name _ _ _ _ fault => cases fault <;> rfl
  | rest => rfl

/-- A table that fails is a fault of the input. -/
theorem isInputFault_of_firstFailure? (h : file.firstFailure? tables = some cause) :
    cause.isInputFault = true := by
  obtain ⟨s, -, hs⟩ := List.exists_of_findSome?_eq_some h
  exact isInputFault_of_symbols (symbolFailure?_eq_some_iff.mp hs)

end ElfFile

/-! ### Displays and reports -/

namespace Display

variable (file : ElfFile) (limit : Int) (tables : List Section)

/-- Tables are shown up to the first that does not decode. -/
theorem failure_symbolTables :
    (symbolTables file limit tables).2 = file.firstFailure? tables := by
  induction tables with
  | nil => rfl
  | cons s rest ih =>
    rw [ElfFile.firstFailure?_cons, ElfFile.symbolFailure?, symbolTables]
    cases file.symbols s with
    | error cause => rfl
    | ok symbols => exact ih

/-- The tables that a display needs. -/
def neededTables (options : DisplayOptions) (file : ElfFile) (symbolsFor : Option String) :
    List Section :=
  match symbolsFor with
  | some name => (file.section? name).toList
  | none => if options.showSymbols then file.symbolTables else []

/-- A display stops at the first of the tables that it needs and that fails. -/
theorem failure_symbols (options : DisplayOptions) (symbolsFor : Option String) :
    (symbols options file symbolsFor).2 =
      file.firstFailure? (neededTables options file symbolsFor) := by
  unfold symbols neededTables
  cases symbolsFor with
  | some name =>
    cases hsection : file.section? name with
    | none => simp only [hsection, Option.toList_none]; rfl
    | some s => simp only [hsection, Option.toList_some, failure_symbolTables]
  | none =>
    dsimp only
    split
    · exact failure_symbolTables file _ _
    · rfl

end Display

namespace Report

variable {file : ElfFile}

/-- The tables that a report needs. -/
def neededTables (file : ElfFile) (includeSymbols : Bool) : List Section :=
  if includeSymbols then file.symbolTables else []

variable (file) in
/-- A report has all symbol tables, or fails with the cause of the first that fails. -/
theorem mapM_symbolTable (tables : List Section) :
    match file.firstFailure? tables with
    | some cause => tables.mapM (symbolTable file) = .error cause
    | none => ∃ entries, tables.mapM (symbolTable file) = .ok entries := by
  induction tables with
  | nil => exact ⟨[], rfl⟩
  | cons s rest ih =>
    rw [ElfFile.firstFailure?_cons, ElfFile.symbolFailure?, List.mapM_cons]
    cases hsymbols : file.symbols s with
    | error cause =>
      have hentry : symbolTable file s = .error cause := by
        rw [symbolTable, hsymbols, error_bind]
      rw [hentry]
      rfl
    | ok symbols =>
      obtain ⟨entry, hentry⟩ : ∃ entry, symbolTable file s = .ok entry := by
        rw [symbolTable, hsymbols, ok_bind]
        exact ⟨_, rfl⟩
      rw [hentry, ok_bind, Option.none_or]
      -- the first table decodes, so that the others decide
      cases hrest : file.firstFailure? rest with
      | some cause =>
        rw [hrest] at ih
        dsimp only at ih ⊢
        rw [ih, error_bind]
      | none =>
        rw [hrest] at ih
        obtain ⟨entries, hentries⟩ := ih
        exact ⟨entry :: entries, by rw [hentries]; rfl⟩

/-- **Reports.**  A report can be made unless a table that it needs does not decode. -/
theorem text_of_firstFailure? (generatedAt : String) (file : ElfFile) (source : String)
    (includeSymbols : Bool) :
    match file.firstFailure? (neededTables file includeSymbols) with
    | some cause => text generatedAt file source includeSymbols = .error cause
    | none => ∃ document, text generatedAt file source includeSymbols = .ok document := by
  unfold text value entries neededTables
  cases includeSymbols with
  | false => exact ⟨_, rfl⟩
  | true =>
    -- everything else in a report is there anyway
    have htables := mapM_symbolTable file file.symbolTables
    rw [if_pos rfl, if_pos rfl, symbolTables]
    cases hfailure : file.firstFailure? file.symbolTables with
    | some cause =>
      rw [hfailure] at htables
      dsimp only at htables ⊢
      rw [htables]
      rfl
    | none =>
      rw [hfailure] at htables
      obtain ⟨tables, htables⟩ := htables
      rw [htables]
      exact ⟨_, rfl⟩

end Report

/-! ### Invocations -/

namespace Invocation

/-- The path of the report, if one is asked for. -/
def reportPath? (invocation : Invocation) : Option String :=
  invocation.output.filter (· ≠ "")

/-- Whether symbols are shown: as the command line says, or else as the settings do. -/
def showsSymbols (invocation : Invocation) (settings : DisplaySettings) : Bool :=
  invocation.symbols.getD settings.showSymbols.isTruthy

/-- The tables that an invocation needs: the first section of the name that is asked for unless a
    document is printed, and all symbol tables if symbols are shown and there is a document, a
    report, or no such name. -/
def neededTables (invocation : Invocation) (showSymbols : Bool) (file : ElfFile) : List Section :=
  (if invocation.json then [] else (invocation.sectionName.bind file.section?).toList) ++
    if showSymbols ∧ (invocation.json ∨ invocation.reportPath?.isSome ∨
      invocation.sectionName = none) then file.symbolTables else []

variable {invocation : Invocation}

/-- With a document, a report needs nothing more. -/
theorem firstFailure?_of_json (h : invocation.json = true) (showSymbols : Bool) (file : ElfFile) :
    file.firstFailure? (invocation.neededTables showSymbols file) =
      file.firstFailure? (Report.neededTables file showSymbols) := by
  simp [neededTables, Report.neededTables, h]

/-- Without a document, the display comes first and then the report if there is one. -/
theorem firstFailure?_of_not_json (h : invocation.json = false) (options : DisplayOptions)
    (file : ElfFile) :
    file.firstFailure? (invocation.neededTables options.showSymbols file) =
      (file.firstFailure? (Display.neededTables options file invocation.sectionName)).or
        (if invocation.reportPath?.isSome then
          file.firstFailure? (Report.neededTables file options.showSymbols) else none) := by
  have hnone : file.firstFailure? [] = none := rfl
  unfold neededTables Display.neededTables Report.neededTables
  rw [ElfFile.firstFailure?_append]
  cases hname : invocation.sectionName <;> cases hreport : invocation.reportPath? <;>
    cases options.showSymbols <;> simp [h, hnone]

end Invocation

end ElfInspect
