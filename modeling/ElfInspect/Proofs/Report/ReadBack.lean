import Mathlib.Data.List.Forall2
import ElfInspect.Report
import ElfInspect.Proofs.Agreement
import ElfInspect.Proofs.Json.RoundTrip

namespace ElfInspect

/-!
# Reading a report back

A report is a value with a JSON form, and what it says of a file can be read from it: the file
header, the program headers, a summary of each section and the symbols.

* `SectionSummary`, `ReportContents` — what a report says of a section and of a file;
* `ReportContents.ofReport?` — what a report says, read from the entries of the report;
* `Report.ofReport?_entries` — a report says of a file what the file is;
* `Report.isJson_entries` — reports have a JSON form.
-/

/-! ### Reading entries -/

namespace Value

/-- The natural number under a key. -/
def natAt? (v : Value) (key : String) : Option Nat :=
  match v.get? key with
  | some (.integer (.ofNat n)) => some n
  | _ => none

/-- The text under a key. -/
def textAt? (v : Value) (key : String) : Option String :=
  match v.get? key with
  | some (.text s) => some s
  | _ => none

/-- The items of the list under a key. -/
def itemsAt? (v : Value) (key : String) : Option (List Value) :=
  match v.get? key with
  | some (.list items) => some items
  | _ => none

end Value

/-- The file header that an entry of a report stands for. -/
def FileHeader.ofReport? (v : Value) : Option FileHeader := do
  return {
    elfClass := ← v.natAt? "elf_class", data := ← v.natAt? "endianness"
    version := ← v.natAt? "version", type := ← v.natAt? "elftype", machine := ← v.natAt? "arch"
    osAbi := ← v.natAt? "osabi", abiVersion := ← v.natAt? "abiversion"
    entry := ← v.natAt? "e_entry", phoff := ← v.natAt? "e_phoff", shoff := ← v.natAt? "e_shoff"
    flags := ← v.natAt? "e_flags", ehsize := ← v.natAt? "e_ehsize"
    phentsize := ← v.natAt? "e_phentsize", phnum := ← v.natAt? "e_phnum"
    shentsize := ← v.natAt? "e_shentsize", shnum := ← v.natAt? "e_shnum"
    shstrndx := ← v.natAt? "e_shstrndx" }

/-- The program header that an entry of a report stands for. -/
def ProgramHeader.ofReport? (v : Value) : Option ProgramHeader := do
  return {
    type := ← v.natAt? "p_type", flags := ← v.natAt? "p_flags", offset := ← v.natAt? "p_offset"
    vaddr := ← v.natAt? "p_vaddr", paddr := ← v.natAt? "p_paddr", filesz := ← v.natAt? "p_filesz"
    memsz := ← v.natAt? "p_memsz", align := ← v.natAt? "p_align" }

/-- What a report says of a section in numbers and by its name. -/
structure SectionSummary where
  index : Nat
  name : String
  addr : Nat
  offset : Nat
  size : Nat
  link : Nat
  loadedBytes : Nat
  deriving Repr, DecidableEq

/-- The summary of the section with a given index. -/
def SectionSummary.of (index : Nat) (s : Section) : SectionSummary :=
  { index, name := s.name, addr := s.header.addr, offset := s.header.offset
    size := s.header.size, link := s.header.link, loadedBytes := s.data.size }

/-- The summary that an entry of a report stands for. -/
def SectionSummary.ofReport? (v : Value) : Option SectionSummary := do
  return {
    index := ← v.natAt? "index", name := ← v.textAt? "name", addr := ← v.natAt? "addr"
    offset := ← v.natAt? "offset", size := ← v.natAt? "size", link := ← v.natAt? "link"
    loadedBytes := ← v.natAt? "loaded_bytes" }

/-- The symbol that an entry of a report stands for. -/
def Symbol.ofReport? (v : Value) : Option Symbol := do
  return {
    name := ← v.textAt? "name", value := ← v.natAt? "value", size := ← v.natAt? "size"
    shndx := ← v.natAt? "shndx", type := ← v.natAt? "symtype", binding := ← v.natAt? "bind"
    visibility := ← v.natAt? "vis" }

/-- The symbols of a table under the name of its section. -/
structure NamedSymbols where
  tableName : String
  symbols : List Symbol
  deriving Repr, DecidableEq

/-- The symbols that an entry of a report stands for. -/
def NamedSymbols.ofReport? (v : Value) : Option NamedSymbols := do
  return { tableName := ← v.textAt? "section"
           symbols := ← (← v.itemsAt? "symbols").mapM Symbol.ofReport? }

/-- The symbol tables of a report, if there are any in it. -/
def NamedSymbols.tablesOf? (v : Value) : Option (Option (List NamedSymbols)) :=
  match v.itemsAt? "symbol_tables" with
  | none => some none
  | some tables => (tables.mapM ofReport?).map some

/-- What a report says of a file. -/
structure ReportContents where
  header : FileHeader
  segments : List ProgramHeader
  sections : List SectionSummary
  symbolTables : Option (List NamedSymbols)
  deriving Repr, DecidableEq

/-- What a report says, read from its entries. -/
def ReportContents.ofReport? (v : Value) : Option ReportContents := do
  return {
    header := ← FileHeader.ofReport? (← v.get? "header")
    segments := ← (← v.itemsAt? "segments").mapM ProgramHeader.ofReport?
    sections := ← (← v.itemsAt? "sections").mapM SectionSummary.ofReport?
    symbolTables := ← NamedSymbols.tablesOf? v }

/-! ### Single entries -/

/-- The file header is read back from the report. -/
@[simp]
theorem FileHeader.ofReport?_header (h : FileHeader) :
    FileHeader.ofReport? (Report.header h) = some h := rfl

/-- A segment is read back from the report. -/
@[simp]
theorem ProgramHeader.ofReport?_segment (h : ProgramHeader) :
    ProgramHeader.ofReport? (Report.segment h) = some h := rfl

/-- What the report says of a section is read back. -/
@[simp]
theorem SectionSummary.ofReport?_sectionSummary (index : Nat) (s : Section) :
    SectionSummary.ofReport? (Report.sectionSummary index s) = some (.of index s) := rfl

/-- A symbol is read back from the report. -/
@[simp]
theorem Symbol.ofReport?_entries (s : Symbol) :
    Symbol.ofReport? (.table s.entries) = some s := rfl

/-! ### Lists of entries -/

/-- Items that are read one by one, each of which is read as what it has been made from. -/
theorem mapM_mapIdx {α β γ : Type} {f : Nat → α → β} {g : β → Option γ} {h : Nat → α → γ}
    (hread : ∀ i a, g (f i a) = some (h i a)) (items : List α) :
    (items.mapIdx f).mapM g = some (items.mapIdx h) := by
  induction items generalizing f h with
  | nil => rfl
  | cons a items ih =>
    rw [List.mapIdx_cons, List.mapM_cons, hread, ih fun i => hread (i + 1), List.mapIdx_cons]
    rfl

/-- What is read back one by one is read back from a list. -/
theorem mapM_map {α β : Type} {f : α → β} {g : β → Option α} (hread : ∀ a, g (f a) = some a)
    (items : List α) : (items.map f).mapM g = some items := by
  rw [map_eq_mapIdx, mapM_mapIdx (h := fun _ a => a) fun _ => hread, ← map_eq_mapIdx, List.map_id']

/-- The symbols of a section are read back with its name. -/
@[simp]
theorem NamedSymbols.ofReport?_symbolsEntry (s : Section) (symbols : List Symbol) :
    NamedSymbols.ofReport? (Display.symbolsEntry s symbols) = some ⟨s.name, symbols⟩ := by
  have hsymbols := mapM_map Symbol.ofReport?_entries symbols
  have hname : (Display.symbolsEntry s symbols).textAt? "section" = some s.name := rfl
  have hitems : (Display.symbolsEntry s symbols).itemsAt? "symbols" =
      some (symbols.map fun s => .table s.entries) := rfl
  unfold ofReport?
  rw [hname, hitems, Option.bind_eq_bind, Option.bind_some, Option.bind_eq_bind, Option.bind_some,
    hsymbols]
  rfl

/-- What a loop over a list comes to, item by item. -/
theorem forall₂_of_mapM {ε α β : Type} {f : α → Except ε β} {items : List α} {results : List β}
    (h : items.mapM f = .ok results) :
    List.Forall₂ (fun item result => f item = .ok result) items results := by
  induction items generalizing results with
  | nil =>
    cases h
    exact .nil
  | cons item items ih =>
    rw [List.mapM_cons] at h
    obtain ⟨result, hitem, hrest⟩ := exists_of_bind_eq_ok h
    obtain ⟨later, hlater, hresults⟩ := exists_of_bind_eq_ok hrest
    cases hresults
    exact .cons hitem (ih hlater)

namespace Report

variable {file : ElfFile}

/-- What it takes for a symbol table to be reported. -/
theorem symbolTable_eq_ok {s : Section} {entry : Value} (h : symbolTable file s = .ok entry) :
    ∃ symbols, file.symbols s = .ok symbols ∧ entry = Display.symbolsEntry s symbols := by
  obtain ⟨symbols, hsymbols, hentry⟩ := exists_of_bind_eq_ok h
  exact ⟨symbols, hsymbols, (Except.ok.inj hentry).symm⟩

/-- The entries of symbol tables are read as the symbols of their sections. -/
theorem ofReport?_symbolTables {tables : List Section} {items : List Value}
    (h : List.Forall₂ (fun s item => symbolTable file s = .ok item) tables items) :
    ∃ named, items.mapM NamedSymbols.ofReport? = some named ∧
      List.Forall₂ (fun s t => t.tableName = s.name ∧ file.symbols s = .ok t.symbols)
        tables named := by
  induction h with
  | nil => exact ⟨[], rfl, .nil⟩
  | @cons s _ _ _ hentry _ ih =>
    obtain ⟨symbols, hsymbols, rfl⟩ := symbolTable_eq_ok hentry
    obtain ⟨named, hnamed, hall⟩ := ih
    refine ⟨⟨s.name, symbols⟩ :: named, ?_, .cons ⟨rfl, hsymbols⟩ hall⟩
    rw [List.mapM_cons, NamedSymbols.ofReport?_symbolsEntry, hnamed]
    rfl

/-! ### Whole reports -/

/-- The time of a report stands before the rest of it. -/
theorem value_eq (generatedAt : String) (file : ElfFile) (source : String)
    (includeSymbols : Bool) :
    value generatedAt file source includeSymbols = (entries file source includeSymbols).map
      fun rest => .table (("generated_at", .text generatedAt) :: rest) := by
  unfold value
  cases entries file source includeSymbols <;> rfl

variable {source : String} {includeSymbols : Bool} {rest : List (String × Value)}

/-- What a report consists of beside its time. -/
theorem entries_eq_ok (h : entries file source includeSymbols = .ok rest) :
    if includeSymbols then
      ∃ tables, file.symbolTables.mapM (symbolTable file) = .ok tables ∧
        rest = body file source ++ [("symbol_tables", .list tables)]
    else rest = body file source := by
  cases includeSymbols with
  | false => exact (Except.ok.inj h).symm
  | true =>
    rw [if_pos rfl]
    obtain ⟨list, hlist, hrest⟩ := exists_of_bind_eq_ok h
    obtain ⟨tables, htables, hlisted⟩ := exists_of_bind_eq_ok hlist
    cases hlisted
    exact ⟨tables, htables, (Except.ok.inj hrest).symm⟩

/-- **Reading a report back.**  The report of a file says the file header, the program headers, the
    summary of each section and, if it has symbols, those of each symbol table. -/
theorem ofReport?_entries (h : entries file source includeSymbols = .ok rest)
    (generatedAt : String) :
    ∃ symbolTables,
      ReportContents.ofReport? (.table (("generated_at", .text generatedAt) :: rest)) = some
        { header := file.header, segments := file.segments
          sections := file.sections.mapIdx SectionSummary.of, symbolTables } ∧
      if includeSymbols then
        ∃ named, symbolTables = some named ∧
          List.Forall₂ (fun s t => t.tableName = s.name ∧ file.symbols s = .ok t.symbols)
            file.symbolTables named
      else symbolTables = none := by
  have hsegments := mapM_map ProgramHeader.ofReport?_segment file.segments
  have hsections := mapM_mapIdx SectionSummary.ofReport?_sectionSummary file.sections
  -- what comes behind the sections makes no difference to what stands before it
  have hcontents (more : List (String × Value)) :
      ReportContents.ofReport? (.table (("generated_at", .text generatedAt) ::
          (body file source ++ more))) =
        (NamedSymbols.tablesOf? (.table more)).map fun symbolTables =>
          { header := file.header, segments := file.segments
            sections := file.sections.mapIdx SectionSummary.of, symbolTables } := by
    show (do return {
          header := ← FileHeader.ofReport? (header file.header)
          segments := ← (file.segments.map segment).mapM ProgramHeader.ofReport?
          sections := ← (file.sections.mapIdx sectionSummary).mapM SectionSummary.ofReport?
          symbolTables := ← NamedSymbols.tablesOf? (.table more) } : Option ReportContents) = _
    rw [FileHeader.ofReport?_header, hsegments, hsections]
    cases NamedSymbols.tablesOf? (.table more) <;> rfl
  have hrest := entries_eq_ok h
  cases includeSymbols with
  | false =>
    rw [if_neg nofun] at hrest
    have hbody := hcontents []
    rw [List.append_nil, ← hrest] at hbody
    exact ⟨none, hbody, rfl⟩
  | true =>
    rw [if_pos rfl] at hrest
    obtain ⟨tables, htables, rfl⟩ := hrest
    obtain ⟨named, hnamed, hall⟩ := ofReport?_symbolTables (forall₂_of_mapM htables)
    have htablesOf : NamedSymbols.tablesOf? (.table [("symbol_tables", .list tables)]) =
        some (some named) := congrArg (Option.map some) hnamed
    refine ⟨some named, ?_, named, rfl, hall⟩
    rw [hcontents, htablesOf, Option.map_some]

/-! ### JSON forms -/

/-- Whether a value is a text or an integer. -/
def isScalar : Value → Bool
  | .text _ | .integer _ => true
  | _ => false

/-- A table of scalars can be written. -/
theorem isJson_of_isScalar {entries : List (String × Value)}
    (h : entries.all (fun entry => isScalar entry.2) = true) : Value.IsJson (.table entries) := by
  refine .table entries fun entry hentry => ?_
  have hscalar := List.all_eq_true.mp h entry hentry
  cases hvalue : entry.2 with
  | text s => exact .text s
  | integer i => exact .integer i
  | _ =>
    rw [hvalue] at hscalar
    cases hscalar

/-- The symbols of a section can be written. -/
theorem isJson_symbolsEntry (s : Section) (symbols : List Symbol) :
    (Display.symbolsEntry s symbols).IsJson := by
  refine .table _ (List.forall_mem_cons.mpr ⟨.text _, List.forall_mem_singleton.mpr (.list _ ?_)⟩)
  exact List.forall_mem_map.mpr fun symbol _ => isJson_of_isScalar rfl

/-- So can all symbol tables. -/
theorem isJson_symbolTables {tables : List Section} {items : List Value}
    (h : List.Forall₂ (fun s item => symbolTable file s = .ok item) tables items) :
    ∀ item ∈ items, item.IsJson := by
  induction h with
  | nil => exact nofun
  | cons hentry _ ih =>
    obtain ⟨symbols, -, rfl⟩ := symbolTable_eq_ok hentry
    exact List.forall_mem_cons.mpr ⟨isJson_symbolsEntry _ symbols, ih⟩

/-- So can everything else in a report. -/
theorem isJson_body (file : ElfFile) (source : String) :
    ∀ entry ∈ body file source, entry.2.IsJson := by
  have hsegments : ∀ v ∈ file.segments.map segment, v.IsJson :=
    List.forall_mem_map.mpr fun h _ => isJson_of_isScalar rfl
  have hsections : ∀ v ∈ file.sections.mapIdx sectionSummary, v.IsJson := by
    intro v hv
    obtain ⟨i, hi, rfl⟩ := List.mem_mapIdx.mp hv
    exact isJson_of_isScalar rfl
  simp only [body, List.forall_mem_cons]
  exact ⟨.text source, isJson_of_isScalar rfl, .list _ hsegments, .list _ hsections, nofun⟩

/-- Reports have a JSON form. -/
theorem isJson_entries (h : entries file source includeSymbols = .ok rest) (generatedAt : String) :
    Value.IsJson (.table (("generated_at", .text generatedAt) :: rest)) := by
  refine .table _ (List.forall_mem_cons.mpr ⟨.text generatedAt, ?_⟩)
  have hrest := entries_eq_ok h
  cases includeSymbols with
  | false =>
    rw [if_neg nofun] at hrest
    exact hrest ▸ isJson_body file source
  | true =>
    rw [if_pos rfl] at hrest
    obtain ⟨tables, htables, rfl⟩ := hrest
    exact List.forall_mem_append.mpr ⟨isJson_body file source,
      List.forall_mem_singleton.mpr (.list _ (isJson_symbolTables (forall₂_of_mapM htables)))⟩

end Report

end ElfInspect
