import Mathlib.Data.List.Forall2
import ElfInspect.Display
import ElfInspect.Report
import ElfInspect.Proofs.Hex
import ElfInspect.Proofs.Yields

namespace ElfInspect

/-!
# What is displayed and what is reported

A file can be displayed as tables and reported as a value.  Both come from the same decoded file,
but in different ways, and nothing is passed from one to the other.  Still each row that is
displayed shows an entry that is reported, and the same symbol table stops both.

* `Manner.Shows` — how a cell shows a value;
* `TableShows`, `ListShows`, `SymbolsShow` — the rows of a table show the entries of a report;
* `Display.segments_show`, `Display.sections_show`, `Display.symbolTable_shows` — the parts of a
  display;
* `Display.symbolTables_show` — symbol tables one after another, up to the first that does not
  decode;
* `Display.run_shows_report` — a whole display and a whole report.
-/

open Abi

/-! ### Cells -/

/-- In what manner a cell shows a value. -/
inductive Manner
  | text
  | decimal
  /-- A number with something said of it. -/
  | noted (note : String)
  | hex
  /-- A code by its name. -/
  | code (kind : CodeKind)
  | sectionIndex

/-- The cell shows the value in the manner given. -/
inductive Manner.Shows : Manner → String → Value → Prop
  | text (cell : String) : Shows .text cell (.text cell)
  | decimal (i : Int) : Shows .decimal (intText i) (.integer i)
  | noted (note : String) (n : Nat) : Shows (.noted note) (toString n ++ note) (.integer n)
  | hex {cell : String} {n : Nat} (h : hexValue? cell = some n) : Shows .hex cell (.integer n)
  | code (kind : CodeKind) (n : Nat) : Shows (.code kind) (kind.describe n) (.integer n)
  | sectionIndex (n : Nat) : Shows .sectionIndex (describeSectionIndex n) (.integer n)

/-- A padded number shows itself. -/
theorem Manner.Shows.hexPadded (width n : Nat) :
    Manner.hex.Shows (hexPadded width n) (.integer n) :=
  .hex (hexValue?_hexPadded width n)

/-! ### Tables -/

/-- Where the cells of a column come from: the number of the row, or a field of what it shows. -/
inductive CellSource
  | number
  | field (key : String) (manner : Manner)

/-- The cell of a row shows what it should of an entry of a report. -/
inductive CellSource.Shows (number : Nat) (entry : Value) : CellSource → String → Prop
  | number : Shows number entry .number (intText number)
  | field {key : String} {manner : Manner} {cell : String} {v : Value}
    (hfield : entry.get? key = some v) (hshows : manner.Shows cell v) :
    Shows number entry (.field key manner) cell

/-- The columns of a table show fields of the entries of a report, one row for each entry. -/
structure TableShows (columns : List (String × CellSource)) (t : Table) (entries : List Value) :
    Prop where
  titles : t.columns = columns.map Prod.fst
  length_eq : t.rows.length = entries.length
  rows : ∀ i row entry, t.rows[i]? = some row → entries[i]? = some entry →
    List.Forall₂ (fun column cell => CellSource.Shows i entry column.2 cell) columns row

/-- The calls show a list of entries under a title: in a table, or by a note if there are none. -/
inductive ListShows (title note : String) (columns : List (String × CellSource)) :
    List ConsoleCall → List Value → Prop
  | empty : ListShows title note columns [.heading title, .message .info note] []
  | table {t : Table} {entries : List Value} (hne : entries ≠ []) (htitle : t.title = title)
    (hrows : TableShows columns t entries) :
    ListShows title note columns [.heading title, .table t] entries

theorem map_eq_mapIdx {α β : Type} (f : α → β) (items : List α) :
    items.map f = items.mapIdx fun _ => f :=
  List.ext_getElem? fun i => by rw [List.getElem?_map, List.getElem?_mapIdx]

/-- Rows that come from the same items as the entries do. -/
theorem TableShows.of_items {α : Type} {columns : List (String × CellSource)} {t : Table}
    {items : List α} {row : Nat → α → List String} {entry : Nat → α → Value}
    (htitles : t.columns = columns.map Prod.fst) (hrows : t.rows = items.mapIdx row)
    (h : ∀ i item, List.Forall₂ (fun column cell => CellSource.Shows i (entry i item) column.2 cell)
      columns (row i item)) :
    TableShows columns t (items.mapIdx entry) := by
  refine ⟨htitles, by rw [hrows, List.length_mapIdx, List.length_mapIdx], ?_⟩
  intro i shown value hshown hvalue
  rw [hrows, List.getElem?_mapIdx] at hshown
  rw [List.getElem?_mapIdx] at hvalue
  -- row and entry at an index come from the same item
  cases hitem : items[i]? with
  | none =>
    rw [hitem] at hshown
    cases hshown
  | some item =>
    rw [hitem] at hshown hvalue
    cases hshown
    cases hvalue
    exact h i item

/-- A list is empty where the items behind it are. -/
theorem ListShows.of_items {α : Type} {title note : String} {columns : List (String × CellSource)}
    {t : Table} {items : List α} {entries : List Value} (htitle : t.title = title)
    (hlength : entries.length = items.length) (h : TableShows columns t entries) :
    ListShows title note columns
      [.heading title, if items.isEmpty then .message .info note else .table t] entries := by
  cases items with
  | nil =>
    rw [List.length_eq_zero_iff.mp hlength]
    exact .empty
  | cons item rest =>
    refine .table ?_ htitle h
    intro hnil
    rw [hnil] at hlength
    cases hlength

/-! ### The parts of a display -/

/-- The rows of the table of a file header: what stands in them and where it comes from. -/
def headerFields : List (String × String × Manner) :=
  [("Class", "class_name", .text),
   ("Data", "data_name", .text),
   ("Version", "version", .decimal),
   ("OS/ABI", "osabi_name", .text),
   ("ABI Version", "abiversion", .decimal),
   ("Type", "type_name", .text),
   ("Machine", "machine_name", .text),
   ("Entry point address", "e_entry", .hex),
   ("Start of program headers", "e_phoff", .noted " (bytes into file)"),
   ("Start of section headers", "e_shoff", .noted " (bytes into file)"),
   ("Flags", "e_flags", .hex),
   ("Size of this header", "e_ehsize", .noted " (bytes)"),
   ("Size of program headers", "e_phentsize", .noted " (bytes)"),
   ("Number of program headers", "e_phnum", .decimal),
   ("Size of section headers", "e_shentsize", .noted " (bytes)"),
   ("Number of section headers", "e_shnum", .decimal),
   ("Section header string table index", "e_shstrndx", .decimal)]

/-- The columns of the table of program headers. -/
def segmentColumns : List (String × CellSource) :=
  [("Type", .field "type_name" .text), ("Offset", .field "p_offset" .hex),
   ("VirtAddr", .field "p_vaddr" .hex), ("PhysAddr", .field "p_paddr" .hex),
   ("FileSiz", .field "p_filesz" .hex), ("MemSiz", .field "p_memsz" .hex),
   ("Flg", .field "flags_str" .text), ("Align", .field "p_align" .hex)]

/-- The columns of the table of section headers. -/
def sectionColumns : List (String × CellSource) :=
  [("Nr", .field "index" .decimal), ("Name", .field "name" .text), ("Type", .field "type" .text),
   ("Address", .field "addr" .hex), ("Off", .field "offset" .hex), ("Size", .field "size" .hex),
   ("Flg", .field "flags" .text), ("Lk", .field "link" .decimal),
   ("Loaded", .field "loaded_bytes" .decimal)]

/-- The columns of a symbol table. -/
def symbolColumns : List (String × CellSource) :=
  [("Num", .number), ("Value", .field "value" .hex), ("Size", .field "size" .decimal),
   ("Type", .field "symtype" (.code .symbolType)),
   ("Bind", .field "bind" (.code .symbolBinding)),
   ("Vis", .field "vis" (.code .symbolVisibility)), ("Ndx", .field "shndx" .sectionIndex),
   ("Name", .field "name" .text)]

/-- The row shows a field of an entry of a report behind what it is called. -/
inductive FieldShows (entry : Value) : String × String × Manner → List String → Prop
  | row {title key : String} {manner : Manner} {cell : String} {v : Value}
    (hfield : entry.get? key = some v) (hshows : manner.Shows cell v) :
    FieldShows entry (title, key, manner) [title, cell]

/-- The calls show the header of a report, one row for each of the fields. -/
def HeaderShows (calls : List ConsoleCall) (entry : Value) : Prop :=
  ∃ t : Table, calls = [.heading "ELF Header", .table t] ∧ t.title = "ELF Header" ∧
    t.columns = ["Field", "Value"] ∧ List.Forall₂ (FieldShows entry) headerFields t.rows

/-- How many of the entries a limit leaves. -/
def shownCount (limit : Int) (count : Nat) : Nat :=
  if 0 < limit ∧ limit < count then limit.toNat else count

/-- The calls show the symbols of one table of a report, as far as the limit allows. -/
def SymbolsShow (limit : Int) (calls : List ConsoleCall) (entry : Value) : Prop :=
  ∃ (name : String) (symbols : List Value) (t : Table),
    entry.get? "section" = some (.text name) ∧ entry.get? "symbols" = some (.list symbols) ∧
    calls = [.heading s!"Symbol table '{name}'", .table t] ∧
    t.title = s!"Symbol table '{name}' contains {symbols.length} entries" ∧
    TableShows symbolColumns t (symbols.take (shownCount limit symbols.length)) ∧
    t.caption =
      if shownCount limit symbols.length < symbols.length then
        some s!"{symbols.length - shownCount limit symbols.length} more symbols not shown"
      else none

namespace Display

/-- The row of a segment shows its entry in the report, column by column. -/
theorem segmentRow_shows (digits i : Nat) (h : ProgramHeader) :
    List.Forall₂ (fun column cell => CellSource.Shows i (Report.segment h) column.2 cell)
      segmentColumns (segmentRow digits h) :=
  .cons (.field rfl (.text _)) <| .cons (.field rfl (.hexPadded _ _)) <|
  .cons (.field rfl (.hexPadded _ _)) <| .cons (.field rfl (.hexPadded _ _)) <|
  .cons (.field rfl (.hexPadded _ _)) <| .cons (.field rfl (.hexPadded _ _)) <|
  .cons (.field rfl (.text _)) <| .cons (.field rfl (.hexPadded _ _)) .nil

/-- The row of a section shows its entry in the report, column by column. -/
theorem sectionRow_shows (digits i : Nat) (s : Section) :
    List.Forall₂ (fun column cell => CellSource.Shows i (Report.sectionSummary i s) column.2 cell)
      sectionColumns (sectionRow digits i s) :=
  .cons (.field rfl (.decimal _)) <| .cons (.field rfl (.text _)) <|
  .cons (.field rfl (.text _)) <| .cons (.field rfl (.hexPadded _ _)) <|
  .cons (.field rfl (.hexPadded _ _)) <| .cons (.field rfl (.hexPadded _ _)) <|
  .cons (.field rfl (.text _)) <| .cons (.field rfl (.decimal _)) <|
  .cons (.field rfl (.decimal _)) .nil

/-- The row of a symbol shows its entry in the report, column by column. -/
theorem symbolRow_shows (i : Nat) (s : Symbol) :
    List.Forall₂ (fun column cell => CellSource.Shows i (.table s.entries) column.2 cell)
      symbolColumns (symbolRow i s) :=
  .cons .number <| .cons (.field rfl (.hexPadded _ _)) <| .cons (.field rfl (.decimal _)) <|
  .cons (.field rfl (.code _ _)) <| .cons (.field rfl (.code _ _)) <|
  .cons (.field rfl (.code _ _)) <| .cons (.field rfl (.sectionIndex _)) <|
  .cons (.field rfl (.text _)) .nil

/-- The table of the file header shows the entries of the header in the report. -/
theorem header_shows (h : FileHeader) : HeaderShows (header h) (Report.header h) :=
  ⟨_, rfl, rfl, rfl,
    .cons (.row rfl (.text _)) <| .cons (.row rfl (.text _)) <| .cons (.row rfl (.decimal _)) <|
    .cons (.row rfl (.text _)) <| .cons (.row rfl (.decimal _)) <| .cons (.row rfl (.text _)) <|
    .cons (.row rfl (.text _)) <| .cons (.row rfl (.hexPadded _ _)) <|
    .cons (.row rfl (.noted _ _)) <| .cons (.row rfl (.noted _ _)) <|
    .cons (.row rfl (.hexPadded _ _)) <| .cons (.row rfl (.noted _ _)) <|
    .cons (.row rfl (.noted _ _)) <| .cons (.row rfl (.decimal _)) <|
    .cons (.row rfl (.noted _ _)) <| .cons (.row rfl (.decimal _)) <|
    .cons (.row rfl (.decimal _)) .nil⟩

/-- The table of the segments shows those of the report, or a remark that there are none. -/
theorem segments_show (file : ElfFile) :
    ListShows "Program Headers" "There are no program headers in this file." segmentColumns
      (segments file) (file.segments.map Report.segment) := by
  have hrows := map_eq_mapIdx (segmentRow file.header.addressDigits) file.segments
  unfold segments
  refine .of_items rfl (List.length_map _) ?_
  rw [map_eq_mapIdx Report.segment]
  exact .of_items rfl hrows (segmentRow_shows file.header.addressDigits)

/-- The table of the sections shows those of the report, or a remark that there are none. -/
theorem sections_show (file : ElfFile) :
    ListShows "Section Headers" "There are no sections in this file." sectionColumns
      (sections file) (file.sections.mapIdx Report.sectionSummary) :=
  .of_items rfl List.length_mapIdx (.of_items rfl rfl fun i s => sectionRow_shows _ i s)

/-! ### Symbols -/

/-- A limit leaves the first symbols, or all of them. -/
theorem shownSymbols_eq (limit : Int) (symbols : List Symbol) :
    shownSymbols limit symbols = symbols.take (shownCount limit symbols.length) := by
  unfold shownSymbols shownCount
  by_cases hpos : 0 < limit
  · rw [if_pos hpos]
    by_cases hlt : limit < symbols.length
    · rw [if_pos ⟨hpos, hlt⟩]
    · rw [if_neg fun h => hlt h.2, List.take_length, List.take_of_length_le (by omega)]
  · rw [if_neg hpos, if_neg fun h => hpos h.1, List.take_length]

/-- No more rows are shown than there are symbols. -/
theorem shownCount_le (limit : Int) (count : Nat) : shownCount limit count ≤ count := by
  unfold shownCount
  split
  · omega
  · exact Nat.le_refl count

/-- The entry of a symbol table in a report. -/
def symbolsEntry (s : Section) (symbols : List Symbol) : Value :=
  .table [("section", .text s.name), ("symbols", .list (symbols.map fun s => .table s.entries))]

/-- **One symbol table.** -/
theorem symbolTable_shows (limit : Int) (s : Section) (symbols : List Symbol) :
    SymbolsShow limit (symbolTable limit s symbols) (symbolsEntry s symbols) := by
  refine ⟨s.name, symbols.map fun s => .table s.entries, _, rfl, rfl, rfl, ?_, ?_, ?_⟩
  · rw [List.length_map]
  · rw [List.length_map, ← List.map_take, map_eq_mapIdx]
    exact .of_items rfl (by rw [shownSymbols_eq]) fun i s => symbolRow_shows i s
  · have hle := shownCount_le limit symbols.length
    have hshown : (shownSymbols limit symbols).length = shownCount limit symbols.length := by
      rw [shownSymbols_eq, List.length_take, Nat.min_eq_left hle]
    simp only [List.length_map, hshown]
    by_cases hlt : shownCount limit symbols.length < symbols.length
    · rw [if_neg (by omega), if_pos hlt]
    · rw [if_pos (by omega), if_neg hlt]

/-- **Symbol tables one after another.**  Those before the first that does not decode are shown, as
    they would be reported; and that one stops the report as well. -/
theorem symbolTables_show (file : ElfFile) (limit : Int) (tables : List Section) :
    match tables.mapM (Report.symbolTable file) with
    | .ok entries => ∃ pieces, symbolTables file limit tables = (pieces.flatten, none) ∧
        List.Forall₂ (SymbolsShow limit) pieces entries
    | .error cause => ∃ before table later entries pieces, tables = before ++ table :: later ∧
        before.mapM (Report.symbolTable file) = .ok entries ∧ file.symbols table = .error cause ∧
        symbolTables file limit tables = (pieces.flatten, some cause) ∧
        List.Forall₂ (SymbolsShow limit) pieces entries := by
  -- displays and reports both go through the tables in order, one call of `symbols` for each
  induction tables with
  | nil => exact ⟨[], rfl, .nil⟩
  | cons s rest ih =>
    cases hsymbols : file.symbols s with
    | error cause =>
      have hentry : Report.symbolTable file s = .error cause := by
        rw [Report.symbolTable, hsymbols, error_bind]
      have hshown : symbolTables file limit (s :: rest) = ([], some cause) := by
        simp only [symbolTables, hsymbols]
      rw [List.mapM_cons, hentry, error_bind]
      exact ⟨[], s, rest, [], [], rfl, rfl, hsymbols, hshown, .nil⟩
    | ok symbols =>
      have hentry : Report.symbolTable file s = .ok (symbolsEntry s symbols) := by
        rw [Report.symbolTable, hsymbols, ok_bind]
        rfl
      have hshown : symbolTables file limit (s :: rest) =
          (symbolTable limit s symbols ++ (symbolTables file limit rest).1,
            (symbolTables file limit rest).2) := by
        simp only [symbolTables, hsymbols]
      rw [List.mapM_cons, hentry, ok_bind, hshown]
      cases hrest : rest.mapM (Report.symbolTable file) with
      | ok entries =>
        rw [hrest] at ih
        obtain ⟨pieces, hpieces, hall⟩ := ih
        rw [hpieces]
        exact ⟨symbolTable limit s symbols :: pieces, rfl,
          .cons (symbolTable_shows limit s symbols) hall⟩
      | error cause =>
        rw [hrest] at ih
        -- the table that stops the rest stops all, with one more table before it
        obtain ⟨before, table, later, entries, pieces, rfl, hbefore, hstop, hpieces, hall⟩ := ih
        rw [hpieces]
        refine ⟨s :: before, table, later, symbolsEntry s symbols :: entries,
          symbolTable limit s symbols :: pieces, rfl, ?_, hstop, rfl,
          .cons (symbolTable_shows limit s symbols) hall⟩
        rw [List.mapM_cons, hentry, ok_bind, hbefore, ok_bind]
        rfl

/-! ### Whole displays -/

/-- The calls of a display, in the order of its parts. -/
theorem run_eq (options : DisplayOptions) (file : ElfFile) :
    run options file none =
      let symbols := symbolTables file options.maxSymbolRows file.symbolTables
      (header file.header ++ (if options.showSegments then segments file else []) ++
          (if options.showSections then sections file else []) ++
          (if options.showSymbols then symbols.1 else []),
        if options.showSymbols then symbols.2 else none) := by
  simp only [run, overview, symbols]
  cases options.showSymbols <;> rfl

/-- The parts of a report that do not depend on its symbols. -/
theorem report_parts {generatedAt source : String} {file : ElfFile} {includeSymbols : Bool}
    {report : Value} (h : Report.value generatedAt file source includeSymbols = .ok report) :
    report.get? "header" = some (Report.header file.header) ∧
      report.get? "segments" = some (.list (file.segments.map Report.segment)) ∧
      report.get? "sections" = some (.list (file.sections.mapIdx Report.sectionSummary)) := by
  unfold Report.value Report.entries at h
  -- symbols are the last part of the report, and the only one that can fail
  cases includeSymbols with
  | false =>
    cases h
    exact ⟨rfl, rfl, rfl⟩
  | true =>
    rw [if_pos rfl] at h
    cases htables : Report.symbolTables file with
    | error cause =>
      rw [htables] at h
      cases h
    | ok tables =>
      rw [htables] at h
      cases h
      exact ⟨rfl, rfl, rfl⟩

/-- A report with symbols needs all symbol tables. -/
theorem report_symbolTables (generatedAt source : String) (file : ElfFile) :
    match file.symbolTables.mapM (Report.symbolTable file) with
    | .ok tables => ∃ report, Report.value generatedAt file source true = .ok report ∧
        report.get? "symbol_tables" = some (.list tables)
    | .error cause => Report.value generatedAt file source true = .error cause := by
  unfold Report.value Report.entries Report.symbolTables
  rw [if_pos rfl]
  cases file.symbolTables.mapM (Report.symbolTable file) with
  | ok tables => exact ⟨_, rfl, rfl⟩
  | error cause => rfl

/-- **A display shows what a report says.**  A display consists of the calls that show the header,
    the segments and the sections of a report, the latter two if the options ask for them, and of
    the calls that show its symbol tables, one after another, if the options ask for these.

    * The report without symbols can always be made, and with any report the first three agree.
    * If the report with symbols can be made, the display does not fail, and it shows each of its
      symbol tables as far as the limit allows.
    * If that report cannot be made, it is for a symbol table that does not decode.  A display of
      symbols fails for the same cause, behind the calls for the tables before it. -/
theorem run_shows_report (options : DisplayOptions) (file : ElfFile)
    (generatedAt source : String) :
    let (calls, failure) := run options file none
    ∃ (headerCalls segmentCalls sectionCalls : List ConsoleCall)
      (symbolCalls : List (List ConsoleCall)),
      calls = headerCalls ++ (if options.showSegments then segmentCalls else []) ++
        (if options.showSections then sectionCalls else []) ++
        (if options.showSymbols then symbolCalls.flatten else []) ∧
      (∃ report, Report.value generatedAt file source false = .ok report) ∧
      (∀ includeSymbols report,
        Report.value generatedAt file source includeSymbols = .ok report →
        ∃ header segments sections, report.get? "header" = some header ∧
          report.get? "segments" = some (.list segments) ∧
          report.get? "sections" = some (.list sections) ∧
          HeaderShows headerCalls header ∧
          ListShows "Program Headers" "There are no program headers in this file." segmentColumns
            segmentCalls segments ∧
          ListShows "Section Headers" "There are no sections in this file." sectionColumns
            sectionCalls sections) ∧
      match Report.value generatedAt file source true with
      | .ok report => failure = none ∧
          ∃ tables, report.get? "symbol_tables" = some (.list tables) ∧
            List.Forall₂ (SymbolsShow options.maxSymbolRows) symbolCalls tables
      | .error cause => failure = (if options.showSymbols then some cause else none) ∧
          ∃ before table later tables, file.symbolTables = before ++ table :: later ∧
            before.mapM (Report.symbolTable file) = .ok tables ∧
            file.symbols table = .error cause ∧
            List.Forall₂ (SymbolsShow options.maxSymbolRows) symbolCalls tables := by
  rw [run_eq]
  have hparts (includeSymbols : Bool) (report : Value)
      (hreport : Report.value generatedAt file source includeSymbols = .ok report) :
      ∃ header segments sections, report.get? "header" = some header ∧
        report.get? "segments" = some (.list segments) ∧
        report.get? "sections" = some (.list sections) ∧
        HeaderShows (Display.header file.header) header ∧
        ListShows "Program Headers" "There are no program headers in this file." segmentColumns
          (Display.segments file) segments ∧
        ListShows "Section Headers" "There are no sections in this file." sectionColumns
          (Display.sections file) sections := by
    obtain ⟨hheader, hsegments, hsections⟩ := report_parts hreport
    exact ⟨_, _, _, hheader, hsegments, hsections, header_shows file.header, segments_show file,
      sections_show file⟩
  -- the calls for symbols are the same whether they are displayed or not
  have hsymbols := symbolTables_show file options.maxSymbolRows file.symbolTables
  have hreport := report_symbolTables generatedAt source file
  cases hentries : file.symbolTables.mapM (Report.symbolTable file) with
  | ok entries =>
    rw [hentries] at hsymbols hreport
    obtain ⟨pieces, hpieces, hall⟩ := hsymbols
    obtain ⟨report, hvalue, htables⟩ := hreport
    refine ⟨_, _, _, pieces, by rw [hpieces], ⟨_, rfl⟩, hparts, ?_⟩
    rw [hvalue]
    exact ⟨by rw [hpieces, ite_self], entries, htables, hall⟩
  | error cause =>
    rw [hentries] at hsymbols hreport
    obtain ⟨before, table, later, entries, pieces, hsplit, hbefore, hstop, hpieces, hall⟩ :=
      hsymbols
    refine ⟨_, _, _, pieces, by rw [hpieces], ⟨_, rfl⟩, hparts, ?_⟩
    rw [hreport]
    exact ⟨by rw [hpieces], before, table, later, entries, hsplit, hbefore, hstop, hall⟩

end Display

end ElfInspect
