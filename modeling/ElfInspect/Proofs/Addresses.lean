import Mathlib.Data.List.Forall2
import ElfInspect.Display
import ElfInspect.Proofs.Agreement
import ElfInspect.Proofs.Console
import ElfInspect.Proofs.Load.Widths

namespace ElfInspect

/-!
# Addresses on the console

Addresses are filled up with zeros to as many digits as an address of the file can have.  No address
of a file that loads has more digits than that, so that all addresses of a column are equally wide.

* `Plain` — characters that the console shows as they are, one column each;
* `ShowsAddress` — what is shown is an address with a number of digits;
* `Table.ShowsBelow`, `Table.ShowsBeside` — a table that has room shows addresses below a title or
  beside a name;
* `Display.addresses_fixed_width` — the addresses in the tables of a file that loads, on a console
  that has room for these tables.
-/

variable {α : Type}

/-! ### Plain texts -/

/-- The console shows the character as it is, in one column, and it ends no line. -/
structure Plain (c : Char) : Prop where
  columns : charColumns c = 1
  joins_not : c ≠ zeroWidthJoiner
  selects_not : c ≠ emojiSelector
  ends_not : isLineEnd c = false
  opens_not : c ≠ '['
  escapes_not : c ≠ '\\'
  dropped_not : Markup.isDropped c = false

namespace Plain

/-- The printing characters of ASCII are plain, but for the two that markup begins with. -/
theorem of_toNat {c : Char} (hlow : 0x20 ≤ c.toNat) (hhigh : c.toNat < 0x7F) (hopens : c ≠ '[')
    (hescapes : c ≠ '\\') : Plain c := by
  have hprinting : Printing c := ⟨hlow, hhigh⟩
  obtain ⟨hcolumns, hjoins, hselects, hends⟩ := hprinting.oneColumn
  exact ⟨hcolumns, hjoins, hselects, hends, hopens, hescapes,
    Markup.isDropped_of_printing hprinting⟩

/-- Plain characters take one column each. -/
theorem oneColumn {c : Char} (h : Plain c) : OneColumn c :=
  ⟨h.columns, h.joins_not, h.selects_not, h.ends_not⟩

variable {chars : List Char}

/-- **Plain texts** are shown as they are. -/
theorem shown_eq {text : String} (h : ∀ c ∈ text.toList, Plain c) :
    Markup.shown text = text.toList := by
  have hstray : ¬Markup.HasStray text.toList := by
    rintro ⟨before, rest, heq, -⟩
    have hmem : '[' ∈ text.toList := by simp [heq]
    exact (h '[' hmem).opens_not rfl
  have hends : Markup.endsInOneBackslash text.toList = false := by
    rw [← Bool.not_eq_true, Markup.endsInOneBackslash_iff]
    rintro ⟨before, hreverse, -⟩
    have hmem : '\\' ∈ text.toList := List.mem_reverse.mp (hreverse ▸ List.mem_cons_self)
    exact (h '\\' hmem).escapes_not rfl
  -- nothing in the text is markup, and nothing in it is escaped as markup
  rw [Markup.shown_eq, Markup.dropStrays_of_not_hasStray hstray, Markup.addedSlash, hends,
    if_neg (by decide), List.append_nil]
  exact List.filter_eq_self.mpr fun c hc => by rw [(h c hc).dropped_not, Bool.not_false]

/-- A plain text takes one column for each character. -/
theorem measure_eq (h : ∀ c ∈ chars, Plain c) : measure chars = chars.length :=
  measure_of_oneColumn fun c hc => (h c hc).oneColumn

end Plain

/-! ### Addresses -/

/-- The digits of hexadecimal numbers. -/
def lowerHexDigits : List Char :=
  "0123456789abcdef".toList

/-- Numbers are written with these digits. -/
theorem digitChar_mem_lowerHexDigits : ∀ digit < 16, Nat.digitChar digit ∈ lowerHexDigits := by
  decide

/-- So are the digits and the letter of the prefix. -/
theorem plain_lowerHexDigit {c : Char} (h : c ∈ lowerHexDigits ∨ c = 'x') : Plain c := by
  have hall : ('x' :: lowerHexDigits).all fun c =>
      0x20 ≤ c.toNat ∧ c.toNat < 0x7F ∧ c ≠ '[' ∧ c ≠ '\\' := by
    decide
  obtain ⟨hlow, hhigh, hopens, hescapes⟩ :=
    of_decide_eq_true (List.all_eq_true.mp hall c (List.mem_cons.mpr h.symm))
  exact .of_toNat hlow hhigh hopens hescapes

/-- What is shown denotes the number, by a prefix and exactly as many lower-case digits as given,
    each of which takes a column. -/
structure ShowsAddress (digits n : Nat) (shown : List Char) : Prop where
  form : ∃ number, shown = '0' :: 'x' :: number ∧ number.length = digits ∧
    ∀ c ∈ number, c ∈ lowerHexDigits
  value : hexValue? (String.ofList shown) = some n
  columns : measure shown = digits + 2

/-- Padded numbers are plain texts. -/
theorem plain_hexPadded (width n : Nat) : ∀ c ∈ (hexPadded width n).toList, Plain c := by
  have hlower := forall_paddedDigits digitChar_mem_lowerHexDigits width n
  rw [toList_hexPadded]
  intro c hc
  refine plain_lowerHexDigit ?_
  rcases List.mem_cons.mp hc with rfl | hc
  · exact .inl (by decide)
  · rcases List.mem_cons.mp hc with rfl | hc
    · exact .inr rfl
    · exact .inl (hlower c hc)

/-- **Addresses.**  A number that has no more digits than it is filled up to. -/
theorem ShowsAddress.of_lt {digits n : Nat} (hdigits : 0 < digits) (h : n < 16 ^ digits) :
    ShowsAddress digits n (Markup.shown (hexPadded digits n)) := by
  have hplain := plain_hexPadded digits n
  have hlength := length_paddedDigits_of_lt hdigits h
  rw [Plain.shown_eq hplain]
  refine ⟨⟨_, toList_hexPadded digits n, hlength, ?_⟩, ?_, ?_⟩
  · exact forall_paddedDigits digitChar_mem_lowerHexDigits digits n
  · rw [String.ofList_toList, hexValue?_hexPadded]
  · rw [Plain.measure_eq hplain, toList_hexPadded, List.length_cons, List.length_cons, hlength]

/-- What shows an address tells which one it is. -/
theorem ShowsAddress.inj {digits m n : Nat} {text : List Char} (hm : ShowsAddress digits m text)
    (hn : ShowsAddress digits n text) : m = n :=
  Option.some.inj (hm.value.symm.trans hn.value)

/-! ### Columns of tables -/

/-- Items that are shown with their indices, and what is shown of them. -/
theorem forall₂_mapIdx {β γ : Type} {R : β → γ → Prop} {items : List α} {f : Nat → α → β}
    {g : α → γ} (h : ∀ i item, items[i]? = some item → R (f i item) (g item)) :
    List.Forall₂ R (items.mapIdx f) (items.map g) := by
  induction items generalizing f with
  | nil => exact .nil
  | cons item rest ih =>
    rw [List.mapIdx_cons, List.map_cons]
    exact .cons (h 0 item rfl) (ih fun i other hother => h (i + 1) other hother)

namespace Table

/-- The columns of a table with headers are counted. -/
theorem columnCount_ne_zero {t : Table} (h : t.columns ≠ []) : t.columnCount ≠ 0 := by
  have hcolumns : t.columns.length ≤ t.columnCount :=
    (le_foldl_max List.length t.rows t.columns.length).1
  have hpos := List.length_pos_iff.mpr h
  omega

/-- Below a title the table shows addresses with a number of digits, one in each row.  The column is
    wide enough for the title and for all of them. -/
def ShowsBelow (t : Table) (title : String) (digits : Nat) (addresses : List Nat) : Prop :=
  ∃ column content,
    (∃ above last, t.headerFields = above ++ [last] ∧
      last[column]? = some (' ' :: title.toList ++ blanks (content - title.length + 1))) ∧
    List.Forall₂ (fun row address => ∃ text, ShowsAddress digits address text ∧
      ShowsWithin content (t.fieldsOf row) column text) t.rows addresses

/-- In its one row for a field the table shows an address with a number of digits, beside the name
    of the field. -/
def ShowsBeside (t : Table) (field : String) (digits address : Nat) : Prop :=
  ∃ row, t.rows.filter (·.head? = some field) = [row] ∧
    (∃ content, ShowsWithin content (t.fieldsOf row) 0 field.toList) ∧
    ∃ content text, ShowsAddress digits address text ∧ ShowsWithin content (t.fieldsOf row) 1 text

variable {t : Table} {title : String} {items : List α} {row : Nat → α → List String}

/-- The cell of a row in a table that has room shows its address. -/
theorem showsWithin_hexPadded {cells : List String} {column content digits address : Nat}
    (hrow : cells ∈ t.rows) (hcontent : t.contents[column]? = some content)
    (hall : ∀ row ∈ t.shownRows, ∀ chars, row[column]? = some chars → measure chars ≤ content)
    (hcell : cells[column]? = some (hexPadded digits address)) (hdigits : 0 < digits)
    (hlt : address < 16 ^ digits) :
    ∃ text, ShowsAddress digits address text ∧
      ShowsWithin content (t.fieldsOf cells) column text := by
  refine ⟨_, .of_lt hdigits hlt, fieldsOf_showsWithin hrow hcontent hall hcell fun c hc => ?_⟩
  have hplain := plain_hexPadded digits address
  rw [Plain.shown_eq hplain] at hc
  exact (hplain c hc).oneColumn

/-- A title that the console shows as it is. -/
structure IsTitle (title : String) : Prop where
  render_eq : Markup.render title.toList = title.toList
  oneColumn : ∀ c ∈ title.toList, OneColumn c

/-- A column with one address for each item. -/
theorem showsBelow_of_rows (column : Nat) {digits : Nat} {address : α → Nat}
    (hcolumn : t.columns[column]? = some title) (htitle : IsTitle title)
    (hdigits : 0 < digits) (hlt : ∀ item ∈ items, address item < 16 ^ digits)
    (hrows : t.rows = items.mapIdx row)
    (hcell : ∀ i item, (row i item)[column]? = some (hexPadded digits (address item))) :
    t.ShowsBelow title digits (items.map address) := by
  have hcount : column < t.columnCount := by
    obtain ⟨hlt, -⟩ := List.getElem?_eq_some_iff.mp hcolumn
    exact Nat.lt_of_lt_of_le hlt (le_foldl_max List.length t.rows t.columns.length).1
  obtain ⟨content, hcontent, hheader, hall⟩ := getElem?_contents hcount
  have hlast := headerFields_showsLast hcontent hheader hcolumn htitle.render_eq htitle.oneColumn
  refine ⟨column, content, hlast, ?_⟩
  -- each row stands in the table, which decides how wide the column is
  have hmem (i : Nat) (item : α) (hitem : items[i]? = some item) : row i item ∈ t.rows := by
    rw [hrows]
    refine List.mem_of_getElem? (i := i) ?_
    rw [List.getElem?_mapIdx, hitem, Option.map_some]
  have hshows : List.Forall₂ (fun cells address => ∃ text, ShowsAddress digits address text ∧
      ShowsWithin content (t.fieldsOf cells) column text) (items.mapIdx row)
      (items.map address) :=
    forall₂_mapIdx fun i item hitem => showsWithin_hexPadded (hmem i item hitem) hcontent hall
      (hcell i item) hdigits (hlt item (List.mem_of_getElem? hitem))
  rwa [hrows]

/-- A row with the name of a field and its address. -/
theorem showsBeside_of_row {field : String} {digits address : Nat}
    (hrow : t.rows.filter (·.head? = some field) = [[field, hexPadded digits address]])
    (hname : Markup.shown field = field.toList) (hcolumns : ∀ c ∈ field.toList, OneColumn c)
    (hdigits : 0 < digits) (hlt : address < 16 ^ digits) : t.ShowsBeside field digits address := by
  have hmem : [field, hexPadded digits address] ∈ t.rows := by
    refine List.mem_of_mem_filter (p := (·.head? = some field)) ?_
    rw [hrow]
    exact List.mem_cons_self
  have hcount : 2 ≤ t.columnCount := length_le_columnCount hmem
  obtain ⟨first, hfirst, -, hnames⟩ := getElem?_contents (t := t) (show 0 < t.columnCount by omega)
  obtain ⟨second, hsecond, -, haddresses⟩ :=
    getElem?_contents (t := t) (show 1 < t.columnCount by omega)
  -- the name of the field has a column of its own
  have hfield : ShowsWithin first (t.fieldsOf [field, hexPadded digits address]) 0
      (Markup.shown field) := fieldsOf_showsWithin hmem hfirst hnames rfl (hname ▸ hcolumns)
  refine ⟨_, hrow, ⟨first, hname ▸ hfield⟩, second, ?_⟩
  exact showsWithin_hexPadded hmem hsecond haddresses rfl hdigits hlt

end Table

/-! ### Files -/

/-- The addresses of a file have no more digits than they are filled up to. -/
theorem FileHeader.pow_addressWidth (h : FileHeader) :
    256 ^ h.encoding.addressWidth = 16 ^ h.addressDigits := by
  unfold addressDigits is64Bit Encoding.addressWidth
  cases h.encoding.narrow <;> rfl

/-- The class byte decides on the number of digits. -/
theorem FileHeader.addressDigits_eq (h : FileHeader) :
    h.addressDigits = if h.elfClass = 1 then 8 else 16 := by
  by_cases hclass : h.elfClass = 1 <;>
    simp [addressDigits, is64Bit, encoding, Encoding.ofBytes, Abi.class32, hclass]

theorem FileHeader.addressDigits_pos (h : FileHeader) : 0 < h.addressDigits := by
  rw [addressDigits_eq]
  split <;> decide

namespace ElfFile

variable {file : ElfFile}

/-- The entry point of a file has no more digits. -/
theorem Fits.entry_lt (h : file.Fits) : file.header.entry < 16 ^ file.header.addressDigits := by
  rw [← FileHeader.pow_addressWidth]
  exact h.header _ (.tail _ (.tail _ (.tail _ (.head _))))

/-- Nor have the addresses of its segments. -/
theorem Fits.segment_lt (h : file.Fits) {segment : ProgramHeader}
    (hmem : segment ∈ file.segments) :
    segment.vaddr < 16 ^ file.header.addressDigits ∧
      segment.paddr < 16 ^ file.header.addressDigits := by
  obtain ⟨-, -, -, hvaddr, hpaddr, -⟩ := ProgramHeader.fits_iff.mp (h.segments segment hmem)
  rw [← FileHeader.pow_addressWidth]
  exact ⟨hvaddr, hpaddr⟩

/-- Nor have those of its sections. -/
theorem Fits.section_lt (h : file.Fits) {s : Section} (hmem : s ∈ file.sections) :
    s.header.addr < 16 ^ file.header.addressDigits := by
  obtain ⟨-, -, -, haddr, -⟩ := SectionHeader.fits_iff.mp (h.sections s hmem)
  rwa [← FileHeader.pow_addressWidth]

end ElfFile

/-! ### Displays -/

namespace Display

variable {file : ElfFile} {t : Table}

/-- The titles of the columns with addresses. -/
theorem isTitle_of_mem {title : String} (h : title ∈ ["VirtAddr", "PhysAddr", "Address", "Value"]) :
    Table.IsTitle title := by
  simp only [List.mem_cons, List.not_mem_nil, or_false] at h
  rcases h with rfl | rfl | rfl | rfl
  all_goals exact ⟨by decide +kernel, forall_of_all (by decide +kernel)⟩

/-- The file header shows the entry point. -/
theorem header_addresses (hfits : file.Fits) (h : .table t ∈ header file.header) :
    t.columns ≠ [] ∧
      t.ShowsBeside "Entry point address" file.header.addressDigits file.header.entry := by
  obtain rfl : t = _ := by simpa [header] using h
  refine ⟨List.cons_ne_nil _ _, Table.showsBeside_of_row ?_ (by decide +kernel)
    (forall_of_all (by decide +kernel)) file.header.addressDigits_pos hfits.entry_lt⟩
  simp [headerRows]

/-- The segments are shown with both of their addresses. -/
theorem segments_addresses (hfits : file.Fits) (h : .table t ∈ segments file) :
    t.columns ≠ [] ∧
      t.ShowsBelow "VirtAddr" file.header.addressDigits (file.segments.map (·.vaddr)) ∧
      t.ShowsBelow "PhysAddr" file.header.addressDigits (file.segments.map (·.paddr)) := by
  have hpos := file.header.addressDigits_pos
  have hrows := map_eq_mapIdx (segmentRow file.header.addressDigits) file.segments
  unfold segments at h
  split at h
  · simp at h
  · obtain rfl : t = _ := by simpa using h
    refine ⟨List.cons_ne_nil _ _, ?_, ?_⟩
    · exact Table.showsBelow_of_rows 2 rfl (isTitle_of_mem (by decide)) hpos
        (fun _ hs => (hfits.segment_lt hs).1) hrows fun _ _ => rfl
    · exact Table.showsBelow_of_rows 3 rfl (isTitle_of_mem (by decide)) hpos
        (fun _ hs => (hfits.segment_lt hs).2) hrows fun _ _ => rfl

/-- The sections are shown with their addresses. -/
theorem sections_addresses (hfits : file.Fits) (h : .table t ∈ sections file) :
    t.columns ≠ [] ∧
      t.ShowsBelow "Address" file.header.addressDigits (file.sections.map (·.header.addr)) := by
  have hpos := file.header.addressDigits_pos
  unfold sections at h
  split at h
  · simp at h
  · obtain rfl : t = _ := by simpa using h
    exact ⟨List.cons_ne_nil _ _, Table.showsBelow_of_rows 3 rfl (isTitle_of_mem (by decide)) hpos
      (fun _ hs => hfits.section_lt hs) rfl fun _ _ => rfl⟩

/-- The values of symbols are filled up to the digits of a wide address in either class. -/
theorem symbolTable_addresses {limit : Int} {s : Section} {symbols : List Symbol}
    (hsymbols : file.symbols s = .ok symbols) (h : .table t ∈ symbolTable limit s symbols) :
    t.columns ≠ [] ∧ t.ShowsBelow "Value" 16 ((shownSymbols limit symbols).map (·.value)) := by
  have hlt (symbol : Symbol) (hsymbol : symbol ∈ shownSymbols limit symbols) :
      symbol.value < 16 ^ 16 := by
    rw [shownSymbols_eq] at hsymbol
    have hvalue := ElfFile.value_of_symbols hsymbols symbol (List.mem_of_mem_take hsymbol)
    refine Nat.lt_of_lt_of_le hvalue ?_
    unfold Encoding.addressWidth
    split <;> decide
  obtain rfl : t = _ := by simpa [symbolTable] using h
  exact ⟨List.cons_ne_nil _ _, Table.showsBelow_of_rows 1 rfl (isTitle_of_mem (by decide))
    (by decide) hlt rfl fun _ _ => rfl⟩

/-- What is shown for some sections is shown for one whose symbols decode. -/
theorem mem_symbolTables {call : ConsoleCall} {limit : Int} {tables : List Section}
    (h : call ∈ (symbolTables file limit tables).1) :
    ∃ s ∈ tables, ∃ symbols, file.symbols s = .ok symbols ∧
      call ∈ symbolTable limit s symbols := by
  induction tables with
  | nil => cases h
  | cons s rest ih =>
    unfold symbolTables at h
    split at h
    · cases h
    · rename_i symbols hsymbols
      rcases List.mem_append.mp h with h | h
      · exact ⟨s, List.mem_cons_self, symbols, hsymbols, h⟩
      · obtain ⟨other, hother, hcall⟩ := ih h
        exact ⟨other, List.mem_cons_of_mem s hother, hcall⟩

/-- A table that is displayed belongs to the file header, to the segments, to the sections or to
    the symbols of a section that decode. -/
theorem table_of_run {options : DisplayOptions} {symbolsFor : Option String}
    (h : .table t ∈ (run options file symbolsFor).1) :
    .table t ∈ header file.header ∨ .table t ∈ segments file ∨ .table t ∈ sections file ∨
      ∃ s ∈ file.sections, ∃ symbols, file.symbols s = .ok symbols ∧
        .table t ∈ symbolTable options.maxSymbolRows s symbols := by
  rcases List.mem_append.mp h with hoverview | hsymbols
  · unfold overview at hoverview
    rcases List.mem_append.mp hoverview with hfront | hsections
    · rcases List.mem_append.mp hfront with hheader | hsegments
      · exact .inl hheader
      · split at hsegments
        · exact .inr (.inl hsegments)
        · cases hsegments
    · split at hsections
      · exact .inr (.inr (.inl hsections))
      · cases hsections
  · refine .inr (.inr (.inr ?_))
    -- symbols are shown of a section that is asked for, or else of all that hold symbols
    split at hsymbols
    · split at hsymbols
      · simp at hsymbols
      · rename_i s hfound
        obtain ⟨other, hother, hdecodes⟩ := mem_symbolTables hsymbols
        rw [List.mem_singleton.mp hother] at hdecodes
        exact ⟨s, List.mem_of_find?_eq_some hfound, hdecodes⟩
    · split at hsymbols
      · obtain ⟨s, hs, hdecodes⟩ := mem_symbolTables hsymbols
        exact ⟨s, List.mem_of_mem_filter hs, hdecodes⟩
      · cases hsymbols

/-- A table that displays a file, and the addresses that it shows where there is room for it. -/
inductive ShowsAddresses (file : ElfFile) (limit : Int) (digits : Nat) (t : Table) : Prop
  | header (h : .table t ∈ header file.header)
      (hentry : t.ShowsBeside "Entry point address" digits file.header.entry)
  | segments (h : .table t ∈ segments file)
      (hvirtual : t.ShowsBelow "VirtAddr" digits (file.segments.map (·.vaddr)))
      (hphysical : t.ShowsBelow "PhysAddr" digits (file.segments.map (·.paddr)))
  | sections (h : .table t ∈ sections file)
      (haddress : t.ShowsBelow "Address" digits (file.sections.map (·.header.addr)))
  | symbols (s : Section) (hs : s ∈ file.sections) (symbols : List Symbol)
      (hsymbols : file.symbols s = .ok symbols) (h : .table t ∈ symbolTable limit s symbols)
      (hvalue : t.ShowsBelow "Value" 16 ((shownSymbols limit symbols).map (·.value)))

/-- Whatever table a display shows, its addresses have the digits of the file. -/
theorem showsAddresses_of_run (hfits : file.Fits) {options : DisplayOptions}
    {symbolsFor : Option String} (h : .table t ∈ (run options file symbolsFor).1) :
    t.columns ≠ [] ∧
      ShowsAddresses file options.maxSymbolRows file.header.addressDigits t := by
  rcases table_of_run h with h | h | h | ⟨s, hs, symbols, hsymbols, h⟩
  · obtain ⟨hcolumns, hentry⟩ := header_addresses hfits h
    exact ⟨hcolumns, .header h hentry⟩
  · obtain ⟨hcolumns, hvirtual, hphysical⟩ := segments_addresses hfits h
    exact ⟨hcolumns, .segments h hvirtual hphysical⟩
  · obtain ⟨hcolumns, haddress⟩ := sections_addresses hfits h
    exact ⟨hcolumns, .sections h haddress⟩
  · obtain ⟨hcolumns, hvalue⟩ := symbolTable_addresses hsymbols h
    exact ⟨hcolumns, .symbols s hs symbols hsymbols h hvalue⟩

/-- The text on a console is that of all lines, one after another. -/
theorem renderCalls_eq {width : Nat} (hwidth : 0 < width) (calls : List ConsoleCall) :
    renderCalls width false calls =
      String.ofList ((calls.flatMap (ConsoleCall.lines width)).flatMap (· ++ ['\n'])) := by
  have hrender (call : ConsoleCall) : call.render width =
      String.ofList ((call.lines width).flatMap (· ++ ['\n'])) := if_neg (by omega)
  rw [renderCalls, if_neg (by decide)]
  induction calls with
  | nil => rfl
  | cons call rest ih =>
    rw [List.map_cons, String.join_cons, ih, hrender, List.flatMap_cons, List.flatMap_append,
      String.ofList_append]

/-- **Addresses on the console.**  Let a file load, from whatever device, and let it be displayed on
    a console that has room for the tables.  These are on the console line by line, and so are in
    them

    * the entry point, the addresses of the segments and those of the sections, as `0x` with exactly
      eight lower-case hexadecimal digits if the class byte is one, and with exactly sixteen
      otherwise;
    * the values of symbols with exactly sixteen, wherever a symbol table decodes.

    Each stands in a column that is wide enough for all of its cells, and is filled up with blanks.
    The digits denote what has been decoded, so that different addresses are shown differently. -/
theorem addresses_fixed_width {device : Device} {chunk : Int} {feedback : Load.Feedback}
    (hload : (Load.run device chunk feedback).outcome = .ok file) {width : Nat}
    (hwidth : 0 < width) {options : DisplayOptions} {symbolsFor : Option String}
    (hroom : ∀ t, .table t ∈ (run options file symbolsFor).1 → t.Fits width) :
    let digits := if file.header.elfClass = 1 then 8 else 16
    let calls := (run options file symbolsFor).1
    renderCalls width false calls =
        String.ofList ((calls.flatMap (ConsoleCall.lines width)).flatMap (· ++ ['\n'])) ∧
    (∀ t, .table t ∈ calls →
      (ConsoleCall.table t).lines width =
        t.linesAbove ++ t.rows.flatMap (fun row => (t.fieldsOf row).map (Table.rowLine '│')) ++
          t.linesBelow ∧
      ShowsAddresses file options.maxSymbolRows digits t) ∧
    ∀ digits m n text, ShowsAddress digits m text → ShowsAddress digits n text → m = n := by
  -- what has been decoded fits the widths it was decoded from
  have hfits := Load.fits_of_ok hload
  rw [← FileHeader.addressDigits_eq]
  refine ⟨renderCalls_eq hwidth _, fun t ht => ?_, fun digits m n text => ShowsAddress.inj⟩
  obtain ⟨hcolumns, hshows⟩ := showsAddresses_of_run hfits ht
  exact ⟨ConsoleCall.lines_table_of_fits (Table.columnCount_ne_zero hcolumns) (hroom t ht), hshows⟩

/-- A 32-bit image with a segment that has the last address of all. -/
def farImage : Bytes :=
  let e : Encoding := ⟨true, .little⟩
  let header : FileHeader := { phoff := 52, phnum := 1 }
  (Abi.magic ++ [1, 1, 1] ++ List.replicate 9 0 ++ (FileHeader.layout e).encode e.order header ++
    (ProgramHeader.layout e).encode e.order { vaddr := 0xFFFFFFFF }).toArray

/-- Whether a console has room for the tables in some calls. -/
def hasRoom (width : Nat) (calls : List ConsoleCall) : Bool :=
  calls.all fun
    | .table t => t.Fits width
    | _ => true

/-- Where there is room for all calls there is room for each table. -/
theorem fits_of_hasRoom {width : Nat} {calls : List ConsoleCall} (h : hasRoom width calls = true) :
    ∀ t, .table t ∈ calls → t.Fits width :=
  fun _ ht => of_decide_eq_true (List.all_eq_true.mp h _ ht)

/-- The last address takes eight digits, and a console of a hundred columns has room for it. -/
theorem addresses_fixed_width_farImage :
    ∃ file, (Load.run (.trickling farImage 5) 3).outcome = .ok file ∧
      file.segments.map (·.vaddr) = [0xFFFFFFFF] ∧
      ∀ t, .table t ∈ (run {} file none).1 → ShowsAddresses file 200 8 t := by
  -- whatever is needed of the file is decided in one evaluation
  have hload : ((Load.run (.trickling farImage 5) 3).outcome.toOption.map fun file =>
      (file.header.elfClass, file.segments.map (·.vaddr), hasRoom 100 (run {} file none).1)) =
      some (1, [0xFFFFFFFF], true) := by
    decide +kernel
  cases houtcome : (Load.run (.trickling farImage 5) 3).outcome with
  | error failure =>
    rw [houtcome] at hload
    cases hload
  | ok file =>
    rw [houtcome] at hload
    obtain ⟨hclass, hrest⟩ := Prod.mk.inj (Option.some.inj hload)
    obtain ⟨haddresses, hroom⟩ := Prod.mk.inj hrest
    obtain ⟨-, hshows, -⟩ := addresses_fixed_width houtcome (by decide) (fits_of_hasRoom hroom)
    rw [hclass, if_pos rfl] at hshows
    exact ⟨file, rfl, haddresses, fun t ht => (hshows t ht).2⟩

/-- A 64-bit image with two segments, which differ in their addresses only. -/
def pairImage (first second : Nat) : Bytes :=
  let e : Encoding := ⟨false, .little⟩
  let header : FileHeader := { phoff := 64, phnum := 2 }
  let segment (address : Nat) : ProgramHeader :=
    { type := 1, flags := 7, vaddr := address, paddr := address }
  (Abi.magic ++ [2, 1, 1] ++ List.replicate 9 0 ++ (FileHeader.layout e).encode e.order header ++
    (ProgramHeader.layout e).encode e.order (segment first) ++
    (ProgramHeader.layout e).encode e.order (segment second)).toArray

/-- The lines that a console of eighty columns shows of the file header and the segments. -/
def narrowLines (file : ElfFile) : List (List Char) :=
  (run { showSections := false, showSymbols := false } file none).1.flatMap (ConsoleCall.lines 80)

/-- A console of eighty columns has no room for the table of the segments of a 64-bit file.  It
    shows different addresses alike. -/
theorem not_addresses_fixed_width_narrow :
    ∃ file file', Load.ofBytes (pairImage 0x401000 0x402000) 65536 = .ok file ∧
      Load.ofBytes (pairImage 0x403000 0x404000) 65536 = .ok file' ∧
      file.segments.map (·.vaddr) = [0x401000, 0x402000] ∧
      file'.segments.map (·.vaddr) = [0x403000, 0x404000] ∧
      renderCalls 80 false (run { showSections := false, showSymbols := false } file none).1 =
        renderCalls 80 false
          (run { showSections := false, showSymbols := false } file' none).1 := by
  have hfirst : (Load.ofBytes (pairImage 0x401000 0x402000) 65536).toOption.map
      (·.segments.map (·.vaddr)) = some [0x401000, 0x402000] := by decide +kernel
  have hsecond : (Load.ofBytes (pairImage 0x403000 0x404000) 65536).toOption.map
      (·.segments.map (·.vaddr)) = some [0x403000, 0x404000] := by decide +kernel
  have hlines : (Load.ofBytes (pairImage 0x401000 0x402000) 65536).toOption.map narrowLines =
      (Load.ofBytes (pairImage 0x403000 0x404000) 65536).toOption.map narrowLines := by
    decide +kernel
  obtain ⟨file, hfile, haddresses⟩ := Option.map_eq_some_iff.mp hfirst
  obtain ⟨file', hfile', haddresses'⟩ := Option.map_eq_some_iff.mp hsecond
  rw [hfile, hfile', Option.map_some, Option.map_some, Option.some.injEq] at hlines
  refine ⟨file, file', eq_ok_of_toOption hfile, eq_ok_of_toOption hfile', haddresses,
    haddresses', ?_⟩
  -- the texts are equal because the lines are
  rw [renderCalls_eq (by decide), renderCalls_eq (by decide)]
  exact congrArg (fun lines => String.ofList (lines.flatMap (· ++ ['\n']))) hlines

end Display

end ElfInspect
