import ElfInspect.ElfFile
import ElfInspect.Proofs.Offsets
import ElfInspect.Proofs.StringTable
import ElfInspect.Proofs.Tables

namespace ElfInspect

/-!
# The symbols of a section

* `Stored.symbolAt` — the symbol with a given index in a table, with its name looked up;
* `Symbol.Scan` — the loop that decodes a table, driven by the position in it: as long as bytes are
  left, one more entry is decoded, and too few bytes for one are an error;
* `Symbol.scan_decodeTable`, `Symbol.Scan.deterministic` — the loop comes to an end on every table,
  and `Symbol.decodeTable` is what it comes to;
* `ElfFile.SymbolsAre` — what the symbols of a section are, by cases on the section and its bytes;
* `ElfFile.symbols_spec` — `ElfFile.symbols` answers just that.
-/

open StringTable (Resolves LookupFault)

variable {data strings : Bytes} {e : Encoding}

/-! ### Single symbols -/

namespace Stored

/-- The entry with a given index. -/
def entryAt (e : Encoding) (data : Bytes) (i : Nat) : SymbolEntry :=
  symbolEntry e data (i * symbolSize e)

/-- The number of whole entries. -/
def entryCount (e : Encoding) (data : Bytes) : Nat :=
  data.size / symbolSize e

/-- The names of all whole entries are found in a string table. -/
def NamesResolve (e : Encoding) (data strings : Bytes) : Prop :=
  ∀ i < entryCount e data, Resolves strings (entryAt e data i).name

/-- The symbol with a given index. -/
def symbolAt (e : Encoding) (data strings : Bytes) (i : Nat) : Except DecodeError Symbol :=
  (entryAt e data i).resolve strings

end Stored

/-- The symbol carries the fields of the entry, with the packed ones split, and a name whose
    encoding stands in the string table at the offset that the entry gives. -/
structure Symbol.Describes (strings : Bytes) (entry : SymbolEntry) (symbol : Symbol) : Prop where
  inside : entry.name < strings.size
  name : Utf8.encode symbol.name.toList = StringTable.bytesAt strings entry.name
  value : symbol.value = entry.value
  size : symbol.size = entry.size
  shndx : symbol.shndx = entry.shndx
  type : symbol.type = entry.info % 16
  binding : symbol.binding = entry.info / 16
  visibility : symbol.visibility = entry.other % 4

namespace SymbolEntry

variable {entry : SymbolEntry}

/-- A symbol is what an entry describes, with the name that the string table has for it. -/
theorem resolve_eq_ok_iff {symbol : Symbol} :
    entry.resolve strings = .ok symbol ↔ symbol.Describes strings entry := by
  unfold resolve
  cases hlookup : StringTable.lookup strings entry.name with
  | ok name =>
    obtain ⟨hinside, hname⟩ := StringTable.lookup_eq_ok_iff.mp hlookup
    constructor
    · intro h
      rw [← Except.ok.inj h]
      exact ⟨hinside, hname, rfl, rfl, rfl, rfl, rfl, rfl⟩
    · intro h
      -- a text is determined by its encoding
      have hchars := Utf8.encode_inj.mp (hname.trans h.name.symm)
      rcases symbol with ⟨name', value, size, shndx, type, binding, visibility⟩
      have hname' : name = name' := String.toList_inj.mp hchars
      obtain ⟨-, -, rfl, rfl, rfl, rfl, rfl, rfl⟩ := h
      rw [hname']
      rfl
  | error cause =>
    constructor
    · intro h
      cases h
    · intro h
      rw [StringTable.lookup_eq_ok_iff.mpr ⟨h.inside, h.name⟩] at hlookup
      cases hlookup

/-- The only causes are those of looking up a name. -/
theorem resolve_eq_error_iff {cause : DecodeError} :
    entry.resolve strings = .error cause ↔ LookupFault strings entry.name cause := by
  rw [← StringTable.lookup_eq_error_iff]
  unfold resolve
  cases StringTable.lookup strings entry.name with
  | ok name => exact ⟨nofun, nofun⟩
  | error cause' =>
    show Except.error cause' = Except.error cause ↔ _
    simp

/-- An entry whose name can be found describes a symbol. -/
theorem resolves_iff_exists :
    Resolves strings entry.name ↔ ∃ symbol, entry.resolve strings = .ok symbol := by
  rw [StringTable.resolves_iff]
  unfold resolve
  cases StringTable.lookup strings entry.name with
  | ok name => exact ⟨fun _ => ⟨_, rfl⟩, fun _ => ⟨name, rfl⟩⟩
  | error cause => exact ⟨nofun, nofun⟩

end SymbolEntry

/-! ### One entry -/

/-- A whole entry is read wherever one is left. -/
theorem Yields.readSymbol (strings : Bytes) {i : Nat}
    (h : (i + 1) * Stored.symbolSize e ≤ data.size) :
    Yields (Device.Serves data .memory (i * Stored.symbolSize e)) (Symbol.read e strings)
      (Stored.symbolAt e data strings i)
      (Device.Serves data .memory ((i + 1) * Stored.symbolSize e)) := by
  rw [Nat.succ_mul] at h ⊢
  have hentry : Yields (Device.Serves data .memory (i * Stored.symbolSize e)) (SymbolEntry.read e)
      _ _ := readLayout {} (Stored.symbolEntry_width_lt e)
  rw [Stored.size_symbolEntry, Nat.min_eq_left (by omega),
    Stored.record_of_le (by rw [Stored.size_symbolEntry]; omega),
    Stored.decode_symbolEntry] at hentry
  -- the name is looked up without touching the device
  refine bind_ok hentry ?_
  unfold Stored.symbolAt Stored.entryAt
  cases (Stored.symbolEntry e data (i * Stored.symbolSize e)).resolve strings with
  | ok symbol => exact pure symbol
  | error cause => exact throw cause

namespace Symbol

/-! ### Whole tables -/

/-- What remains of a table after its whole entries: nothing, or too few bytes for one more. -/
def finish (e : Encoding) (data : Bytes) (symbols : List Symbol) :
    Except DecodeError (List Symbol) :=
  if data.size % Stored.symbolSize e = 0 then .ok symbols
  else .error (.truncated (Stored.symbolSize e) (data.size % Stored.symbolSize e))

/-- The whole entries of a table are decoded in order, and what remains is looked at last. -/
theorem decodeTable_eq (data strings : Bytes) (e : Encoding) :
    decodeTable data strings e =
      (List.range (Stored.entryCount e data)).mapM (Stored.symbolAt e data strings) >>=
        finish e data := by
  have hsize : SymbolEntry.recordSize e = Stored.symbolSize e := Stored.size_symbolEntry e
  -- before the entry with index `i` the device stands behind `i` entries
  have hentry : ∀ i < Stored.entryCount e data,
      Yields (Device.Serves data .memory (i * Stored.symbolSize e)) (read e strings)
        (Stored.symbolAt e data strings i)
        (Device.Serves data .memory ((i + 1) * Stored.symbolSize e)) := by
    intro i hi
    have hle := Nat.mul_le_mul_right (Stored.symbolSize e) (show i + 1 ≤ _ from hi)
    have hdiv := Nat.div_mul_le_self data.size (Stored.symbolSize e)
    exact Yields.readSymbol strings (Nat.le_trans hle hdiv)
  have hbegin : (Device.ofBytes data).Serves data .memory (0 * Stored.symbolSize e) := by
    rw [Nat.zero_mul]
    exact Device.ofBytes_serves data
  obtain ⟨d, hrun, -⟩ := Yields.repeatDecode
    (P := fun i => Device.Serves data .memory (i * Stored.symbolSize e)) _ hentry _ hbegin
  have hcount : data.size / Stored.symbolSize e = Stored.entryCount e data := rfl
  simp only [decodeTable, hsize, hcount, hrun]
  cases (List.range (Stored.entryCount e data)).mapM (Stored.symbolAt e data strings) with
  | ok symbols => rfl
  | error cause => rfl

/-! ### The loop -/

/-- The loop that decodes a table, from a device in it and with the symbols decoded so far: it stops
    at the end of the table, and otherwise decodes one more entry if there are bytes enough. -/
inductive Scan (data strings : Bytes) (e : Encoding) :
    Device → List Symbol → Except DecodeError (List Symbol) → Prop
  | stop {d : Device} {done : List Symbol} (hend : data.size ≤ d.position) :
      Scan data strings e d done (.ok done)
  | rest {d : Device} {done : List Symbol} (hsome : d.position < data.size)
      (hrest : data.size - d.position < SymbolEntry.recordSize e) :
      Scan data strings e d done
        (.error (.truncated (SymbolEntry.recordSize e) (data.size - d.position)))
  | fault {d d' : Device} {done : List Symbol} {cause : DecodeError}
      (hsome : d.position < data.size)
      (hfits : SymbolEntry.recordSize e ≤ data.size - d.position)
      (hread : read e strings d = .error cause d') : Scan data strings e d done (.error cause)
  | entry {d d' : Device} {done : List Symbol} {symbol : Symbol}
      {result : Except DecodeError (List Symbol)} (hsome : d.position < data.size)
      (hfits : SymbolEntry.recordSize e ≤ data.size - d.position)
      (hread : read e strings d = .ok symbol d')
      (hnext : Scan data strings e d' (done ++ [symbol]) result) :
      Scan data strings e d done result

/-- The loop has one result at most. -/
theorem Scan.deterministic {d : Device} {done : List Symbol}
    {result result' : Except DecodeError (List Symbol)} (h : Scan data strings e d done result)
    (h' : Scan data strings e d done result') : result = result' := by
  -- the guards exclude each other, and one read has one answer
  induction h with
  | stop hend =>
    cases h' with
    | stop => rfl
    | rest hsome | fault hsome | entry hsome => omega
  | rest hsome hrest =>
    cases h' with
    | rest => rfl
    | stop => omega
    | fault _ hfits | entry _ hfits => omega
  | fault hsome hfits hread =>
    cases h' with
    | stop => omega
    | rest _ hrest => omega
    | fault _ _ hread' =>
      rw [hread] at hread'
      cases hread'
      rfl
    | entry _ _ hread' =>
      rw [hread] at hread'
      cases hread'
  | entry hsome hfits hread _ ih =>
    cases h' with
    | stop => omega
    | rest _ hrest => omega
    | fault _ _ hread' =>
      rw [hread] at hread'
      cases hread'
    | entry _ _ hread' hnext' =>
      rw [hread] at hread'
      cases hread'
      exact ih hnext'

/-- The loop from the entry with index `i` on, with `count` whole entries left. -/
theorem scan_from {i count : Nat} (hcount : Stored.entryCount e data = i + count)
    {d : Device} (hd : d.Serves data .memory (i * Stored.symbolSize e)) (done : List Symbol) :
    Scan data strings e d done
      ((List.range' i count).mapM (Stored.symbolAt e data strings) >>=
        fun symbols => finish e data (done ++ symbols)) := by
  have hsize : SymbolEntry.recordSize e = Stored.symbolSize e := Stored.size_symbolEntry e
  have hpos := Stored.symbolSize_pos e
  have hdiv : Stored.entryCount e data * Stored.symbolSize e + data.size % Stored.symbolSize e =
      data.size := Nat.div_add_mod' data.size (Stored.symbolSize e)
  have hlt := Nat.mod_lt data.size hpos
  rw [hcount, Nat.add_mul] at hdiv
  have hposition := hd.position_eq
  -- the entries that are left decrease, and after the last one the rest of the table decides
  induction count generalizing i d done with
  | zero =>
    rw [Nat.zero_mul] at hdiv
    show Scan data strings e d done (finish e data (done ++ []))
    rw [List.append_nil, finish]
    split
    · exact .stop (by omega)
    · have hrest : data.size % Stored.symbolSize e = data.size - d.position := by omega
      rw [hrest, ← hsize]
      exact .rest (by omega) (by omega)
  | succ count ih =>
    rw [Nat.succ_mul] at hdiv
    have hfits : (i + 1) * Stored.symbolSize e ≤ data.size := by
      rw [Nat.succ_mul]
      omega
    obtain ⟨d', hread, hd'⟩ := Yields.readSymbol strings hfits d hd
    rw [List.range'_succ, List.mapM_cons]
    cases hsymbol : Stored.symbolAt e data strings i with
    | error cause =>
      rw [hsymbol] at hread
      exact .fault (by omega) (by omega) hread
    | ok symbol =>
      rw [hsymbol] at hread
      have hnext := ih (i := i + 1) (by omega) hd' (done ++ [symbol])
        (by rw [Nat.succ_mul]; omega) hd'.position_eq
      refine .entry (by omega) (by omega) hread ?_
      convert hnext using 1
      cases (List.range' (i + 1) count).mapM (Stored.symbolAt e data strings) with
      | error cause => rfl
      | ok symbols =>
        show finish e data (done ++ symbol :: symbols) = finish e data (done ++ [symbol] ++ symbols)
        rw [List.append_assoc, List.singleton_append]

/-- **Termination.**  The loop comes to an end on every table, with the result of `decodeTable`. -/
theorem scan_decodeTable (data strings : Bytes) (e : Encoding) :
    Scan data strings e (.ofBytes data) [] (decodeTable data strings e) := by
  rw [decodeTable_eq, List.range_eq_range']
  refine scan_from (Nat.zero_add _).symm ?_ []
  rw [Nat.zero_mul]
  exact Device.ofBytes_serves data

end Symbol

/-! ### Symbols of sections -/

/-- The section is of one of the two kinds that hold symbols. -/
def Section.IsSymbolTable (s : Section) : Prop :=
  s.header.type = Abi.sectionSymtab ∨ s.header.type = Abi.sectionDynsym

/-- The types that hold symbols are those of the two symbol tables. -/
theorem Section.holdsSymbols_iff {s : Section} : s.holdsSymbols = true ↔ s.IsSymbolTable := by
  simp [holdsSymbols, SectionHeader.holdsSymbols, IsSymbolTable]

namespace ElfFile

open Stored (symbolSize entryAt entryCount NamesResolve)

/-- What the symbols of a section are, which may come from any file.  A section of another kind has
    none; a link past the last section is an error whatever the section holds; and otherwise the
    first entry whose name cannot be found decides, and after all of them the rest of the bytes. -/
inductive SymbolsAre (file : ElfFile) (s : Section) : Except DecodeError (List Symbol) → Prop
  | other (htype : ¬ s.IsSymbolTable) : SymbolsAre file s (.ok [])
  | outside (htype : s.IsSymbolTable) (hlink : file.sections.length ≤ s.header.link) :
      SymbolsAre file s (.error (.linkOutside s.name s.header.link file.sections.length))
  | all (htype : s.IsSymbolTable) {t : Section}
      (hlink : file.sections[s.header.link]? = some t)
      (hwhole : symbolSize file.header.encoding ∣ s.data.size) {symbols : List Symbol}
      (hlength : symbols.length = entryCount file.header.encoding s.data)
      (hat : ∀ i (symbol : Symbol), symbols[i]? = some symbol →
        symbol.Describes t.data (entryAt file.header.encoding s.data i)) :
      SymbolsAre file s (.ok symbols)
  | name (htype : s.IsSymbolTable) {t : Section}
      (hlink : file.sections[s.header.link]? = some t) {i : Nat}
      (hi : i < entryCount file.header.encoding s.data)
      (hbefore : ∀ j < i, Resolves t.data (entryAt file.header.encoding s.data j).name)
      {cause : DecodeError}
      (fault : LookupFault t.data (entryAt file.header.encoding s.data i).name cause) :
      SymbolsAre file s (.error cause)
  | rest (htype : s.IsSymbolTable) {t : Section}
      (hlink : file.sections[s.header.link]? = some t)
      (hnames : NamesResolve file.header.encoding s.data t.data)
      (hrest : ¬ symbolSize file.header.encoding ∣ s.data.size) :
      SymbolsAre file s (.error (.truncated (symbolSize file.header.encoding)
        (s.data.size % symbolSize file.header.encoding)))

variable {file : ElfFile} {s : Section}

/-- A section of another type has no symbols, whatever it holds. -/
theorem symbols_of_not_isSymbolTable (htype : ¬ s.IsSymbolTable) : file.symbols s = .ok [] :=
  symbols_of_not_holdsSymbols (Bool.eq_false_iff.mpr (mt Section.holdsSymbols_iff.mp htype))

/-- With a string table at hand, the table of symbols is decoded. -/
theorem symbols_of_link (htype : s.IsSymbolTable) {t : Section}
    (hlink : file.sections[s.header.link]? = some t) :
    file.symbols s = Symbol.decodeTable s.data t.data file.header.encoding := by
  rw [symbols, if_pos (Section.holdsSymbols_iff.mpr htype), hlink]

/-- What `symbols` answers is what the symbols are. -/
theorem symbolsAre_symbols (file : ElfFile) (s : Section) : SymbolsAre file s (file.symbols s) := by
  by_cases htype : s.IsSymbolTable
  · cases hlink : file.sections[s.header.link]? with
    | none =>
      rw [symbols, if_pos (Section.holdsSymbols_iff.mpr htype), hlink]
      exact .outside htype (List.getElem?_eq_none_iff.mp hlink)
    | some t =>
      rw [symbols_of_link htype hlink, Symbol.decodeTable_eq]
      -- names are looked up entry by entry before the bytes left over are noticed
      cases hsymbols : (List.range (entryCount file.header.encoding s.data)).mapM
          (Stored.symbolAt file.header.encoding s.data t.data) with
      | error cause =>
        obtain ⟨i, hi, hfault, hbefore⟩ := mapM_range_eq_error_iff.mp hsymbols
        exact .name htype hlink hi
          (fun j hj => SymbolEntry.resolves_iff_exists.mpr (hbefore j hj))
          (SymbolEntry.resolve_eq_error_iff.mp hfault)
      | ok symbols =>
        obtain ⟨hlength, hat⟩ := mapM_range_eq_ok_iff.mp hsymbols
        show SymbolsAre file s (Symbol.finish file.header.encoding s.data symbols)
        rw [Symbol.finish]
        split
        · rename_i hwhole
          exact .all htype hlink (Nat.dvd_of_mod_eq_zero hwhole) hlength
            fun i symbol h => SymbolEntry.resolve_eq_ok_iff.mp (hat i symbol h)
        · rename_i hrest
          refine .rest htype hlink (fun i hi => SymbolEntry.resolves_iff_exists.mpr ?_)
            fun hdvd => hrest (Nat.mod_eq_zero_of_dvd hdvd)
          have hget : i < symbols.length := by omega
          exact ⟨symbols[i], hat i _ (List.getElem?_eq_getElem hget)⟩
  · rw [symbols_of_not_isSymbolTable htype]
    exact .other htype

/-- The symbols are no other. -/
theorem SymbolsAre.symbols_eq {result : Except DecodeError (List Symbol)}
    (h : SymbolsAre file s result) : file.symbols s = result := by
  cases h with
  | other htype => exact symbols_of_not_isSymbolTable htype
  | outside htype hlink =>
    rw [symbols, if_pos (Section.holdsSymbols_iff.mpr htype), List.getElem?_eq_none hlink]
  | all htype hlink hwhole hlength hat =>
    have hsymbols := (mapM_range_eq_ok_iff (f := Stored.symbolAt _ _ _)).mpr
      ⟨hlength, fun i symbol h => SymbolEntry.resolve_eq_ok_iff.mpr (hat i symbol h)⟩
    rw [symbols_of_link htype hlink, Symbol.decodeTable_eq, hsymbols, ok_bind, Symbol.finish,
      if_pos (Nat.mod_eq_zero_of_dvd hwhole)]
  | name htype hlink hi hbefore fault =>
    have hsymbols := mapM_range_of_error (f := Stored.symbolAt _ _ _) hi
      (SymbolEntry.resolve_eq_error_iff.mpr fault)
      fun j hj => SymbolEntry.resolves_iff_exists.mp (hbefore j hj)
    rw [symbols_of_link htype hlink, Symbol.decodeTable_eq, hsymbols, error_bind]
  | rest htype hlink hnames hrest =>
    obtain ⟨symbols, hsymbols, -⟩ := exists_mapM_range (f := Stored.symbolAt _ _ _)
      fun i hi => SymbolEntry.resolves_iff_exists.mp (hnames i hi)
    rw [symbols_of_link htype hlink, Symbol.decodeTable_eq, hsymbols, ok_bind, Symbol.finish,
      if_neg fun hzero => hrest (Nat.dvd_of_mod_eq_zero hzero)]

/-- There are symbols exactly when all names are found and the bytes end with a whole entry. -/
theorem exists_symbols_iff (htype : s.IsSymbolTable) {t : Section}
    (hlink : file.sections[s.header.link]? = some t) :
    (∃ symbols, file.symbols s = .ok symbols) ↔
      NamesResolve file.header.encoding s.data t.data ∧
      symbolSize file.header.encoding ∣ s.data.size := by
  constructor
  · rintro ⟨symbols, h⟩
    have hare := symbolsAre_symbols file s
    rw [h] at hare
    -- of the five cases only two are left where symbols are found
    cases hare with
    | other hnot => exact absurd htype hnot
    | all _ hlink' hwhole hlength hat =>
      rw [hlink] at hlink'
      cases hlink'
      refine ⟨fun i hi => ?_, hwhole⟩
      have hsymbol := hat i _ (List.getElem?_eq_getElem (show i < symbols.length by omega))
      exact SymbolEntry.resolves_iff_exists.mpr ⟨_, SymbolEntry.resolve_eq_ok_iff.mpr hsymbol⟩
  · rintro ⟨hnames, hwhole⟩
    obtain ⟨symbols, -, hlength, hat⟩ := exists_mapM_range
      fun i hi => SymbolEntry.resolves_iff_exists.mp (hnames i hi)
    exact ⟨symbols, (SymbolsAre.all htype hlink hwhole hlength fun i symbol h =>
      SymbolEntry.resolve_eq_ok_iff.mp (hat i symbol h)).symbols_eq⟩

/-- Input that ends too early is a rest of bytes behind all whole entries. -/
theorem truncated_of_symbols {expected actual : Nat}
    (h : file.symbols s = .error (.truncated expected actual)) :
    ∃ t, file.sections[s.header.link]? = some t ∧
      NamesResolve file.header.encoding s.data t.data ∧
      expected = symbolSize file.header.encoding ∧
      actual = s.data.size % symbolSize file.header.encoding := by
  have hare := symbolsAre_symbols file s
  rw [h] at hare
  cases hare with
  | name _ _ _ _ fault =>
    have htruncated := fault.isTruncated_eq
    cases htruncated
  | rest _ hlink hnames _ => exact ⟨_, hlink, hnames, rfl, rfl⟩

/-- **Symbols.**  The symbols of a section are determined by its kind, its link, its bytes and the
    string table that it links to.  There are symbols exactly when all names are found and the bytes
    end with a whole entry; input that ends too early is always a rest of bytes behind all whole
    entries, never an entry that breaks off; and the loop over the position in the bytes comes to an
    end with just this result. -/
theorem symbols_spec (file : ElfFile) (s : Section) :
    (∀ result, file.symbols s = result ↔ SymbolsAre file s result) ∧
    (∀ t, s.IsSymbolTable → file.sections[s.header.link]? = some t →
      ((∃ symbols, file.symbols s = .ok symbols) ↔
        NamesResolve file.header.encoding s.data t.data ∧
        symbolSize file.header.encoding ∣ s.data.size)) ∧
    (∀ expected actual, file.symbols s = .error (.truncated expected actual) →
      ∃ t, file.sections[s.header.link]? = some t ∧
        NamesResolve file.header.encoding s.data t.data ∧
        expected = symbolSize file.header.encoding ∧
        actual = s.data.size % symbolSize file.header.encoding) ∧
    ∀ t, s.IsSymbolTable → file.sections[s.header.link]? = some t → ∀ result,
      Symbol.Scan s.data t.data file.header.encoding (.ofBytes s.data) [] result ↔
        file.symbols s = result := by
  have hare := symbolsAre_symbols file s
  refine ⟨fun result => ⟨fun h => h ▸ hare, SymbolsAre.symbols_eq⟩,
    fun t htype hlink => exists_symbols_iff htype hlink,
    fun expected actual => truncated_of_symbols, fun t htype hlink result => ?_⟩
  rw [symbols_of_link htype hlink]
  have hscan := Symbol.scan_decodeTable s.data t.data file.header.encoding
  exact ⟨hscan.deterministic, fun h => h ▸ hscan⟩

/-- A 32-bit file with a string table of one name. -/
def oneName : ElfFile :=
  { header := { elfClass := 1, data := 1 }, sections := [⟨".strtab", {}, #[0, 97, 0]⟩] }

/-- A section of two entries and a rest of three bytes.  The name of the second entry lies outside
    the string table. -/
def twoEntries : Section :=
  let bytes : List UInt8 := 1 :: List.replicate 15 0 ++ 7 :: List.replicate 18 0
  ⟨".symtab", { type := Abi.sectionSymtab }, bytes.toArray⟩

/-- The name of the first entry is reported before the bytes that are left over. -/
theorem symbols_spec_twoEntries :
    ¬ symbolSize oneName.header.encoding ∣ twoEntries.data.size ∧
      oneName.symbols twoEntries = .error (.stringOutside 7 3) := by
  have hentry : (entryAt oneName.header.encoding twoEntries.data 1).name = 7 := by decide +kernel
  have hfault : LookupFault #[0, 97, 0] (entryAt oneName.header.encoding twoEntries.data 1).name
      (.stringOutside 7 3) := by
    rw [hentry]
    exact .outside (by decide)
  have hbefore : ∀ j < 1,
      Resolves #[0, 97, 0] (entryAt oneName.header.encoding twoEntries.data j).name := by
    decide +kernel
  refine ⟨by decide +kernel, ((symbols_spec oneName twoEntries).1 _).mpr ?_⟩
  exact .name (.inl rfl) rfl (by decide +kernel) hbefore hfault

end ElfFile

end ElfInspect
