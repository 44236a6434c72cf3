import ElfInspect.Proofs.Config.Sharing

namespace ElfInspect

/-!
# Settings and their keys

Each setting has a key in one of the sections, and what it is depends on the value of this key
alone.  Whatever else stands in a document makes no difference: neither to the settings, nor to the
error if they are refused.

* `Setting` — the declared settings, each with its section and its key;
* `Setting.of`, `Setting.lookup?` — what a setting is, and what a document has for it;
* `ConfigSection.SameIn` — two documents have the same in a section, as far as it is declared;
* `DocumentEdit` — a key that is added, removed or changed, in a document or in a section of it;
* `DocumentEdit.Spares.sameIn` — an edit elsewhere leaves a section the same;
* `Config.settings_independent` — settings depend on their own keys.
-/

/-! ### Keys of tables -/

namespace Toml

/-- A table with a value for a key, or without the key. -/
def edit (key : String) (value : Option Value) (entries : Entries) : Entries :=
  match value with
  | none => entries.filter fun entry => entry.1 ≠ key
  | some value =>
    match Value.find? key entries with
    | none => entries ++ [(key, value)]
    | some _ => replaceEntry key value entries

variable {key other : String} {value : Value} {entries : Entries}

/-- A new entry is found by its key, and all others as before. -/
theorem find?_append_entry (h : Value.find? key entries = none) :
    Value.find? other (entries ++ [(key, value)]) =
      if other = key then some value else Value.find? other entries := by
  induction entries with
  | nil =>
    rw [List.nil_append, Value.find?_cons]
    exact if_congr eq_comm rfl rfl
  | cons entry rest ih =>
    obtain ⟨name, found⟩ := entry
    rw [Value.find?_cons] at h
    by_cases hname : name = key
    · rw [if_pos hname] at h
      cases h
    · rw [if_neg hname] at h
      rw [List.cons_append, Value.find?_cons, Value.find?_cons, ih h]
      by_cases hother : name = other
      · rw [if_pos hother, if_pos hother, if_neg (hother ▸ hname)]
      · rw [if_neg hother, if_neg hother]

/-- An entry that is replaced is found with its new value, and all others as before. -/
theorem find?_replaceEntry (h : (Value.find? key entries).isSome) :
    Value.find? other (replaceEntry key value entries) =
      if other = key then some value else Value.find? other entries := by
  induction entries with
  | nil => cases h
  | cons entry rest ih =>
    obtain ⟨name, found⟩ := entry
    rw [Value.find?_cons] at h
    rw [replaceEntry]
    by_cases hname : name = key
    · subst hname
      rw [if_pos rfl, Value.find?_cons, Value.find?_cons]
      by_cases hother : name = other
      · rw [if_pos hother, if_pos hother.symm]
      · rw [if_neg hother, if_neg hother, if_neg (Ne.symm hother)]
    · rw [if_neg hname] at h ⊢
      rw [Value.find?_cons, Value.find?_cons, ih h]
      by_cases hother : name = other
      · rw [if_pos hother, if_pos hother, if_neg (hother ▸ hname)]
      · rw [if_neg hother, if_neg hother]

/-- An entry that is taken out is not found any more, and all others are as before. -/
theorem find?_filter_ne :
    Value.find? other (entries.filter fun entry => entry.1 ≠ key) =
      if other = key then none else Value.find? other entries := by
  induction entries with
  | nil => simp
  | cons entry rest ih =>
    obtain ⟨name, found⟩ := entry
    by_cases hname : name = key
    · rw [List.filter_cons_of_neg (by simpa using hname), ih, Value.find?_cons]
      by_cases hother : other = key
      · rw [if_pos hother, if_pos hother]
      · have hne : name ≠ other := fun h => hother (h ▸ hname)
        rw [if_neg hother, if_neg hother, if_neg hne]
    · rw [List.filter_cons_of_pos (by simpa using hname), Value.find?_cons, Value.find?_cons, ih]
      by_cases hother : name = other
      · rw [if_pos hother, if_pos hother, if_neg (hother ▸ hname)]
      · rw [if_neg hother, if_neg hother]

/-- An edit is seen at its key and nowhere else. -/
theorem find?_edit (key other : String) (value : Option Value) (entries : Entries) :
    Value.find? other (edit key value entries) =
      if other = key then value else Value.find? other entries := by
  unfold edit
  cases value with
  | none => exact find?_filter_ne
  | some value =>
    cases hfound : Value.find? key entries with
    | none => exact find?_append_entry hfound
    | some found => exact find?_replaceEntry (by rw [hfound]; rfl)

end Toml

/-! ### Declared settings -/

/-- The sections of a settings document. -/
inductive ConfigSection
  | general
  | decoder
  | display
  deriving Repr, DecidableEq

/-- The key of a section in a document. -/
def ConfigSection.name : ConfigSection → String
  | .general => "global"
  | .decoder => "decoder"
  | .display => "display"

/-- The declared settings. -/
inductive Setting
  | logLevel
  | logFile
  | logJson
  | version
  | readChunkSize
  | showSegments
  | showSections
  | showSymbols
  | maxSymbolRows
  deriving Repr, DecidableEq

namespace Setting

/-- The section of a setting. -/
def place : Setting → ConfigSection
  | .logLevel | .logFile | .logJson | .version => .general
  | .readChunkSize => .decoder
  | .showSegments | .showSections | .showSymbols | .maxSymbolRows => .display

/-- The key of a setting in its section. -/
def key : Setting → String
  | .logLevel => "log_level"
  | .logFile => "log_file"
  | .logJson => "log_json"
  | .version => "version"
  | .readChunkSize => "read_chunk_size"
  | .showSegments => "show_segments"
  | .showSections => "show_sections"
  | .showSymbols => "show_symbols"
  | .maxSymbolRows => "max_symbol_rows"

/-- What a setting is. -/
def of (config : Config) : Setting → Value
  | .logLevel => config.globalSettings.logLevel
  | .logFile => config.globalSettings.logFile
  | .logJson => config.globalSettings.logJson
  | .version => config.globalSettings.version
  | .readChunkSize => config.decoder.readChunkSize
  | .showSegments => config.display.showSegments
  | .showSections => config.display.showSections
  | .showSymbols => config.display.showSymbols
  | .maxSymbolRows => config.display.maxSymbolRows

end Setting

/-! ### Sections of documents -/

namespace ConfigSection

/-- The table of a section.  A section that is missing, or no table, is empty. -/
def table (place : ConfigSection) (entries : Toml.Entries) : Toml.Entries :=
  match Value.find? place.name entries with
  | some (.table inner) => inner
  | _ => []

/-- What stands in the place of a section, if it is no table. -/
def intruder? (place : ConfigSection) (entries : Toml.Entries) : Option Value :=
  match Value.find? place.name entries with
  | none | some (.table _) => none
  | some found => some found

/-- A section that is there has its own table. -/
theorem table_of_find? {place : ConfigSection} {entries inner : Toml.Entries}
    (h : Value.find? place.name entries = some (.table inner)) : place.table entries = inner := by
  unfold table
  rw [h]

/-- A section that is a table is no intruder. -/
theorem intruder?_of_find? {place : ConfigSection} {entries inner : Toml.Entries}
    (h : Value.find? place.name entries = some (.table inner)) :
    place.intruder? entries = none := by
  unfold intruder?
  rw [h]

/-- A section is read as its table, or refused for what stands in its place. -/
theorem sectionEntries_eq (place : ConfigSection) (entries : Toml.Entries) :
    sectionEntries entries place.name =
      match place.intruder? entries with
      | none => .ok (place.table entries)
      | some found => .error (.notTable found) := by
  unfold sectionEntries intruder? table
  cases Value.find? place.name entries with
  | none => rfl
  | some found => cases found <;> rfl

end ConfigSection

/-- What a document has for a setting. -/
def Setting.lookup? (entries : Toml.Entries) (setting : Setting) : Option Value :=
  Value.find? setting.key (setting.place.table entries)

/-- Two documents have the same in a section: the same value for each declared key, and the same in
    place of the section if it is no table. -/
structure ConfigSection.SameIn (place : ConfigSection) (entries entries' : Toml.Entries) :
    Prop where
  intruder?_eq : place.intruder? entries = place.intruder? entries'
  lookup?_eq : ∀ setting : Setting, setting.place = place →
    setting.lookup? entries = setting.lookup? entries'

namespace ConfigSection.SameIn

variable {place : ConfigSection} {entries entries' entries'' : Toml.Entries}

theorem refl (place : ConfigSection) (entries : Toml.Entries) : place.SameIn entries entries :=
  ⟨rfl, fun _ _ => rfl⟩

/-- What two edits leave alone, both leave alone. -/
theorem trans (h : place.SameIn entries entries') (h' : place.SameIn entries' entries'') :
    place.SameIn entries entries'' :=
  ⟨h.intruder?_eq.trans h'.intruder?_eq, fun setting hplace =>
    (h.lookup?_eq setting hplace).trans (h'.lookup?_eq setting hplace)⟩

end ConfigSection.SameIn

/-! ### Settings of a document -/

namespace Config

variable {entries entries' : Toml.Entries} {config config' : Config}

/-- What the settings of a document are made of, if no section is refused. -/
theorem ofEntries_eq_ok (h : ofEntries entries = .ok config) :
    config.globalSettings = .ofEntries (ConfigSection.general.table entries) ∧
      config.decoder.readChunkSize =
        settingOr (ConfigSection.decoder.table entries) "read_chunk_size" (.integer 65536) ∧
      config.display = .ofEntries (ConfigSection.display.table entries) := by
  -- each section has been found as the table that its name leads to
  have htable (place : ConfigSection) {inner : Toml.Entries}
      (h : sectionEntries entries place.name = .ok inner) : inner = place.table entries := by
    rw [ConfigSection.sectionEntries_eq] at h
    split at h
    · exact (Except.ok.inj h).symm
    · cases h
  obtain ⟨general, hgeneral, h⟩ := exists_of_bind_eq_ok h
  obtain ⟨decoder, hdecoder, h⟩ := exists_of_bind_eq_ok h
  obtain ⟨size, hsize, h⟩ := exists_of_bind_eq_ok h
  obtain ⟨display, hdisplay, h⟩ := exists_of_bind_eq_ok h
  cases h
  obtain rfl := htable .general hgeneral
  obtain rfl := htable .decoder hdecoder
  obtain rfl := htable .display hdisplay
  refine ⟨rfl, ?_, rfl⟩
  unfold DecoderSettings.ofEntries DecoderSettings.ofChunkSize at hsize
  split at hsize
  · cases hsize
    rfl
  · cases hsize

/-- **Single settings.**  Each is what the document has for it, or else its default. -/
theorem setting_eq (h : ofEntries entries = .ok config) (setting : Setting) :
    setting.of config = (setting.lookup? entries).getD (setting.of {}) := by
  obtain ⟨hgeneral, hdecoder, hdisplay⟩ := ofEntries_eq_ok h
  cases setting with
  | logLevel | logFile | logJson | version =>
    simp only [Setting.of, hgeneral]
    rfl
  | readChunkSize =>
    simp only [Setting.of, hdecoder]
    rfl
  | showSegments | showSections | showSymbols | maxSymbolRows =>
    simp only [Setting.of, hdisplay]
    rfl

/-- Documents that have the same in a section agree on its settings. -/
theorem setting_congr {place : ConfigSection} (hsame : place.SameIn entries entries')
    (h : ofEntries entries = .ok config) (h' : ofEntries entries' = .ok config')
    {setting : Setting} (hplace : setting.place = place) :
    setting.of config' = setting.of config := by
  rw [setting_eq h, setting_eq h', hsame.lookup?_eq setting hplace]

/-- **Whole documents.**  Those that have the same in every section have the same settings, or are
    refused for the same reason. -/
theorem ofEntries_congr (h : ∀ place : ConfigSection, place.SameIn entries entries') :
    ofEntries entries = ofEntries entries' := by
  have hsetting (setting : Setting) (default : Value) :
      settingOr (setting.place.table entries) setting.key default =
        settingOr (setting.place.table entries') setting.key default :=
    congrArg (Option.getD · default) ((h setting.place).lookup?_eq setting rfl)
  have hgeneral : GlobalSettings.ofEntries (ConfigSection.general.table entries) =
      .ofEntries (ConfigSection.general.table entries') := by
    show GlobalSettings.mk _ _ _ _ = GlobalSettings.mk _ _ _ _
    rw [GlobalSettings.mk.injEq]
    exact ⟨hsetting .logLevel _, hsetting .logFile _, hsetting .logJson _, hsetting .version _⟩
  have hdecoder : DecoderSettings.ofEntries (ConfigSection.decoder.table entries) =
      DecoderSettings.ofEntries (ConfigSection.decoder.table entries') :=
    congrArg DecoderSettings.ofChunkSize (hsetting .readChunkSize _)
  have hdisplay : DisplaySettings.ofEntries (ConfigSection.display.table entries) =
      .ofEntries (ConfigSection.display.table entries') := by
    show DisplaySettings.mk _ _ _ _ = DisplaySettings.mk _ _ _ _
    rw [DisplaySettings.mk.injEq]
    exact ⟨hsetting .showSegments _, hsetting .showSections _, hsetting .showSymbols _,
      hsetting .maxSymbolRows _⟩
  -- the sections are taken in the same order, and each is refused in both documents or in none
  have hsection {α : Type} (place : ConfigSection) {f g : Toml.Entries → Except ConfigError α}
      (hrest : f (place.table entries) = g (place.table entries')) :
      (sectionEntries entries place.name >>= f) = (sectionEntries entries' place.name >>= g) := by
    rw [place.sectionEntries_eq, place.sectionEntries_eq, (h place).intruder?_eq]
    cases place.intruder? entries' with
    | none => exact hrest
    | some found => rfl
  unfold ofEntries
  refine hsection .general (hsection .decoder ?_)
  rw [hdecoder]
  refine congrArg _ (funext fun decoder => hsection .display ?_)
  rw [hgeneral, hdisplay]

end Config

/-! ### Edits -/

/-- The document with other keys in a section.  A section that is missing is added. -/
def ConfigSection.put (place : ConfigSection) (inner entries : Toml.Entries) : Toml.Entries :=
  Toml.edit place.name (some (.table inner)) entries

/-- A key of a document, or of a section in it, that gets a value or is removed. -/
inductive DocumentEdit
  | entry (key : String) (value : Option Value)
  | setting (place : ConfigSection) (key : String) (value : Option Value)

namespace DocumentEdit

/-- The document after an edit.  What is no table has no keys to edit. -/
def apply (entries : Toml.Entries) : DocumentEdit → Toml.Entries
  | .entry key value => Toml.edit key value entries
  | .setting place key value =>
    match place.intruder? entries with
    | some _ => entries
    | none => place.put (Toml.edit key value (place.table entries)) entries

/-- The document after edits, one after another. -/
def applyAll (edits : List DocumentEdit) (entries : Toml.Entries) : Toml.Entries :=
  edits.foldl apply entries

/-- An edit changes nothing that is declared in a section: another entry of the document, another
    section, or a key that the section does not declare. -/
def Spares (place : ConfigSection) : DocumentEdit → Prop
  | .entry key _ => key ≠ place.name
  | .setting other key _ => other = place → ∀ setting : Setting, setting.place = place →
      setting.key ≠ key

end DocumentEdit

namespace ConfigSection

variable {place : ConfigSection} {entries entries' : Toml.Entries}

/-- A section is the same where the same value stands in its place. -/
theorem SameIn.of_find? (h : Value.find? place.name entries = Value.find? place.name entries') :
    place.SameIn entries entries' := by
  have htable : place.table entries = place.table entries' := by
    unfold table
    rw [h]
  refine ⟨?_, ?_⟩
  · unfold intruder?
    rw [h]
  · rintro setting rfl
    unfold Setting.lookup?
    rw [htable]

/-- A section that is put into a document is found there. -/
theorem find?_put (place : ConfigSection) (inner entries : Toml.Entries) :
    Value.find? place.name (place.put inner entries) = some (.table inner) := by
  unfold put
  rw [Toml.find?_edit, if_pos rfl]

/-- The sections have different names. -/
theorem name_injective : Function.Injective name := by
  intro a b
  cases a <;> cases b <;> decide

/-- A key that the section does not declare is not seen in it. -/
theorem sameIn_edit {key : String} (value : Option Value)
    (hkey : ∀ setting : Setting, setting.place = place → setting.key ≠ key)
    (hintruder : place.intruder? entries = none) :
    place.SameIn entries (place.put (Toml.edit key value (place.table entries)) entries) := by
  have hfind := place.find?_put (Toml.edit key value (place.table entries)) entries
  refine ⟨hintruder.trans (intruder?_of_find? hfind).symm, ?_⟩
  rintro setting rfl
  unfold Setting.lookup?
  rw [table_of_find? hfind, Toml.find?_edit, if_neg (hkey setting rfl)]

end ConfigSection

namespace DocumentEdit

variable {place : ConfigSection} {edit : DocumentEdit}

/-- **One edit** leaves the sections the same that it spares. -/
theorem Spares.sameIn (h : edit.Spares place) (entries : Toml.Entries) :
    place.SameIn entries (edit.apply entries) := by
  cases edit with
  | entry key value =>
    refine .of_find? ?_
    rw [apply, Toml.find?_edit, if_neg (Ne.symm h)]
  | setting other key value =>
    rw [apply]
    cases hintruder : other.intruder? entries with
    | some found => exact .refl place entries
    | none =>
      dsimp only
      by_cases hother : other = place
      · subst hother
        exact ConfigSection.sameIn_edit value (h rfl) hintruder
      · -- another section is another entry of the document
        refine .of_find? ?_
        rw [ConfigSection.put, Toml.find?_edit,
          if_neg fun h => hother (ConfigSection.name_injective h.symm)]

/-- **Any edits** leave the sections the same that all of them spare. -/
theorem sameIn_applyAll {edits : List DocumentEdit} (h : ∀ edit ∈ edits, edit.Spares place)
    (entries : Toml.Entries) : place.SameIn entries (applyAll edits entries) := by
  induction edits generalizing entries with
  | nil => exact .refl place entries
  | cons edit rest ih =>
    have hedit := h edit List.mem_cons_self
    have hrest := ih fun edit hmem => h edit (List.mem_cons_of_mem _ hmem)
    exact (hedit.sameIn entries).trans (hrest (edit.apply entries))

end DocumentEdit

/-! ### Settings files -/

namespace Config

/-- A path leads to a file with the text of a document. -/
def Holds (store : Store) (path : String) (entries : Toml.Entries) : Prop :=
  ∃ location content chars, store.find (Path.normalize path) = .ok (location, .file content) ∧
    Utf8.decode content.toList = .ok chars ∧ Toml.read chars = .ok entries

/-- The settings of a file are those of its document. -/
theorem Holds.loadOr {fallback : String} {store : Store} {path : Option String}
    {entries : Toml.Entries} (h : Holds store (path.getD fallback) entries) :
    loadOr fallback store path = ofEntries entries := by
  obtain ⟨location, content, chars, hfind, htext, hread⟩ := h
  rw [loadOr_file hfind]
  simp only [ofBytes, htext, hread]

/-- **Settings depend on their own keys.**  When a document is loaded, each setting is what the
    document has for it, or else its default.

    Another document that has the same for all declared keys of a section gives the same settings in
    this section, whatever else it holds.  If it has the same in every section, all that is loaded
    is the same, and if one is refused the other is refused for the same reason.  Documents have the
    same in a section, in particular, if one comes from the other by any edits elsewhere: of keys
    that are not declared, of other sections, and of other entries. -/
theorem settings_independent {fallback : String} {store : Store} {path : Option String}
    {entries : Toml.Entries} (h : Holds store (path.getD fallback) entries) :
    (∀ config, loadOr fallback store path = .ok config →
      ∀ setting : Setting, setting.of config = (setting.lookup? entries).getD (setting.of {})) ∧
    (∀ store' path' entries', Holds store' (Option.getD path' fallback) entries' →
      ((∀ place : ConfigSection, place.SameIn entries entries') →
        loadOr fallback store' path' = loadOr fallback store path) ∧
      ∀ (place : ConfigSection) (config config' : Config), place.SameIn entries entries' →
        loadOr fallback store path = .ok config → loadOr fallback store' path' = .ok config' →
        ∀ setting : Setting, setting.place = place → setting.of config' = setting.of config) ∧
    ∀ (edits : List DocumentEdit) (place : ConfigSection),
      (∀ edit ∈ edits, edit.Spares place) →
      place.SameIn entries (DocumentEdit.applyAll edits entries) := by
  rw [h.loadOr]
  refine ⟨fun config hconfig => setting_eq hconfig, fun store' path' entries' h' => ?_,
    fun edits place hspares => DocumentEdit.sameIn_applyAll hspares entries⟩
  rw [h'.loadOr]
  refine ⟨fun hsame => (ofEntries_congr hsame).symm, ?_⟩
  intro place config config' hsame hconfig hconfig' setting hplace
  exact setting_congr hsame hconfig hconfig' hplace

end Config

/-! ### Small documents -/

namespace Toml

/-- Whether two tables have the same texts and integers under the same keys. -/
def sameScalars : Entries → Entries → Bool
  | [], [] => true
  | (key, value) :: rest, (key', value') :: rest' =>
    key = key' && value.sameScalar value' && sameScalars rest rest'
  | _, _ => false

/-- Whether two documents consist of the same sections, with nothing but texts and integers. -/
def sameSections : Entries → Entries → Bool
  | [], [] => true
  | (name, .table inner) :: rest, (name', .table inner') :: rest' =>
    name = name' && sameScalars inner inner' && sameSections rest rest'
  | _, _ => false

/-- Two tables of scalars that look the same are the same. -/
theorem eq_of_sameScalars {a b : Entries} (h : sameScalars a b = true) : a = b := by
  induction a generalizing b with
  | nil =>
    cases b with
    | nil => rfl
    | cons entry rest => cases h
  | cons entry rest ih =>
    cases b with
    | nil => cases h
    | cons entry' rest' =>
      obtain ⟨key, value⟩ := entry
      obtain ⟨key', value'⟩ := entry'
      simp only [sameScalars, Bool.and_eq_true, decide_eq_true_eq] at h
      obtain ⟨⟨rfl, hvalue⟩, hrest⟩ := h
      rw [Value.eq_of_sameScalar hvalue, ih hrest]

/-- So are two documents of such tables. -/
theorem eq_of_sameSections {a b : Entries} (h : sameSections a b = true) : a = b := by
  fun_induction sameSections a b with
  | case1 => rfl
  | case2 name inner rest name' inner' rest' ih =>
    simp only [Bool.and_eq_true, decide_eq_true_eq] at h
    obtain ⟨⟨rfl, hinner⟩, hrest⟩ := h
    rw [eq_of_sameScalars hinner, ih hrest]
  | case3 => cases h

/-- A document that is read and has the sections that are expected. -/
theorem read_of_sameSections {chars : List Char} {expected : Entries}
    (h : (read chars).toOption.any (sameSections · expected) = true) :
    read chars = .ok expected := by
  cases hread : read chars with
  | error error =>
    rw [hread] at h
    cases h
  | ok entries =>
    rw [hread] at h
    exact congrArg Except.ok (eq_of_sameSections h)

end Toml

namespace Config

/-- A file with a text holds its document. -/
theorem holds_of_text {store : Store} {path : String} (location : List String) {text : List Char}
    {entries : Toml.Entries} (hread : Toml.read text = .ok entries)
    (hfind : store.find (Path.normalize path) = .ok (location, .file (Utf8.encode text).toArray)) :
    Holds store path entries :=
  ⟨location, (Utf8.encode text).toArray, text, hfind, Utf8.decode_encode text, hread⟩

/-- Settings that are refused are refused for the same reason when keys are added that are not
    declared, and a chunk size stays as it is when a key of another section is added. -/
theorem settings_independent_addedKeys :
    loadOr "config.toml"
        (Inspection.workplace #[] "[decoder]\nread_chunk_size = 0\nspeed = 2\n[paths]\n")
        (some "c.toml") =
      .error (.chunkSize (.integer 0)) ∧
    ∃ config, loadOr "config.toml"
        (Inspection.workplace #[] "[decoder]\nread_chunk_size = 7\n[display]\nshow_symbols = 0\n")
        (some "c.toml") = .ok config ∧
      config.decoder.readChunkSize = .integer 7 := by
  constructor
  · have hread : Toml.read "[decoder]\nread_chunk_size = 0\n".toList =
        .ok [("decoder", .table [("read_chunk_size", .integer 0)])] :=
      Toml.read_of_sameSections (by decide +kernel)
    have hread' : Toml.read "[decoder]\nread_chunk_size = 0\nspeed = 2\n[paths]\n".toList =
        .ok [("decoder", .table [("read_chunk_size", .integer 0), ("speed", .integer 2)]),
          ("paths", .table [])] :=
      Toml.read_of_sameSections (by decide +kernel)
    have hdoc : Holds (Inspection.workplace #[] "[decoder]\nread_chunk_size = 0\n") "c.toml" _ :=
      holds_of_text ["c.toml"] hread (eq_ok_of_toOption (by decide +kernel))
    have hdoc' : Holds (Inspection.workplace #[]
        "[decoder]\nread_chunk_size = 0\nspeed = 2\n[paths]\n") "c.toml" _ :=
      holds_of_text ["c.toml"] hread' (eq_ok_of_toOption (by decide +kernel))
    -- a key that is not declared and a section of another name are of no concern to any setting
    have hspares : ∀ edit ∈ [.setting .decoder "speed" (some (.integer 2)),
        DocumentEdit.entry "paths" (some (.table []))], ∀ place, edit.Spares place := by
      intro edit hedit place
      rcases List.mem_pair.mp hedit with rfl | rfl
      · rintro rfl setting
        cases setting <;> decide
      · cases place <;> simp [DocumentEdit.Spares, ConfigSection.name]
    obtain ⟨-, hsame, hedits⟩ :=
      @settings_independent "config.toml" _ (some "c.toml") _ hdoc
    rw [(hsame _ (some "c.toml") _ hdoc').1 fun place =>
      hedits _ place fun edit hedit => hspares edit hedit place]
    exact @Holds.loadOr "config.toml" _ (some "c.toml") _ hdoc
  · have hread : Toml.read "[decoder]\nread_chunk_size = 7\n".toList =
        .ok [("decoder", .table [("read_chunk_size", .integer 7)])] :=
      Toml.read_of_sameSections (by decide +kernel)
    have hread' : Toml.read "[decoder]\nread_chunk_size = 7\n[display]\nshow_symbols = 0\n".toList =
        .ok [("decoder", .table [("read_chunk_size", .integer 7)]),
          ("display", .table [("show_symbols", .integer 0)])] :=
      Toml.read_of_sameSections (by decide +kernel)
    have hdoc : Holds (Inspection.workplace #[] "[decoder]\nread_chunk_size = 7\n") "c.toml" _ :=
      holds_of_text ["c.toml"] hread (eq_ok_of_toOption (by decide +kernel))
    have hdoc' : Holds (Inspection.workplace #[]
        "[decoder]\nread_chunk_size = 7\n[display]\nshow_symbols = 0\n") "c.toml" _ :=
      holds_of_text ["c.toml"] hread' (eq_ok_of_toOption (by decide +kernel))
    have hload := @Holds.loadOr "config.toml" _ (some "c.toml") _ hdoc
    have hload' := @Holds.loadOr "config.toml" _ (some "c.toml") _ hdoc'
    obtain ⟨hsettings, hsame, hedits⟩ :=
      @settings_independent "config.toml" _ (some "c.toml") _ hdoc
    have hdecoder := hedits [.setting .display "show_symbols" (some (.integer 0))] .decoder
      (by simp [DocumentEdit.Spares])
    have hsize := (hsame _ (some "c.toml") _ hdoc').2 .decoder _ _ hdecoder hload hload'
      .readChunkSize rfl
    exact ⟨_, hload', hsize.trans (hsettings _ hload .readChunkSize)⟩

end Config

end ElfInspect
