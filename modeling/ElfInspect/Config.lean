import ElfInspect.Store
import ElfInspect.Toml.Document

namespace ElfInspect

/-!
# Settings

Settings come in three sections, each with its own defaults.  A settings document may set any of
them; keys and tables that are not declared here are ignored.  The value of a setting is kept as
it is written, whatever its type, except that the chunk size must be a positive integer.

* `Config` and its sections;
* `Config.ofEntries`: the settings of a document;
* `Config.loadOr`: the settings of a file in the store, or what stands in for them.
-/

/-! ### Sections -/

/-- General settings. -/
structure GlobalSettings where
  logLevel : Value := .text "INFO"
  logFile : Value := .null
  logJson : Value := .boolean false
  version : Value := .text "0.1.0"
  deriving Repr, Inhabited

/-- The settings of the decoder. -/
structure DecoderSettings where
  readChunkSize : Value := .integer 65536
  deriving Repr, Inhabited

/-- What is shown of a file. -/
structure DisplaySettings where
  showSegments : Value := .boolean true
  showSections : Value := .boolean true
  showSymbols : Value := .boolean true
  maxSymbolRows : Value := .integer 200
  deriving Repr, Inhabited

/-- All settings. -/
structure Config where
  globalSettings : GlobalSettings := {}
  decoder : DecoderSettings := {}
  display : DisplaySettings := {}
  deriving Repr, Inhabited

/-! ### Errors -/

/-- Why settings cannot be had. -/
inductive ConfigError
  /-- The path leads nowhere. -/
  | notFound (path : String)
  /-- The file cannot be opened. -/
  | refused (cause : PathFault)
  /-- The file does not hold text. -/
  | invalidText (defect : Utf8.Defect)
  /-- The text is not a settings document. -/
  | malformed (error : Toml.Error)
  /-- A section is not a table. -/
  | notTable (found : Value)
  /-- The chunk size is not a positive integer. -/
  | chunkSize (found : Value)
  deriving Repr

/-- The wording of an error. -/
def ConfigError.message : ConfigError → String
  | .notFound path => "Configuration file not found: " ++ path
  | .refused cause => cause.message
  | .invalidText defect => defect.message
  | .malformed error => error.message
  | .notTable found => "'" ++ found.kindName ++ "' object has no attribute 'items'"
  | .chunkSize found =>
    -- The wording shows the value, and fails itself if the value cannot be written.
    if found.isTooLong then NumeralFault.tooLarge.message
    else "decoder.read_chunk_size must be a positive integer, got " ++ found.literal

/-! ### Settings of a document -/

/-- The entry with a given key, or else a default. -/
def settingOr (entries : Toml.Entries) (key : String) (default : Value) : Value :=
  (Value.find? key entries).getD default

/-- The general settings in a table. -/
def GlobalSettings.ofEntries (entries : Toml.Entries) : GlobalSettings :=
  let d : GlobalSettings := {}
  { logLevel := settingOr entries "log_level" d.logLevel
    logFile := settingOr entries "log_file" d.logFile
    logJson := settingOr entries "log_json" d.logJson
    version := settingOr entries "version" d.version }

/-- The integer that a value stands for; a truth value counts as zero or one. -/
def Value.toInt? : Value → Option Int
  | .integer i => some i
  | .boolean b => some (if b then 1 else 0)
  | _ => none

/-- Whether a value is a positive integer. -/
def Value.isPositiveInt (v : Value) : Bool :=
  match v.toInt? with
  | some i => 0 < i
  | none => false

/-- The settings of the decoder with a given chunk size. -/
def DecoderSettings.ofChunkSize (size : Value) : Except ConfigError DecoderSettings :=
  if size.isPositiveInt then .ok { readChunkSize := size } else .error (.chunkSize size)

/-- The settings of the decoder in a table. -/
def DecoderSettings.ofEntries (entries : Toml.Entries) : Except ConfigError DecoderSettings :=
  ofChunkSize (settingOr entries "read_chunk_size" ({} : DecoderSettings).readChunkSize)

/-- The display settings in a table. -/
def DisplaySettings.ofEntries (entries : Toml.Entries) : DisplaySettings :=
  let d : DisplaySettings := {}
  { showSegments := settingOr entries "show_segments" d.showSegments
    showSections := settingOr entries "show_sections" d.showSections
    showSymbols := settingOr entries "show_symbols" d.showSymbols
    maxSymbolRows := settingOr entries "max_symbol_rows" d.maxSymbolRows }

/-- The table of a section; a section that is missing is empty. -/
def sectionEntries (entries : Toml.Entries) (name : String) :
    Except ConfigError Toml.Entries :=
  match Value.find? name entries with
  | none => .ok []
  | some (.table inner) => .ok inner
  | some found => .error (.notTable found)

namespace Config

/-- The settings of a document.  The sections are taken one after another, so that of several
    errors the first section's is reported. -/
def ofEntries (entries : Toml.Entries) : Except ConfigError Config := do
  let general ← sectionEntries entries "global"
  let decoder ← DecoderSettings.ofEntries (← sectionEntries entries "decoder")
  let display ← sectionEntries entries "display"
  return { globalSettings := .ofEntries general, decoder, display := .ofEntries display }

/-- The settings of a text. -/
def ofBytes (content : Bytes) : Except ConfigError Config :=
  match Utf8.decode content.toList with
  | .error defect => .error (.invalidText defect)
  | .ok chars =>
    match Toml.read chars with
    | .error error => .error (.malformed error)
    | .ok entries => ofEntries entries

/-- The settings of the file at a path. -/
def ofFile (store : Store) (path : String) : Except ConfigError Config :=
  let path := Path.normalize path
  match store.find path with
  -- Only this fault shows when the path is looked up; the others count as nothing being there.
  | .error .nameTooLong => .error (.refused ⟨path, .nameTooLong⟩)
  | .error _ | .ok (_, .absent) => .error (.notFound path)
  | .ok (_, .directory) => .error (.refused ⟨path, .isDirectory⟩)
  | .ok (_, .file content) => ofBytes content

/-- The settings of the file at a path.  Without a path they are those of the file at the fallback
    path, or the defaults if nothing is there. -/
def loadOr (fallback : String) (store : Store) : Option String → Except ConfigError Config
  | some path => ofFile store path
  | none =>
    match ofFile store fallback with
    | .error (.notFound _) => .ok {}
    -- What else is wrong with the file at the fallback path is an error like any other.
    | result => result

/-- The settings with another chunk size, which is not checked. -/
def withChunkSize (config : Config) (size : Value) : Config :=
  { config with decoder := { readChunkSize := size } }

/-- The settings as a value, section by section. -/
def toValue (config : Config) : Value :=
  .table
    [("global_settings", .table
      [("log_level", config.globalSettings.logLevel), ("log_file", config.globalSettings.logFile),
       ("log_json", config.globalSettings.logJson), ("version", config.globalSettings.version)]),
     ("decoder", .table [("read_chunk_size", config.decoder.readChunkSize)]),
     ("display", .table
      [("show_segments", config.display.showSegments),
       ("show_sections", config.display.showSections),
       ("show_symbols", config.display.showSymbols),
       ("max_symbol_rows", config.display.maxSymbolRows)])]

end Config

@[simp]
theorem Value.toInt?_integer (i : Int) : (Value.integer i).toInt? = some i := rfl

@[simp]
theorem sectionEntries_nil (name : String) : sectionEntries [] name = .ok [] := rfl

end ElfInspect
