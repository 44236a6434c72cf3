import ElfInspect.Store
import ElfInspect.Text.Likeness

namespace ElfInspect

/-!
# The command line

    PATH [--symbols | --no-symbols] [--section NAME] [--json] [--output FILE] [--config FILE]
    [--verbose] [--help]

Options may stand before and after the path, up to a word `--`, after which no word is an option.
Some options have a short name of one letter; several of these may stand in one word, and the rest
of the word after one that takes a value is its value.  The last use of an option counts.

* `Invocation`: how a file is to be inspected;
* `Request`: what a command line asks for, an inspection or help;
* `UsageError`: why a command line is not understood;
* `Request.ofArguments`: what a list of words asks for.
-/

/-! ### Options -/

/-- The options. -/
inductive CommandOption
  | showSymbols
  | hideSymbols
  | sectionName
  | json
  | output
  | config
  | verbose
  | help
  deriving Repr, DecidableEq

namespace CommandOption

/-- The long names. -/
def longNames : List (String × CommandOption) :=
  [("--symbols", .showSymbols), ("--no-symbols", .hideSymbols), ("--section", .sectionName),
   ("--json", .json), ("--output", .output), ("--config", .config), ("--verbose", .verbose),
   ("--help", .help)]

/-- The short names. -/
def shortNames : List (Char × CommandOption) :=
  [('s', .sectionName), ('o', .output), ('c', .config), ('v', .verbose)]

/-- Whether a value belongs to the option. -/
def takesValue : CommandOption → Bool
  | .sectionName | .output | .config => true
  | .showSymbols | .hideSymbols | .json | .verbose | .help => false

/-- The option in a message. -/
def hint : CommandOption → String
  | .config => "'--config' / '-c'"
  | .output => "'--output' / '-o'"
  | .sectionName => "'--section' / '-s'"
  | .verbose => "'--verbose' / '-v'"
  | .json => "'--json'"
  | .help => "'--help'"
  | .showSymbols | .hideSymbols => "'--symbols' / '--no-symbols'"

end CommandOption

/-! ### Errors -/

/-- Why a command line is not understood. -/
inductive UsageError
  /-- The name is none of an option, and some that are may have been meant. -/
  | unknownOption (name : String) (meant : List String)
  | missingValue (name : String)
  | unexpectedValue (name : String)
  | missingPath
  | extraArguments (words : List String)
  /-- The path of an option or argument leads nowhere. -/
  | fileMissing (hint path : String)
  /-- The path of an option or argument leads to a directory. -/
  | fileIsDirectory (hint path : String)
  deriving Repr, DecidableEq

/-- Why nothing is done about a command line: it is not understood, or it asks for something that
    cannot be. -/
inductive Refusal
  | usage (error : UsageError)
  | misuse (cause : Misuse)
  deriving Repr, DecidableEq

/-- The wording of an error. -/
def UsageError.message : UsageError → String
  | .unknownOption name meant => "No such option " ++ quoteText name ++ "." ++ suggestWords meant
  | .missingValue name => "Option " ++ quoteText name ++ " requires an argument."
  | .unexpectedValue name => "Option " ++ quoteText name ++ " does not take a value."
  | .missingPath => "Missing argument 'PATH'."
  | .extraArguments words =>
    "Got unexpected extra argument" ++ (if words.length = 1 then "" else "s") ++ " (" ++
      " ".intercalate words ++ ")"
  | .fileMissing hint path =>
    "Invalid value for " ++ hint ++ ": File " ++ quoteText path ++ " does not exist."
  | .fileIsDirectory hint path =>
    "Invalid value for " ++ hint ++ ": File " ++ quoteText path ++ " is a directory."

/-! ### Words -/

/-- The options and their values in the order given, with no text as the value of an option that
    takes none, and the words that are neither. -/
structure GivenWords where
  options : List (CommandOption × String) := []
  positional : List String := []
  deriving Repr, DecidableEq

/-- What a word of options says: options that are complete and, if its value is yet to come, one
    more with the name it was given by. -/
structure OptionWord where
  complete : List (CommandOption × String) := []
  pending : Option (CommandOption × String) := none
  deriving Repr, DecidableEq

/-- Splits a word at its first equals sign. -/
def splitAtEquals (word : List Char) : List Char × Option (List Char) :=
  match word.dropWhile (· ≠ '=') with
  | [] => (word, none)
  | _ :: value => (word.takeWhile (· ≠ '='), some value)

/-- The short options of a word, after its hyphen. -/
def readShort : List Char → Except UsageError OptionWord
  | [] => .ok {}
  | c :: rest =>
    let name := String.ofList ['-', c]
    match CommandOption.shortNames.lookup c with
    | none => .error (.unknownOption name [])
    | some option =>
      if option.takesValue then
        -- The rest of the word is the value, also if it begins with an equals sign.
        if rest.isEmpty then .ok { pending := some (option, name) }
        else .ok { complete := [(option, String.ofList rest)] }
      else do
        let word ← readShort rest
        return { word with complete := (option, "") :: word.complete }

/-- Reads a word that starts with a hyphen.  The value of a long option may follow it after an
    equals sign.  Only an unknown long name brings others to mind. -/
def readOptionWord (word : String) : Except UsageError OptionWord :=
  let (name, value) := splitAtEquals word.toList
  let name := String.ofList name
  match CommandOption.longNames.lookup name with
  | some option =>
    match value with
    | some value =>
      if option.takesValue then .ok { complete := [(option, String.ofList value)] }
      else .error (.unexpectedValue name)
    | none =>
      if option.takesValue then .ok { pending := some (option, name) }
      else .ok { complete := [(option, "")] }
  | none =>
    -- A word with one hyphen may be several short options.
    if word.startsWith "--" then
      .error (.unknownOption name (closeWords (CommandOption.longNames.map (·.1)) name))
    else readShort word.toList.tail

/-- Whether a word is one of options. -/
def isOptionWord (word : String) : Bool :=
  -- A single hyphen is an ordinary word.
  word.startsWith "-" && 1 < word.length

/-- Reads all words. -/
def readWords (given : GivenWords) : List String → Except UsageError GivenWords
  | [] => .ok given
  | word :: rest =>
    if word = "--" then .ok { given with positional := given.positional ++ rest }
    else if isOptionWord word then
      match readOptionWord word with
      | .error e => .error e
      | .ok { complete, pending := none } =>
        readWords { given with options := given.options ++ complete } rest
      | .ok { complete, pending := some (option, name) } =>
        match rest with
        | [] => .error (.missingValue name)
        -- The next word is the value, whatever it looks like.
        | value :: rest =>
          readWords { given with options := given.options ++ complete ++ [(option, value)] } rest
    else readWords { given with positional := given.positional ++ [word] } rest

/-! ### Invocations -/

/-- How a file is to be inspected. -/
structure Invocation where
  path : String
  symbols : Option Bool := none
  sectionName : Option String := none
  json : Bool := false
  output : Option String := none
  config : Option String := none
  verbose : Bool := false
  deriving Repr, DecidableEq

namespace GivenWords

/-- The value of the last use of an option. -/
def value? (given : GivenWords) (option : CommandOption) : Option String :=
  (given.options.reverse.find? (·.1 = option)).map (·.2)

/-- Whether symbols are asked for or refused, by whichever came last. -/
def symbols? (given : GivenWords) : Option Bool :=
  (given.options.reverse.find? fun o => o.1 = .showSymbols || o.1 = .hideSymbols).map
    (·.1 = .showSymbols)

/-- The invocation for a path. -/
def invocation (given : GivenWords) (path : String) : Invocation :=
  { path, symbols := given.symbols?, sectionName := given.value? .sectionName
    json := (given.value? .json).isSome, output := given.value? .output
    config := given.value? .config, verbose := (given.value? .verbose).isSome }

end GivenWords

/-- A file that must exist. -/
def checkFile (store : Store) (hint path : String) : Except Refusal Unit :=
  match store.find path with
  | .error .nulInPath => .error (.misuse .nulInPath)
  | .error _ | .ok (_, .absent) => .error (.usage (.fileMissing hint path))
  | .ok (_, .directory) => .error (.usage (.fileIsDirectory hint path))
  | .ok (_, .file _) => .ok ()

/-- A file that may be created. -/
def checkTarget (store : Store) (hint path : String) : Except Refusal Unit :=
  match store.find path with
  | .error .nulInPath => .error (.misuse .nulInPath)
  | .ok (_, .directory) => .error (.usage (.fileIsDirectory hint path))
  | _ => .ok ()

/-- Checks the value of an option. -/
def checkOption (store : Store) (given : GivenWords) (option : CommandOption) :
    Except Refusal Unit :=
  match option, given.value? option with
  | .config, some path => checkFile store option.hint path
  | .output, some path => checkTarget store option.hint path
  | _, _ => .ok ()

/-- How the path is called in messages. -/
def pathHint : String := "'PATH'"

/-- What a command line asks for. -/
inductive Request
  | help
  | inspect (invocation : Invocation)
  deriving Repr, DecidableEq

/-- What a list of words asks for.  Help comes before all checks.  Options are checked in the order
    given, then the path, and last the number of words. -/
def Request.ofArguments (store : Store) (arguments : List String) :
    Except Refusal Request := do
  let given ← (readWords {} arguments).mapError .usage
  if (given.value? .help).isSome then return .help
  -- An option that is given twice is checked twice, with the value that counts.
  given.options.forM fun o => checkOption store given o.1
  match given.positional with
  | [] => throw (.usage .missingPath)
  | path :: extra =>
    checkFile store pathHint path
    if !extra.isEmpty then throw (.usage (.extraArguments extra))
    return .inspect (given.invocation path)

/-- The lines of the help. -/
def helpLines : List String :=
  ["Usage: elfscope [OPTIONS] PATH",
   "",
   "  Decode an ELF object file and display its structure.",
   "",
   "  PATH is the ELF file to decode.",
   "",
   "Options:",
   "  --symbols / --no-symbols  Show or hide symbol tables (default: from config).",
   "  -s, --section TEXT        Only show the symbols of the section with this",
   "                            name.",
   "  --json                    Print the decoded file as JSON to stdout.",
   "  -o, --output FILE         Write a JSON report to this path.",
   "  -c, --config FILE         TOML configuration file.",
   "  -v, --verbose             Log every decode phase to stderr.",
   "  --help                    Show this message and exit."]

/-- The help. -/
def helpText : String :=
  String.join (helpLines.map (· ++ "\n"))

end ElfInspect
