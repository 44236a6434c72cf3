import ElfInspect.Log.Record
import ElfInspect.Log.Rotation
import ElfInspect.Text.Template

namespace ElfInspect

/-!
# Log channels

Records go through named channels.  The name of a channel is dotted, and a channel stands below
those whose names are its beginnings.

* `levelNamed`: the level of a name;
* `Channel`: a channel with its handlers;
* `Registry`: all channels by name;
* `Registry.effectiveLevel` and `Registry.reached`: which records pass a channel, and the handlers
  that they reach.
-/

/-! ### Levels -/

/-- Why a logger cannot do what is asked of it. -/
inductive LogFault
  /-- The level name denotes a text that is no level. -/
  | unknownLevel (level : String)
  /-- The level name denotes something else that is no level, here in its written form. -/
  | noLevel (written : String)
  /-- The log file cannot be opened. -/
  | refused (cause : PathFault)
  /-- A record may not carry an attribute of this name. -/
  | reservedAttribute (name : String)
  /-- A parameter of a call is given a second time, as a field. -/
  | givenTwice (severity : Severity) (name : String)
  /-- What is given for the attributes of a record is no table. -/
  | noTable (found : Value)
  /-- What is given for a depth is no number. -/
  | noDepth (found : Value)
  /-- The arguments of a record do not fit its message. -/
  | unfit (cause : TemplateFault)
  deriving Repr

/-- The wording of a fault. -/
def LogFault.message : LogFault → String
  | .unknownLevel level => "Unknown level: " ++ quoteText level
  | .noLevel written => "Level not an integer or a valid string: " ++ written
  | .refused cause => cause.message
  | .reservedAttribute name => "Attempt to overwrite " ++ quoteText name ++ " in LogRecord"
  | .givenTwice severity name =>
    "ScopeLogger." ++ severity.callName ++ "() got multiple values for argument " ++ quoteText name
  | .noTable (.list _) => "list indices must be integers or slices, not str"
  | .noTable found => "'" ++ found.kindName ++ "' object does not support item assignment"
  | .noDepth found =>
    "'>' not supported between instances of '" ++ found.kindName ++ "' and 'int'"
  | .unfit cause => cause.message

/-- The upper case of a character, as far as it matters for level names: a few characters outside
    ASCII have an upper case inside it. -/
def upperLevelChar (c : Char) : List Char :=
  if c = 'ı' then ['I']
  else if c = 'ſ' then ['S']
  else if c = 'ﬅ' ∨ c = 'ﬆ' then ['S', 'T']
  else [c.toUpper]

/-- The levels with a name. -/
def namedLevels : List (String × Nat) :=
  [("NOTSET", 0), ("DEBUG", 10), ("INFO", 20), ("WARN", 30), ("WARNING", 30), ("ERROR", 40),
   ("CRITICAL", 50), ("FATAL", 50)]

/-- The basic layout. -/
def basicLayout : String := "%(levelname)s:%(name)s:%(message)s"

/-- The styles of layouts, as they are written out. -/
def layoutStyles : String :=
  "\x7b'%': (<class 'logging.PercentStyle'>, " ++
  "'%(levelname)s:%(name)s:%(message)s'), " ++
  "'\x7b': (<class 'logging.StrFormatStyle'>, " ++
  "'\x7blevelname\x7d:\x7bname\x7d:\x7bmessage\x7d'), " ++
  "'$': (<class 'logging.StringTemplateStyle'>, " ++
  "'$\x7blevelname\x7d:$\x7bname\x7d:$\x7bmessage\x7d')\x7d"

/-- The names that stand among the level names without being such. -/
def misnamedLevels : List (String × LogFault) :=
  [("BASIC_FORMAT", .unknownLevel basicLayout), ("_STYLES", .noLevel layoutStyles)]

/-- The level of a name in any case.  An unknown name means the level of information. -/
def levelNamed (name : String) : Except LogFault Nat :=
  let name := String.ofList (name.toList.flatMap upperLevelChar)
  -- The level names share their place with other names, which do not denote levels.
  match namedLevels.lookup name, misnamedLevels.lookup name with
  | some level, _ => .ok level
  | none, some fault => .error fault
  | none, none => .ok 20

/-! ### Channels -/

/-- How a file handler writes its records. -/
inductive LogLayout
  | plain
  | json
  deriving Repr, DecidableEq

/-- Where a handler writes to. -/
inductive HandlerTarget
  | console
  | file (path : String) (layout : LogLayout) (rotation : Rotation)
  deriving Repr, DecidableEq

/-- A handler leaves out records below its level. -/
structure Handler where
  target : HandlerTarget
  level : Nat
  deriving Repr, DecidableEq

/-- A channel.  Level zero stands for the level of the channels above it; a channel that
    propagates passes its records on to them. -/
structure Channel where
  level : Nat := 0
  propagates : Bool := true
  handlers : List Handler := []
  deriving Repr, DecidableEq, Inhabited

/-- The level above all channels. -/
def rootLevel : Nat := 30

/-! ### The registry -/

/-- All channels that are known, by name. -/
structure Registry where
  channels : List (String × Channel) := []
  deriving Repr, DecidableEq, Inhabited

namespace Registry

/-- Whether the channel of a name is known. -/
def knows (registry : Registry) (name : String) : Bool :=
  registry.channels.any (·.1 = name)

/-- The channel of a name; one that is not known has no handlers. -/
def channel (registry : Registry) (name : String) : Channel :=
  (registry.channels.lookup name).getD {}

/-- Sets up the channel of a name. -/
def setChannel (registry : Registry) (name : String) (channel : Channel) : Registry :=
  { channels := (name, channel) :: registry.channels.filter (·.1 ≠ name) }

/-- Makes the channel of a name known, as it stands. -/
def know (registry : Registry) (name : String) : Registry :=
  if registry.knows name then registry else registry.setChannel name {}

/-- The names of the known channels that a channel stands below, nearest first, from its reversed
    name.  A name is cut at its dots, but as long as no known channel is found the character before
    a dot is not taken as a dot. -/
def namesAbove (registry : Registry) : List Char → List String
  | '.' :: c :: rest =>
    let name := String.ofList (c :: rest).reverse
    -- Once a known channel is found the search goes on from its own name.
    if registry.knows name then name :: registry.namesAbove (c :: rest)
    else registry.namesAbove rest
  | _ :: rest => registry.namesAbove rest
  | [] => []

/-- The channel name and those above it. -/
def path (registry : Registry) (name : String) : List String :=
  name :: registry.namesAbove name.toList.reverse

/-- The level below which a channel drops records. -/
def effectiveLevel (registry : Registry) (name : String) : Nat :=
  match (registry.path name).find? fun n => (registry.channel n).level ≠ 0 with
  | some n => (registry.channel n).level
  | none => rootLevel

/-- Whether records of a severity pass a channel. -/
def isEnabled (registry : Registry) (name : String) (severity : Severity) : Bool :=
  registry.effectiveLevel name ≤ severity.level

/-- The handlers of some channels, nearest first, up to the first that does not propagate. -/
def handlersAlong (registry : Registry) : List String → List Handler
  | [] => []
  | name :: above =>
    let c := registry.channel name
    -- A channel keeps its own handlers even if it does not propagate.
    c.handlers ++ if c.propagates then handlersAlong registry above else []

/-- The handlers that a record of a channel reaches. -/
def reached (registry : Registry) (name : String) (severity : Severity) : List Handler :=
  (registry.handlersAlong (registry.path name)).filter fun h => h.level ≤ severity.level

@[simp]
theorem channel_empty (name : String) : ({} : Registry).channel name = {} := rfl

/-- A channel that has just been set up is found under its name. -/
@[simp]
theorem channel_setChannel_self (registry : Registry) (name : String) (c : Channel) :
    (registry.setChannel name c).channel name = c := by
  simp [setChannel, channel]

end Registry

end ElfInspect
