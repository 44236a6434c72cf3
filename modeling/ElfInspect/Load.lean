import ElfInspect.Abi.Codes
import ElfInspect.ElfFile
import ElfInspect.Log.Journal

namespace ElfInspect

/-!
# Loading a file

A load runs through a fixed sequence of phases, each of which uses what the ones before it have
decoded:

1. the identification bytes;
2. the file header;
3. the program headers;
4. the section headers;
5. the content of each section;
6. the name of each section.

The first failure ends the load and is attributed to the phase in which it arose.  Along the way
the load notes what it does in a journal, which a logger can replay.

Main definitions:

* `Loading`: computations that keep a journal and a phase beside the device;
* `Load.pipeline`: the phases one after another;
* `Load.run`: a whole load, with its outcome, the phase it reached, the device afterwards and the
  journal;
* `Load.Feedback`: how a load whose log goes to the very file it reads changes that file.
-/

/-! ### Running loads -/

/-- The state of a running load.  The journal is kept newest first. -/
structure LoadState where
  device : Device
  phase : Phase := .validateIdent
  journal : List LogAction := []
  deriving Repr, DecidableEq

/-- A step of a load. -/
abbrev Loading := EStateM LoadFailure LoadState

namespace Load

/-- Adds an entry to the journal. -/
def note (action : LogAction) : Loading Unit :=
  modify fun s => { s with journal := action :: s.journal }

/-- Enters a phase and says so under the scope of that phase. -/
def enter (phase : Phase) : Loading Unit := do
  modify fun s => { s with phase }
  note (.openScope phase.name)
  note (.emit .debug s!"Entering phase {phase.name}")
  note .closeScope

/-- What the journal says about a failed step. -/
def failureNotes (phase : Phase) (cause : DecodeError) : List LogAction :=
  -- A misuse of the device passes through without being logged.
  if cause.isInputFault then
    [.emit .debug s!"Phase {phase.name} failed: {cause.message}"]
  else []

/-- What the journal so far, newest entry first, does to the device that is being read.  It does
    something only where the log of a load goes to the file that is loaded. -/
abbrev Feedback := List LogAction → Device → Device

/-- No feedback. -/
def Feedback.none : Feedback := fun _ device => device

/-- Runs a decoder under the scope of the current phase.  A failure is attributed to the phase. -/
def perform {α : Type} (feedback : Feedback) (step : Decode α) : Loading α := fun s =>
  -- The log may have changed the file since the last step.
  match step (feedback s.journal s.device) with
  | .ok value device =>
    .ok value
      { s with device, journal := .closeScope :: .openScope s.phase.name :: s.journal }
  | .error cause device =>
    .error (cause.inPhase s.phase)
      { s with device
               journal := .closeScope :: failureNotes s.phase cause ++
                 .openScope s.phase.name :: s.journal }

/-! ### The phases -/

/-- The contents of all sections, in table order. -/
def readContents (chunk : Int) (headers : List SectionHeader) : Decode (List Bytes) :=
  headers.mapM fun h => h.readContent chunk

/-- The names of all sections, looked up in the section that the file header names. -/
def sectionNames (header : FileHeader) (headers : List SectionHeader) (contents : List Bytes) :
    Except DecodeError (List String) :=
  -- Without sections the index of the name table is not looked at.
  if headers.isEmpty then .ok []
  else
    match contents[header.shstrndx]? with
    | none => .error (.nameTableOutside header.shstrndx headers.length)
    | some table => headers.mapM fun h => StringTable.lookup table h.name

/-- A result that does not touch the device. -/
def ofExcept {α : Type} (result : Except DecodeError α) : Decode α :=
  match result with
  | .ok value => pure value
  | .error cause => throw cause

/-- Each section header with its name and content. -/
def assemble (names : List String) (headers : List SectionHeader) (contents : List Bytes) :
    List Section :=
  (names.zip (headers.zip contents)).map fun (name, header, data) => ⟨name, header, data⟩

/-- The record that sums up the file header. -/
def summary (h : FileHeader) : String :=
  "class=" ++ Abi.CodeKind.fileClass.describe h.elfClass ++
    " data=" ++ Abi.CodeKind.dataEncoding.describe h.data ++
    " type=" ++ Abi.CodeKind.objectType.describe h.type ++
    " machine=" ++ Abi.CodeKind.machine.describe h.machine ++
    s!" phnum={h.phnum} shnum={h.shnum}"

/-- The phases one after another. -/
def pipeline (chunk : Int) (feedback : Feedback := .none) : Loading ElfFile := do
  note (.emit .debug "Started: ELF load")
  enter .validateIdent
  let ident ← perform feedback readIdent
  enter .decodeHeader
  let header ← perform feedback (FileHeader.read ident)
  -- The summary comes between two phases: no scope is open here.
  note (.emit .debug (summary header))
  let e := header.encoding
  enter .decodeSegments
  let segments ← perform feedback (readTable header.phoff header.phnum (ProgramHeader.read e))
  enter .decodeSectionHeaders
  let headers ← perform feedback (readTable header.shoff header.shnum (SectionHeader.read e))
  enter .loadSectionContent
  let contents ← perform feedback (readContents chunk headers)
  enter .resolveSectionNames
  -- Names need the contents, since the name table is a section itself.
  let names ← perform feedback (ofExcept (sectionNames header headers contents))
  enter .ready
  note (.emitTimed .info "ELF load")
  let sections := assemble names headers contents
  note (.emit .info s!"Loaded ELF: {segments.length} segments, {sections.length} sections")
  return { header, segments, sections }

/-! ### Whole loads -/

/-- All that a load leaves behind: its outcome, the phase it reached, the device, and its journal,
    oldest entry first. -/
structure Run where
  outcome : Except LoadFailure ElfFile
  phase : Phase
  device : Device
  journal : List LogAction

/-- What a run leaves behind. -/
def Run.ofResult : EStateM.Result LoadFailure LoadState ElfFile → Run
  | .ok file s => ⟨.ok file, s.phase, s.device, s.journal.reverse⟩
  | .error failure s => ⟨.error failure, s.phase, s.device, s.journal.reverse⟩

/-- Loads a file from a device, with content read in chunks of at most `chunk` bytes. -/
def run (device : Device) (chunk : Int) (feedback : Feedback := .none) : Run :=
  .ofResult (pipeline chunk feedback { device })

/-- The outcome of loading a file from memory. -/
def ofBytes (content : Bytes) (chunk : Int) : Except LoadFailure ElfFile :=
  (run (.ofBytes content) chunk).outcome

end Load

end ElfInspect
