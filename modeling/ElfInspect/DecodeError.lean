import ElfInspect.Device
import ElfInspect.Text.Quoted
import ElfInspect.Text.Utf8

namespace ElfInspect

/-!
# Why decoding fails

* `FileFault`: why the file system refuses an operation;
* `Misuse`: a request that no decoder accepts, whatever the input holds;
* `DecodeError`: the causes of failure, with `DecodeError.message` their one wording;
* `Phase`: the stages of a load, and `LoadFailure`, a cause with the stage it arose in.
-/

/-- Why the file system refuses an operation. -/
inductive FileFault
  | missing
  | exists
  | notDirectory
  | isDirectory
  | nameTooLong
  /-- No path can hold a NUL, so that the file system is never asked. -/
  | nulInPath
  deriving Repr, DecidableEq

/-- The number by which a fault of the file system is known. -/
def FileFault.number : FileFault → Nat
  | .missing => 2
  | .exists => 17
  | .notDirectory => 20
  | .isDirectory => 21
  | .nameTooLong => 36
  | .nulInPath => 22

/-- The wording of a fault of the file system. -/
def FileFault.text : FileFault → String
  | .missing => "No such file or directory"
  | .exists => "File exists"
  | .notDirectory => "Not a directory"
  | .isDirectory => "Is a directory"
  | .nameTooLong => "File name too long"
  | .nulInPath => "embedded null byte"

/-- A fault of the file system with the path it concerns.  A path with a NUL is not repeated. -/
def FileFault.message (fault : FileFault) (path : String) : String :=
  match fault with
  | .nulInPath => fault.text
  | _ => s!"[Errno {fault.number}] {fault.text}: {quoteText path}"

/-- A request that no decoder accepts, whatever the input holds. -/
inductive Misuse
  /-- A chunk size that is not positive. -/
  | chunkSize (size : Int)
  /-- A single read larger than the device can represent. -/
  | readSize
  /-- A single read larger than there is room for. -/
  | noRoom
  /-- A path with a NUL in it. -/
  | nulInPath
  /-- Fewer identification bytes than a file header is made from. -/
  | shortIdent
  /-- A link that counts further back than there are sections. -/
  | linkBeforeStart
  deriving Repr, DecidableEq

/-- The wording of a misuse. -/
def Misuse.message : Misuse → String
  | .chunkSize size => s!"chunk_size must be positive, got {size}"
  | .readSize => Fault.sizeTooWide.message
  | .noRoom => Fault.noRoom.message
  | .nulInPath => FileFault.nulInPath.text
  | .shortIdent => "index out of range"
  | .linkBeforeStart => "tuple index out of range"

/-- Why an input cannot be decoded. -/
inductive DecodeError
  /-- The input ended before a field, a record or a section was complete. -/
  | truncated (expected actual : Nat)
  /-- The device refused a read of a field. -/
  | readFailed (size : Nat) (fault : Fault)
  /-- The device refused a read of section content. -/
  | contentReadFailed (offset : Int) (fault : Fault)
  /-- The device refused to move. -/
  | seekFailed (offset : Int) (fault : Fault)
  /-- The file could not be opened. -/
  | cannotOpen (path : String) (fault : FileFault)
  /-- A string offset points outside its table. -/
  | stringOutside (offset : Int) (size : Nat)
  /-- The index of the section name table points outside the section table. -/
  | nameTableOutside (index count : Nat)
  /-- A symbol table links to a section that the file does not have. -/
  | linkOutside (name : String) (link count : Nat)
  /-- The input does not start with the magic bytes. -/
  | badMagic (found : List UInt8)
  /-- The identification version is unknown. -/
  | unsupportedVersion (found : Nat)
  /-- A string table entry is not well-formed text. -/
  | invalidText (offset : Int) (defect : Utf8.Defect)
  /-- The request itself was at fault. -/
  | misuse (cause : Misuse)
  deriving Repr, DecidableEq

namespace DecodeError

/-- The wording of a cause. -/
def message : DecodeError → String
  | .truncated expected actual =>
    s!"Unexpected end of input: wanted {expected} bytes, got {actual}"
  | .readFailed size fault => s!"Read of {size} bytes failed: {fault.message}"
  | .contentReadFailed offset fault =>
    s!"Read of section content at {hexSigned offset} failed: {fault.message}"
  | .seekFailed offset fault => s!"Seek to offset {hexSigned offset} failed: {fault.message}"
  | .cannotOpen path fault => s!"Cannot open {path}: {fault.message path}"
  | .stringOutside offset size => s!"String offset {offset} outside table of {size} bytes"
  | .nameTableOutside index count =>
    s!"e_shstrndx {index} outside section table of {count} entries"
  | .linkOutside name link count =>
    s!"Section '{name}' links to section {link}, but the file has {count} sections"
  | .badMagic found => s!"Invalid Magic Bytes: {quoteBytes found}"
  | .unsupportedVersion found => s!"Unsupported ELF Version: {found}"
  | .invalidText offset defect =>
    s!"Invalid UTF-8 in string table at offset {offset}: {defect.message}"
  | .misuse cause => cause.message

/-- Whether the input, and not the request, is at fault. -/
def isInputFault : DecodeError → Bool
  | .misuse _ => false
  | _ => true

/-- Whether the input ended before what was to be read; a device that fails to deliver bytes that
    it has is no such cause. -/
def isTruncated : DecodeError → Bool
  | .truncated .. => true
  | _ => false

end DecodeError

/-! ### Phases -/

/-- The stages of a load, in order. -/
inductive Phase
  | validateIdent
  | decodeHeader
  | decodeSegments
  | decodeSectionHeaders
  | loadSectionContent
  | resolveSectionNames
  | ready
  deriving Repr, DecidableEq, Inhabited

/-- The name of a phase in messages and log records. -/
def Phase.name : Phase → String
  | .validateIdent => "validate_ident"
  | .decodeHeader => "decode_header"
  | .decodeSegments => "decode_segments"
  | .decodeSectionHeaders => "decode_section_headers"
  | .loadSectionContent => "load_section_content"
  | .resolveSectionNames => "resolve_section_names"
  | .ready => "ready"

/-- The phases in the order in which a load runs through them. -/
def Phase.all : List Phase :=
  [.validateIdent, .decodeHeader, .decodeSegments, .decodeSectionHeaders, .loadSectionContent,
   .resolveSectionNames, .ready]

/-- A cause of failure with the phase of the load it arose in, if it arose in one.  A misuse is
    never attributed to a phase. -/
structure LoadFailure where
  error : DecodeError
  phase : Option Phase
  deriving Repr, DecidableEq

/-- A failure outside of any load. -/
def DecodeError.unphased (error : DecodeError) : LoadFailure :=
  ⟨error, none⟩

/-- A failure in a phase. -/
def DecodeError.inPhase (error : DecodeError) (phase : Phase) : LoadFailure :=
  ⟨error, if error.isInputFault then some phase else none⟩

end ElfInspect
