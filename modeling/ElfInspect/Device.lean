import ElfInspect.Machine
import ElfInspect.Text.Hex

namespace ElfInspect

/-!
# Byte devices

A device is a value: its content, the position in it, how it hands out bytes, how many more calls
it answers, and the calls made so far.  Reading and seeking are functions from a device to the
answer and the device afterwards, so what a decoder does to a device can be stated and compared.

Main definitions:

* `Medium`: which offsets and request sizes the device can represent;
* `Pace`: how many bytes one read call hands out at most;
* `Device.read`, `Device.seek`: one call each, with `Fault` the ways in which it can fail.

A read at or past the end of the content hands out nothing.  Short reads happen only by the pace
of the device or at the end of its content.
-/

/-- A string of bytes. -/
abbrev Bytes := Array UInt8

/-- The bounds of a device.  A memory buffer and a file measure offsets and sizes with signed
    64-bit numbers, and a file is also bound by the room of the machine; an unbounded device takes
    any. -/
inductive Medium
  | memory
  | file (room : Room)
  | unbounded
  deriving Repr, DecidableEq, Inhabited

/-- How many bytes a read call hands out: as many as asked for, at most a fixed number, or at most
    the next number of a schedule and as many as asked for once the schedule has run out. -/
inductive Pace
  | whole
  | step (most : Nat)
  | scheduled (grants : List Nat)
  deriving Repr, DecidableEq, Inhabited

/-- The bound on the next read call, if there is one, and the pace of the calls after it. -/
def Pace.next : Pace → Option Nat × Pace
  | .whole => (none, .whole)
  | .step most => (some most, .step most)
  | .scheduled [] => (none, .whole)
  | .scheduled (grant :: rest) => (some grant, .scheduled rest)

/-- A call on a device. -/
inductive Call
  | read (size : Nat)
  | seek (offset : Int)
  deriving Repr, DecidableEq

/-- Why a call fails: the device does not answer it any more, it cannot represent the offset or the
    size, or there is no room for that many bytes. -/
inductive Fault
  | readRefused
  | seekRefused
  | negativeOffset (offset : Int)
  | offsetTooWide (medium : Medium)
  | sizeTooWide
  | noRoom
  deriving Repr, DecidableEq

/-- The wording of a fault. -/
def Fault.message : Fault → String
  | .readRefused => "device unplugged"
  | .seekRefused => "not seekable"
  | .negativeOffset offset => s!"negative seek value {offset}"
  | .offsetTooWide (.file _) => "cannot fit 'int' into an offset-sized integer"
  | .offsetTooWide _ => "Python int too large to convert to C ssize_t"
  | .sizeTooWide => "cannot fit 'int' into an index-sized integer"
  | .noRoom => "out of memory"

/-- A seekable source of bytes.  `readsLeft` and `seeksLeft` count the calls it still answers, if
    that is bounded; `calls` records all calls, newest first. -/
structure Device where
  content : Bytes
  position : Nat := 0
  medium : Medium := .memory
  pace : Pace := .whole
  readsLeft : Option Nat := none
  seeksLeft : Option Nat := none
  calls : List Call := []
  deriving Repr, DecidableEq, Inhabited

/-- The first size and the first offset that a bounded medium cannot represent. -/
def wordLimit : Nat := Nat.pow 2 63

/-- Why a medium cannot take an offset, if it cannot. -/
def Medium.offsetFault? (medium : Medium) (offset : Int) : Option Fault :=
  match medium with
  | .unbounded => none
  | _ =>
    -- The width is checked before the sign: a far negative offset counts as too wide.
    if (wordLimit : Int) ≤ offset ∨ offset < -(wordLimit : Int) then some (.offsetTooWide medium)
    else if offset < 0 then some (.negativeOffset offset)
    else none

/-- What a string of bytes takes beside its bytes. -/
def stringOverhead : Nat := 33

/-- Why a medium cannot take a read request, if it cannot.  A file makes room for as many bytes as
    are asked for before it reads any. -/
def Medium.sizeFault? (medium : Medium) (size : Nat) : Option Fault :=
  match medium with
  | .unbounded => none
  | .memory => if wordLimit ≤ size then some .sizeTooWide else none
  | .file room =>
    -- A file asks for the whole string at once, which is larger than the bytes in it.
    if wordLimit ≤ size + stringOverhead then some .sizeTooWide
    else if room.limit ≤ size then some .noRoom
    else none

/-- Whether the medium is a file. -/
def Medium.isFile : Medium → Bool
  | .file _ => true
  | .memory | .unbounded => false

namespace Device

/-- A device in memory, positioned at its start. -/
def ofBytes (content : Bytes) : Device :=
  { content }

/-- A device in memory that answers a bounded number of calls. -/
def failing (content : Bytes) (reads seeks : Option Nat) : Device :=
  { content, readsLeft := reads, seeksLeft := seeks }

/-- A device that hands out at most `most` bytes per call. -/
def trickling (content : Bytes) (most : Nat) : Device :=
  { content, medium := .unbounded, pace := .step most }

/-- A file that has been opened on a machine. -/
def ofFile (room : Room) (content : Bytes) : Device :=
  { content, medium := .file room }

/-- The number of read calls made so far. -/
def readCount (d : Device) : Nat :=
  d.calls.countP fun | .read _ => true | .seek _ => false

/-- The number of seek calls made so far. -/
def seekCount (d : Device) : Nat :=
  d.calls.countP fun | .read _ => false | .seek _ => true

/-- The number of bytes from the position to the end. -/
def remaining (d : Device) : Nat :=
  d.content.size - d.position

/-- The bytes that a read of `size` hands out under a bound. -/
def slice (d : Device) (most : Option Nat) (size : Nat) : Bytes :=
  let size := match most with
    | none => size
    | some most => min most size
  d.content.extract d.position (d.position + size)

/-- Reads at most `size` bytes and moves past them.  A call that the device does not answer, or
    whose size it cannot represent, leaves the position where it was. -/
def read (d : Device) (size : Nat) : Except Fault Bytes × Device :=
  -- A call counts as made even if it fails.
  let d := { d with calls := .read size :: d.calls }
  if d.readsLeft = some 0 then (.error .readRefused, d)
  else
    match d.medium.sizeFault? size with
    | some fault => (.error fault, d)
    | none =>
      -- From here on the call counts against the bound and takes a grant of the schedule.
      let (most, pace) := d.pace.next
      let bytes := d.slice most size
      (.ok bytes, { d with position := d.position + bytes.size, pace,
                           readsLeft := d.readsLeft.map (· - 1) })

/-- Moves to an absolute offset, which may lie past the end. -/
def seek (d : Device) (offset : Int) : Except Fault Unit × Device :=
  let d := { d with calls := .seek offset :: d.calls }
  if d.seeksLeft = some 0 then (.error .seekRefused, d)
  else
    match d.medium.offsetFault? offset with
    | some fault => (.error fault, d)
    | none =>
      (.ok (), { d with position := offset.toNat, seeksLeft := d.seeksLeft.map (· - 1) })

/-! ### What the calls leave alone -/

/-- Reading never changes the content. -/
@[simp]
theorem content_read (d : Device) (size : Nat) : (d.read size).2.content = d.content := by
  simp only [read]
  split
  · rfl
  · split <;> rfl

/-- Moving never changes the content. -/
@[simp]
theorem content_seek (d : Device) (offset : Int) : (d.seek offset).2.content = d.content := by
  simp only [seek]
  split
  · rfl
  · split <;> rfl

end Device

end ElfInspect
