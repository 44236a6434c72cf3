import ElfInspect.DecodeError

namespace ElfInspect

/-!
# Decoding from a device

A decoder is a computation that moves a device and either returns a value or stops with a cause.

Main definitions:

* `Decode`: the type of decoders;
* `accumulate`: reads until a number of bytes has arrived, however few of them each call hands out;
* `readExact`, `seekTo`: the two primitive decoders;
* `repeatDecode`, `readTable`: records one after another.
-/

/-- A computation on a device that may stop with a cause. -/
abbrev Decode := EStateM DecodeError Device

/-- Reads on until `buffer` holds `wanted` bytes.  Each call asks for what is missing, but not for
    more than `most` bytes.  A call that hands out nothing means that the input has ended. -/
def accumulate (most : Option Nat) (onFault : Fault → DecodeError) (wanted : Nat)
    (buffer : Bytes) (d : Device) : EStateM.Result DecodeError Device Bytes :=
  if buffer.size < wanted then
    let missing := wanted - buffer.size
    let request := match most with
      | none => missing
      | some most => min most missing
    match d.read request with
    -- These two do not come from the device but from what it is asked for.
    | (.error .sizeTooWide, d) => .error (.misuse .readSize) d
    | (.error .noRoom, d) => .error (.misuse .noRoom) d
    | (.error fault, d) => .error (onFault fault) d
    | (.ok bytes, d) =>
      -- Otherwise at least one byte has arrived, which is why the reading ends.
      if bytes.size = 0 then .error (.truncated wanted buffer.size) d
      else accumulate most onFault wanted (buffer ++ bytes) d
  else .ok buffer d
termination_by wanted - buffer.size
decreasing_by
  simp only [Array.size_append]
  omega

/-- Reads exactly `size` bytes. -/
def readExact (size : Nat) : Decode Bytes :=
  accumulate none (.readFailed size) size #[]

/-- Moves the device to an absolute offset. -/
def seekTo (offset : Int) : Decode Unit := fun d =>
  match d.seek offset with
  | (.ok (), d) => .ok () d
  | (.error fault, d) => .error (.seekFailed offset fault) d

/-! ### Records one after another -/

/-- Decodes `count` records and appends them to those already decoded. -/
def repeatDecodeFrom {α : Type} (step : Decode α) : (count : Nat) → Array α → Decode (Array α)
  | 0, done => pure done
  | count + 1, done => do
    let record ← step
    repeatDecodeFrom step count (done.push record)

/-- Decodes `count` records.  The first failure ends the whole table. -/
def repeatDecode {α : Type} (count : Nat) (step : Decode α) : Decode (List α) := do
  let records ← repeatDecodeFrom step count #[]
  return records.toList

/-- Moves to `offset` once and decodes `count` records from there. -/
def readTable {α : Type} (offset : Int) (count : Nat) (step : Decode α) : Decode (List α) := do
  seekTo offset
  repeatDecode count step

@[simp]
theorem repeatDecodeFrom_zero {α : Type} (step : Decode α) (done : Array α) :
    repeatDecodeFrom step 0 done = pure done := rfl

/-- The first record is decoded before all others. -/
theorem repeatDecodeFrom_succ {α : Type} (step : Decode α) (count : Nat) (done : Array α) :
    repeatDecodeFrom step (count + 1) done =
      step >>= fun record => repeatDecodeFrom step count (done.push record) := rfl

@[simp]
theorem repeatDecode_zero {α : Type} (step : Decode α) : repeatDecode 0 step = pure [] := rfl

end ElfInspect
