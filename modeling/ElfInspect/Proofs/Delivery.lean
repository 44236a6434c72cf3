import ElfInspect.Proofs.Yields
import Mathlib.Tactic.Convert

namespace ElfInspect

/-!
# Devices that deliver

A device hands out bytes at its own pace.  As long as it answers every call and every read hands
out something, what arrives in the end depends on its content and its position only.

* `Pace.Productive` — no read call comes back empty while there is something to hand out;
* `Device.Serves content medium position d` — `d` holds `content`, stands at `position`, is
  productive and answers every call that its medium can represent;
* `delivered content position wanted` — what a request of `wanted` bytes comes to;
* `Receives most wanted d buffer pieces d' collected` — a run of reads, and the pieces they bring;
* `Yields.accumulate` — **reassembly**: reading on in requests of any size, each answered in pieces
  of any size, delivers exactly these bytes, or else reports exactly how many there were;
* `Yields.readExact`, `Yields.seekTo`, `Yields.seekTo_fault` — the primitive decoders.
-/

variable {content : Bytes} {medium : Medium} {position : Nat}

/-! ### Single calls -/

/-- Every bound that the pace sets to a read call is positive. -/
def Pace.Productive : Pace → Prop
  | .whole => True
  | .step most => 0 < most
  | .scheduled grants => ∀ grant ∈ grants, 0 < grant

/-- The bound that the next read call sets to a request. -/
def Pace.grant (pace : Pace) (size : Nat) : Nat :=
  match pace.next.1 with
  | none => size
  | some most => min most size

/-- No read call hands out more than it is asked for. -/
theorem Pace.grant_le (pace : Pace) (size : Nat) : pace.grant size ≤ size := by
  rw [Pace.grant]
  split <;> omega

/-- A pace that is productive stays so from one call to the next. -/
theorem Pace.Productive.next {pace : Pace} (h : pace.Productive) : pace.next.2.Productive := by
  match pace, h with
  | .whole, _ => trivial
  | .step _, h => exact h
  | .scheduled [], _ => trivial
  | .scheduled (_ :: _), h => exact fun g hg => h g (List.mem_cons_of_mem _ hg)

/-- A productive pace grants something to every request for something. -/
theorem Pace.Productive.grant_pos {pace : Pace} (h : pace.Productive) {size : Nat}
    (hsize : 0 < size) : 0 < pace.grant size := by
  match pace, h with
  | .whole, _ => exact hsize
  | .step most, h =>
    have hmost : 0 < most := h
    simp only [Pace.grant, Pace.next]
    omega
  | .scheduled [], _ => exact hsize
  | .scheduled (grant :: _), h =>
    have hgrant : 0 < grant := h grant List.mem_cons_self
    simp only [Pace.grant, Pace.next]
    omega

/-- The number of bytes that the next read call hands out. -/
def Device.granted (d : Device) (size : Nat) : Nat :=
  min (d.pace.grant size) (d.content.size - d.position)

/-- A range that runs beyond the end has the elements up to the end. -/
theorem extract_eq_extract_min {α : Type} (a : Array α) (start count : Nat) :
    a.extract start (start + count) = a.extract start (start + min count (a.size - start)) := by
  apply Array.ext
  · simp only [Array.size_extract]
    omega
  · intro i h1 h2
    simp

/-- A range within the array has as many elements as its length says. -/
theorem size_extract_add {α : Type} {a : Array α} {start count : Nat}
    (h : count ≤ a.size - start) : (a.extract start (start + count)).size = count := by
  rw [Array.size_extract]
  omega

theorem extract_add_zero {α : Type} (a : Array α) (start : Nat) :
    a.extract start (start + 0) = #[] :=
  Array.eq_empty_of_size_eq_zero (size_extract_add (Nat.zero_le _))

/-- What follows on a range of elements makes it longer. -/
theorem extract_append_extract_add {α : Type} (a : Array α) (start done count : Nat) :
    a.extract start (start + done) ++ a.extract (start + done) (start + done + count) =
      a.extract start (start + (done + count)) := by
  rw [Array.extract_append_extract]
  congr 1 <;> omega

/-- What a read call hands out are the bytes from the position on, as many as are granted. -/
theorem Device.slice_eq (d : Device) (size : Nat) :
    d.slice d.pace.next.1 size =
      d.content.extract d.position (d.position + d.granted size) := by
  rw [granted, ← extract_eq_extract_min]
  rfl

/-- A read call that is answered moves the device past the bytes that it hands out. -/
theorem Device.read_eq {d : Device} {size : Nat} (hreads : d.readsLeft = none)
    (hsize : d.medium.sizeFault? size = none) :
    d.read size = (.ok (d.content.extract d.position (d.position + d.granted size)),
      { d with calls := .read size :: d.calls
               position := d.position + d.granted size
               pace := d.pace.next.2 }) := by
  have hgranted : (d.content.extract d.position (d.position + d.granted size)).size =
      d.granted size := size_extract_add (Nat.min_le_right _ _)
  have hslice : ({ d with calls := .read size :: d.calls } : Device).slice d.pace.next.1 size =
      d.content.extract d.position (d.position + d.granted size) := d.slice_eq size
  simp only [read, hreads, hsize, reduceCtorEq, if_false, Option.map_none]
  rw [hreads] at hslice
  rw [hslice, hgranted]

/-! ### Devices that answer every call -/

/-- The device holds `content`, stands at `position`, and answers every call that its medium can
    represent, handing out something whenever there is something left. -/
structure Device.Serves (content : Bytes) (medium : Medium) (position : Nat) (d : Device) :
    Prop where
  content_eq : d.content = content
  medium_eq : d.medium = medium
  position_eq : d.position = position
  productive : d.pace.Productive
  readsLeft_eq : d.readsLeft = none
  seeksLeft_eq : d.seeksLeft = none

/-- A device in memory hands out all that it is asked for. -/
theorem Device.ofBytes_serves (content : Bytes) :
    (Device.ofBytes content).Serves content .memory 0 :=
  ⟨rfl, rfl, rfl, trivial, rfl, rfl⟩

/-- A device that trickles hands out something as long as its steps are not empty. -/
theorem Device.trickling_serves (content : Bytes) {most : Nat} (h : 0 < most) :
    (Device.trickling content most).Serves content .unbounded 0 :=
  ⟨rfl, rfl, rfl, h, rfl, rfl⟩

namespace Device.Serves

variable {d : Device}

/-- A read call brings the next bytes of the content, no more than asked for, and at least one
    unless none is left. -/
theorem read (h : d.Serves content medium position) {size : Nat}
    (hsize : medium.sizeFault? size = none) :
    ∃ count d', d.read size = (.ok (content.extract position (position + count)), d') ∧
      d'.Serves content medium (position + count) ∧ count ≤ size ∧
      count ≤ content.size - position ∧ (0 < size → position < content.size → 0 < count) := by
  obtain ⟨rfl, rfl, rfl, hpace, hreads, hseeks⟩ := h
  refine ⟨d.granted size, _, d.read_eq hreads hsize,
    ⟨rfl, rfl, rfl, hpace.next, hreads, hseeks⟩, ?_, ?_, ?_⟩
  · exact Nat.le_trans (Nat.min_le_left _ _) (d.pace.grant_le size)
  · exact Nat.min_le_right _ _
  · intro hpos hlt
    have hgrant := hpace.grant_pos hpos
    rw [Device.granted]
    omega

/-- A seek that the medium can represent goes to where it is sent, even behind the end. -/
theorem seek (h : d.Serves content medium position) {offset : Nat}
    (hoffset : medium.offsetFault? offset = none) :
    ∃ d', d.seek offset = (.ok (), d') ∧ d'.Serves content medium offset := by
  obtain ⟨rfl, rfl, rfl, hpace, hreads, hseeks⟩ := h
  refine ⟨{ d with calls := .seek offset :: d.calls, position := offset }, ?_,
    ⟨rfl, rfl, rfl, hpace, hreads, hseeks⟩⟩
  simp only [Device.seek, hseeks, hoffset, reduceCtorEq, if_false, Option.map_none,
    Int.toNat_natCast]

/-- A request that the medium cannot represent leaves the position where it was. -/
theorem read_fault (h : d.Serves content medium position) {size : Nat} {fault : Fault}
    (hsize : medium.sizeFault? size = some fault) :
    ∃ d', d.read size = (.error fault, d') ∧ d'.Serves content medium position := by
  obtain ⟨rfl, rfl, rfl, hpace, hreads, hseeks⟩ := h
  refine ⟨{ d with calls := .read size :: d.calls }, ?_,
    ⟨rfl, rfl, rfl, hpace, hreads, hseeks⟩⟩
  simp only [Device.read, hreads, hsize, reduceCtorEq, if_false]

/-- A seek that the medium cannot represent leaves the position where it was. -/
theorem seek_fault (h : d.Serves content medium position) {offset : Nat} {fault : Fault}
    (hoffset : medium.offsetFault? offset = some fault) :
    ∃ d', d.seek offset = (.error fault, d') ∧ d'.Serves content medium position := by
  obtain ⟨rfl, rfl, rfl, hpace, hreads, hseeks⟩ := h
  refine ⟨{ d with calls := .seek offset :: d.calls }, ?_,
    ⟨rfl, rfl, rfl, hpace, hreads, hseeks⟩⟩
  simp only [Device.seek, hseeks, hoffset, reduceCtorEq, if_false]

end Device.Serves

/-! ### Reassembly -/

/-- What a request of `wanted` bytes comes to: the bytes, or the count of those that are left. -/
def delivered (content : Bytes) (position wanted : Nat) : Except DecodeError Bytes :=
  if wanted ≤ content.size - position then .ok (content.extract position (position + wanted))
  else .error (.truncated wanted (content.size - position))

/-- The size of the next request for bytes that are missing. -/
def requestSize (most : Option Nat) (missing : Nat) : Nat :=
  match most with
  | none => missing
  | some most => min most missing

theorem requestSize_le (most : Option Nat) (missing : Nat) :
    requestSize most missing ≤ missing := by
  cases most <;> simp only [requestSize] <;> omega

theorem requestSize_mono (most : Option Nat) {a b : Nat} (h : a ≤ b) :
    requestSize most a ≤ requestSize most b := by
  cases most <;> simp only [requestSize] <;> omega

/-- Something is asked for as long as something is missing. -/
theorem requestSize_pos {most : Option Nat} {missing : Nat} (hmost : most ≠ some 0)
    (hmissing : 0 < missing) : 0 < requestSize most missing := by
  cases most with
  | none => exact hmissing
  | some most =>
    have hne : most ≠ 0 := fun h => hmost (h ▸ rfl)
    simp only [requestSize]
    omega

/-- From `d`, with `buffer` collected before, reads one after another bring `pieces`, which leaves
    the device at `d'` and all in all `collected`.  Each asks for all that is missing from the bytes
    that are wanted, but not for more than `most`. -/
inductive Receives (most : Option Nat) (wanted : Nat) :
    Device → Bytes → List Bytes → Device → Bytes → Prop
  | stop (d : Device) (buffer : Bytes) : Receives most wanted d buffer [] d buffer
  | read {d d' d'' : Device} {buffer piece collected : Bytes} {pieces : List Bytes}
      (hmissing : buffer.size < wanted)
      (hread : d.read (requestSize most (wanted - buffer.size)) = (.ok piece, d'))
      (hnext : Receives most wanted d' (buffer ++ piece) pieces d'' collected) :
      Receives most wanted d buffer (piece :: pieces) d'' collected

section Accumulate

variable {most : Option Nat} {onFault : Fault → DecodeError} {wanted done : Nat} {buffer : Bytes}
  {d d' : Device}

/-- Nothing is read once all has arrived. -/
theorem accumulate_of_le (h : wanted ≤ buffer.size) :
    accumulate most onFault wanted buffer d = .ok buffer d := by
  rw [accumulate, if_neg (by omega)]

/-- One round trip, with the faults that a request as such can have set apart. -/
theorem accumulate_of_lt (h : buffer.size < wanted) :
    accumulate most onFault wanted buffer d =
      match d.read (requestSize most (wanted - buffer.size)) with
      | (.error .sizeTooWide, d) => .error (.misuse .readSize) d
      | (.error .noRoom, d) => .error (.misuse .noRoom) d
      | (.error fault, d) => .error (onFault fault) d
      | (.ok bytes, d) =>
        if bytes.size = 0 then .error (.truncated wanted buffer.size) d
        else accumulate most onFault wanted (buffer ++ bytes) d := by
  rw [accumulate, if_pos h]
  rfl

/-- One round trip whose request is answered; an empty answer means that the input has ended. -/
theorem accumulate_of_read {bytes : Bytes} (hsize : buffer.size = done) (h : done < wanted)
    (hread : d.read (requestSize most (wanted - done)) = (.ok bytes, d')) :
    accumulate most onFault wanted buffer d =
      if bytes.size = 0 then .error (.truncated wanted done) d'
      else accumulate most onFault wanted (buffer ++ bytes) d' := by
  subst hsize
  rw [accumulate_of_lt h, hread]

/-- A read after `done` bytes have been collected. -/
theorem Receives.of_size {piece collected : Bytes} {pieces : List Bytes} {d'' : Device}
    (hsize : buffer.size = done) (hlt : done < wanted)
    (hread : d.read (requestSize most (wanted - done)) = (.ok piece, d'))
    (hnext : Receives most wanted d' (buffer ++ piece) pieces d'' collected) :
    Receives most wanted d buffer (piece :: pieces) d'' collected := by
  subst hsize
  exact .read hlt hread hnext

/-- Reading on from where `done` bytes have arrived takes no more reads than bytes are missing. -/
theorem accumulate_receives (onFault : Fault → DecodeError) {start : Nat} (hmost : most ≠ some 0)
    (hgrant : ∀ size ≤ requestSize most wanted, medium.sizeFault? size = none)
    (hdone : done ≤ min wanted (content.size - start))
    (hd : d.Serves content medium (start + done)) :
    ∃ pieces d', Receives most wanted d (content.extract start (start + done)) pieces d'
        (content.extract start (start + min wanted (content.size - start))) ∧
      pieces.length ≤ wanted - done ∧
      accumulate most onFault wanted (content.extract start (start + done)) d =
        ending (delivered content start wanted) d' ∧
      d'.Serves content medium (start + min wanted (content.size - start)) := by
  have hsize : (content.extract start (start + done)).size = done :=
    size_extract_add (Nat.le_trans hdone (Nat.min_le_right _ _))
  -- each round trip brings at least one byte, so that the missing ones decrease
  induction hk : wanted - done using Nat.strongRecOn generalizing done d with
  | ind k ih =>
    by_cases hlt : done < wanted
    -- the next read asks for something and for no more than the first one did
    · have hpos := requestSize_pos hmost (show 0 < wanted - done by omega)
      have hle := requestSize_mono most (Nat.sub_le wanted done)
      obtain ⟨count, d', hread, hd', hcount, hrest, hsome⟩ := hd.read (hgrant _ hle)
      have hcount' := requestSize_le most (wanted - done)
      have hbytes := size_extract_add hrest
      have hnext := extract_append_extract_add content start done count
      rw [accumulate_of_read hsize hlt hread, hbytes]
      by_cases hzero : count = 0
      · -- nothing arrived, so that the device stands at its end
        have hend : content.size - start = done := by omega
        subst hzero
        rw [if_pos rfl, delivered, hend, if_neg (by omega), Nat.min_eq_right (Nat.le_of_lt hlt)]
        refine ⟨[_], d', .of_size hsize hlt hread ?_, ?_, rfl, hd'⟩
        · rw [hnext]
          exact .stop d' _
        · rw [List.length_singleton]
          omega
      · rw [if_neg hzero, hnext]
        rw [Nat.add_assoc] at hd'
        obtain ⟨pieces, d'', hreceives, hlength, hrun, hd''⟩ :=
          ih _ (by omega) (show done + count ≤ _ by omega) hd' (size_extract_add (by omega)) rfl
        refine ⟨_ :: pieces, d'', .of_size hsize hlt hread (hnext ▸ hreceives), ?_, hrun, hd''⟩
        rw [List.length_cons]
        omega
    -- nothing is missing, so that no read takes place
    · have hall : wanted = done := by omega
      rw [accumulate_of_le (by omega), delivered, hall, Nat.min_eq_left (by omega),
        if_pos (by omega)]
      exact ⟨[], d, .stop d _, Nat.zero_le _, rfl, hd⟩

end Accumulate

/-! ### The primitive decoders -/

/-- The medium can represent requests up to a size. -/
def Medium.Grants (medium : Medium) (size : Nat) : Prop :=
  ∀ request ≤ size, medium.sizeFault? request = none

/-- A file grants what its machine has room for, as long as the size can be represented. -/
theorem Medium.file_grants {room : Room} {size : Nat} (hroom : size < room.limit)
    (hsize : size + stringOverhead < wordLimit) : (Medium.file room).Grants size := by
  intro request hle
  simp only [sizeFault?]
  rw [if_neg (by omega), if_neg (by omega)]

/-- Every medium on every machine grants requests as small as those for fields. -/
theorem Medium.grants_of_lt {medium : Medium} {size : Nat} (h : size < leastRoom) :
    medium.Grants size := by
  have hleast : leastRoom + stringOverhead ≤ wordLimit := by decide
  cases medium with
  | memory => exact fun _ hle => if_neg (by omega)
  | file room => exact file_grants (Nat.lt_of_lt_of_le h room.leastRoom_le) (by omega)
  | unbounded => exact fun _ _ => rfl

/-- Memory grants every size that can be represented. -/
theorem Medium.memory_grants {size : Nat} (h : size < wordLimit) : Medium.memory.Grants size :=
  fun _ hle => if_neg (by omega)

theorem Medium.unbounded_grants (size : Nat) : Medium.unbounded.Grants size :=
  fun _ _ => rfl

namespace Yields

/-- **Reassembly.**  Requests of any size, answered in pieces of any size, bring the bytes that the
    content has at the position, or the count of those that are left. -/
theorem accumulate {most : Option Nat} {onFault : Fault → DecodeError} {wanted : Nat}
    (hmost : most ≠ some 0) (hgrants : medium.Grants (requestSize most wanted)) :
    Yields (Device.Serves content medium position)
      (ElfInspect.accumulate most onFault wanted #[]) (delivered content position wanted)
      (Device.Serves content medium (position + min wanted (content.size - position))) := by
  intro d hd
  rw [← extract_add_zero content position]
  obtain ⟨pieces, d', -, -, hrun, hd'⟩ :=
    accumulate_receives onFault hmost hgrants (Nat.zero_le _) hd
  exact ⟨d', hrun, hd'⟩

/-- A first request that is wider than any size ends the reading at once. -/
theorem accumulate_tooWide {most : Option Nat} {onFault : Fault → DecodeError} {wanted : Nat}
    (hwanted : 0 < wanted) (h : medium.sizeFault? (requestSize most wanted) = some .sizeTooWide) :
    Yields (Device.Serves content medium position)
      (ElfInspect.accumulate most onFault wanted #[]) (.error (.misuse .readSize))
      (Device.Serves content medium position) := by
  intro d hd
  obtain ⟨d', hread, hd'⟩ := hd.read_fault h
  refine ⟨d', ?_, hd'⟩
  rw [accumulate_of_lt hwanted, List.size_toArray, List.length_nil, Nat.sub_zero, hread]
  rfl

/-- A field is read by requests that every medium grants. -/
theorem readExact {size : Nat} (h : size < leastRoom) :
    Yields (Device.Serves content medium position) (ElfInspect.readExact size)
      (delivered content position size)
      (Device.Serves content medium (position + min size (content.size - position))) :=
  accumulate nofun (Medium.grants_of_lt h)

/-- A seek that goes well leaves the device at the offset. -/
theorem seekTo {offset : Nat} (h : medium.offsetFault? offset = none) :
    Yields (Device.Serves content medium position) (ElfInspect.seekTo offset) (.ok ())
      (Device.Serves content medium offset) := by
  intro d hd
  obtain ⟨d', hseek, hd'⟩ := hd.seek h
  refine ⟨d', ?_, hd'⟩
  simp only [ElfInspect.seekTo, hseek, ending_ok]

/-- A seek that fails is reported with the offset that it was for. -/
theorem seekTo_fault {offset : Nat} {fault : Fault} (h : medium.offsetFault? offset = some fault) :
    Yields (Device.Serves content medium position) (ElfInspect.seekTo offset)
      (.error (.seekFailed offset fault)) (Device.Serves content medium position) := by
  intro d hd
  obtain ⟨d', hseek, hd'⟩ := hd.seek_fault h
  refine ⟨d', ?_, hd'⟩
  simp only [ElfInspect.seekTo, hseek, ending_error]

end Yields

end ElfInspect
