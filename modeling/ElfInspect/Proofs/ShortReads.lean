import ElfInspect.Proofs.Work

namespace ElfInspect

/-!
# Reads that come back short

A device may hand out fewer bytes than it is asked for, at every read anew.  Both loops that collect
bytes go on until they have all of them or nothing arrives any more, so that the pieces in which the
bytes come make no difference to what is collected and to where the device stands in the end.

* `Receives.readCount_eq` — one read for each piece;
* `Reassembles` — reading on brings exactly the bytes that are wanted, or the number of those left;
* `receives_scheduled` — there is a device for every way to divide the bytes into pieces;
* `short_reads_reassembled` — both loops reassemble what arrives in any pieces.
-/

variable {content : Bytes} {medium : Medium} {position : Nat}

/-! ### Single reads -/

namespace Device

variable {d d' : Device} {size : Nat}

/-- A read is counted, however it is answered. -/
theorem readCount_of_read {answer : Except Fault Bytes} (h : d.read size = (answer, d')) :
    d'.readCount = d.readCount + 1 := by
  rw [readCount, calls_of_read h, List.countP_cons_of_pos rfl, readCount]

/-- A read hands out what the pace grants of the bytes that are left. -/
theorem Serves.read_granted (h : d.Serves content medium position)
    (hsize : medium.sizeFault? size = none) :
    ∃ d', d.read size = (.ok (content.extract position (position + d.granted size)), d') ∧
      d'.Serves content medium (position + d.granted size) ∧ d'.pace = d.pace.next.2 := by
  obtain ⟨rfl, rfl, rfl, hpace, hreads, hseeks⟩ := h
  exact ⟨_, d.read_eq hreads hsize, ⟨rfl, rfl, rfl, hpace.next, hreads, hseeks⟩, rfl⟩

end Device

section Receives

variable {most : Option Nat} {onFault : Fault → DecodeError} {wanted done start : Nat}
  {d d' : Device} {buffer collected : Bytes} {pieces : List Bytes}

/-- Each piece takes one read. -/
theorem Receives.readCount_eq (h : Receives most wanted d buffer pieces d' collected) :
    d'.readCount = d.readCount + pieces.length := by
  induction h with
  | stop d buffer => rfl
  | read hmissing hread hnext ih =>
    rw [ih, Device.readCount_of_read hread, List.length_cons]
    omega

/-! ### Whole loops -/

/-- Reading on from `position` brings pieces, one with each read, and no more of them than bytes are
    wanted.  If that many bytes are left, they are what is collected, and the device stands right
    behind them.  Otherwise the loop fails with the number of those that are left, and the device
    stands at its end. -/
def Reassembles (content : Bytes) (medium : Medium) (position : Nat) (most : Option Nat)
    (wanted : Nat) (run : Decode Bytes) : Prop :=
  ∀ d : Device, d.Serves content medium position →
    ∃ pieces d' collected, Receives most wanted d #[] pieces d' collected ∧
      d'.readCount = d.readCount + pieces.length ∧ pieces.length ≤ wanted ∧
      (wanted ≤ content.size - position →
        run d = .ok collected d' ∧ collected = content.extract position (position + wanted) ∧
        d'.position = position + wanted) ∧
      (content.size - position < wanted →
        run d = .error (.truncated wanted (content.size - position)) d' ∧
        d'.position = max position content.size)

/-- The loop of reads reassembles what the calls bring. -/
theorem reassembles_accumulate (hmost : most ≠ some 0)
    (hgrants : medium.Grants (requestSize most wanted)) :
    Reassembles content medium position most wanted (accumulate most onFault wanted #[]) := by
  intro d hd
  rw [← extract_add_zero content position]
  obtain ⟨pieces, d', hreceives, hlength, hrun, hd'⟩ :=
    accumulate_receives onFault hmost hgrants (Nat.zero_le _) hd
  refine ⟨pieces, d', _, hreceives, hreceives.readCount_eq, hlength, fun hle => ?_, fun hlt => ?_⟩
  -- all that is wanted is there
  · rw [delivered, if_pos hle] at hrun
    rw [Nat.min_eq_left hle] at hd' ⊢
    exact ⟨hrun, rfl, hd'.position_eq⟩
  -- the input ends before
  · rw [delivered, if_neg (by omega)] at hrun
    refine ⟨hrun, ?_⟩
    rw [hd'.position_eq]
    omega

/-! ### Pieces of any sizes -/

/-- A device that hands out pieces of given sizes, one after another. -/
def Device.scheduled (content : Bytes) (position : Nat) (sizes : List Nat) : Device :=
  { content, position, medium := .unbounded, pace := .scheduled sizes }

/-- A device with a schedule hands out something as long as the schedule has no empty answers. -/
theorem Device.scheduled_serves {sizes : List Nat} (h : ∀ size ∈ sizes, 0 < size) :
    (scheduled content position sizes).Serves content .unbounded position :=
  ⟨rfl, rfl, rfl, h, rfl, rfl⟩

/-- The pieces come in the sizes of the schedule, from where `done` bytes have arrived.  A last
    piece is empty if less is left than wanted. -/
theorem receives_scheduled {sizes : List Nat}
    (hsizes : ∀ size ∈ sizes, ∀ bound ∈ most, size ≤ bound)
    (hsum : done + sizes.sum = min wanted (content.size - start))
    (hd : d.Serves content .unbounded (start + done)) (hpace : d.pace = .scheduled sizes) :
    ∃ pieces d' collected,
      Receives most wanted d (content.extract start (start + done)) pieces d' collected ∧
      pieces.map Array.size = sizes ++ if content.size - start < wanted then [0] else [] := by
  induction sizes generalizing done d with
  | nil =>
    rw [List.sum_nil] at hsum
    have hsize : (content.extract start (start + done)).size = done :=
      size_extract_add (by omega)
    by_cases hlt : content.size - start < wanted
    · -- the schedule has run out, and with it the bytes
      obtain ⟨d', hread, -⟩ := hd.read_granted (Medium.unbounded_grants _
        (requestSize most (wanted - done)) (Nat.le_refl _))
      have hgranted : d.granted (requestSize most (wanted - done)) = 0 := by
        rw [Device.granted, hd.content_eq, hd.position_eq]
        omega
      rw [hgranted] at hread
      refine ⟨[_], d', _, .of_size hsize (by omega) hread (.stop d' _), ?_⟩
      rw [if_pos hlt, extract_add_zero]
      rfl
    · exact ⟨[], d, _, .stop d _, by rw [if_neg hlt]; rfl⟩
  | cons size rest ih =>
    rw [List.sum_cons] at hsum
    have hproductive := hd.productive
    rw [hpace] at hproductive
    have hpos : 0 < size := hproductive size List.mem_cons_self
    have hsize : (content.extract start (start + done)).size = done :=
      size_extract_add (by omega)
    obtain ⟨d', hread, hd', hpace'⟩ := hd.read_granted (Medium.unbounded_grants _
      (requestSize most (wanted - done)) (Nat.le_refl _))
    -- what the schedule grants is asked for, and it is there
    have hbound : size ≤ requestSize most (wanted - done) := by
      cases most with
      | none =>
        show size ≤ wanted - done
        omega
      | some bound =>
        have hle := hsizes size List.mem_cons_self bound rfl
        show size ≤ min bound (wanted - done)
        omega
    have hgranted : d.granted (requestSize most (wanted - done)) = size := by
      rw [Device.granted, hd.content_eq, hd.position_eq, hpace]
      show min (min size (requestSize most (wanted - done))) _ = size
      omega
    rw [hgranted] at hread hd'
    rw [hpace] at hpace'
    rw [Nat.add_assoc] at hd'
    obtain ⟨pieces, d'', collected, hreceives, hpieces⟩ :=
      ih (fun size hsize => hsizes size (List.mem_cons_of_mem _ hsize)) (by omega) hd' hpace'
    rw [← extract_append_extract_add] at hreceives
    refine ⟨_ :: pieces, d'', collected, .of_size hsize (by omega) hread hreceives, ?_⟩
    rw [List.map_cons, hpieces, size_extract_add (by omega), List.cons_append]

end Receives

/-! ### Both loops -/

/-- The loop for the content of a section, behind the seek to its offset. -/
def SectionHeader.collect (h : SectionHeader) (chunk : Nat) : Decode Bytes :=
  accumulate (some chunk) (.contentReadFailed h.offset) h.size #[]

/-- **Short reads.**  Both loops survive any division into pieces, of whichever device.

    An exact read and the loop for the content of a section bring the bytes that are wanted, or the
    number of those left, with as many reads as pieces and no more than bytes are wanted.  The loop
    for a content follows a seek to its offset, and is what is left of reading the content then.

    No division into pieces is left out: for every way to divide what is left of the bytes that are
    wanted, into pieces no larger than what is asked for at once, there is a device that hands out
    these pieces. -/
theorem short_reads_reassembled (content : Bytes) (position wanted : Nat) :
    (∀ medium : Medium, medium.Grants wanted →
      Reassembles content medium position none wanted (readExact wanted)) ∧
    (∀ (medium : Medium) (h : SectionHeader) (chunk : Nat), h.type ≠ Abi.sectionNobits →
      h.offset = position → h.size = wanted → 1 ≤ chunk → medium.Grants (min chunk wanted) →
      medium.offsetFault? position = none →
      Reassembles content medium position (some chunk) wanted (h.collect chunk) ∧
      ∀ (d : Device) (before : Nat), d.Serves content medium before →
        ∃ start, d.seek position = (.ok (), start) ∧ start.Serves content medium position ∧
          h.readContent chunk d = h.collect chunk start) ∧
    ∀ (most : Option Nat) (sizes : List Nat),
      (∀ size ∈ sizes, 0 < size ∧ ∀ bound ∈ most, size ≤ bound) →
      sizes.sum = min wanted (content.size - position) →
      (Device.scheduled content position sizes).Serves content .unbounded position ∧
      ∃ pieces d' collected,
        Receives most wanted (Device.scheduled content position sizes) #[] pieces d' collected ∧
        pieces.map Array.size = sizes ++ if content.size - position < wanted then [0] else [] := by
  refine ⟨fun medium hgrants => reassembles_accumulate nofun hgrants, ?_, ?_⟩
  · rintro medium h chunk htype rfl rfl hchunk hgrants hoffset
    have hmost : some chunk ≠ some 0 := by
      rw [Ne, Option.some.injEq]
      omega
    refine ⟨reassembles_accumulate hmost hgrants, ?_⟩
    intro d before hd
    -- the content is collected from where a seek leads to
    obtain ⟨start, hseek, hstart⟩ := hd.seek hoffset
    refine ⟨start, hseek, hstart, ?_⟩
    rw [SectionHeader.readContent, readContent, if_neg htype, if_neg (by omega)]
    exact bind_of_ending_ok (seekTo_of_seek hseek)
  · intro most sizes hsizes hsum
    have hserves : (Device.scheduled content position sizes).Serves content .unbounded position :=
      Device.scheduled_serves fun size hsize => (hsizes size hsize).1
    refine ⟨hserves, ?_⟩
    rw [← extract_add_zero content position]
    exact receives_scheduled (fun size hsize => (hsizes size hsize).2) (by omega) hserves rfl

/-- Three bytes come in two pieces and one byte is missing. -/
theorem short_reads_reassembled_cutShort :
    ∃ (pieces : List Bytes) (d' : Device),
      readExact 4 (Device.scheduled #[7, 8, 9, 10] 1 [2, 1]) = .error (.truncated 4 3) d' ∧
        d'.position = 4 ∧ d'.readCount = pieces.length ∧ pieces.length ≤ 4 := by
  obtain ⟨hexact, -, hpieces⟩ := short_reads_reassembled #[7, 8, 9, 10] 1 4
  obtain ⟨hserves, -⟩ := hpieces none [2, 1] (by decide) (by decide)
  obtain ⟨pieces, d', -, -, hcount, hlength, -, hcut⟩ :=
    hexact .unbounded (Medium.unbounded_grants 4) _ hserves
  obtain ⟨hrun, hposition⟩ := hcut (by decide)
  exact ⟨pieces, d', hrun, hposition, hcount.trans (Nat.zero_add _), hlength⟩

end ElfInspect
