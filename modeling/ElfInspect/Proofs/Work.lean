import ElfInspect.Proofs.Ends
import ElfInspect.Proofs.Offsets
import ElfInspect.Proofs.Quota
import ElfInspect.Proofs.Tables
import Mathlib.Algebra.Order.Floor.Div

namespace ElfInspect

/-!
# How much is read

A header may declare any size and any number of records.  What is read from memory is bounded by
what is there: the content of a section takes one read for each chunk, and a table takes one read
for each field of the records that are there, and what was declared beyond that costs one more read
or one more record at most.

* `Device.InMemory` — a device in memory that answers every call in full;
* `Collects most wanted d buffer requests d' collected` — a run of reads, each with its bounds;
* `accumulate_inMemory` — the reads of a loop, and how many they are;
* `Decodes read reads d records d'` — records one after another, each with its number of reads;
* `ContentWork`, `TableWork` — the work for the content of a section and for a table;
* `work_bounded` — section contents, program headers and section headers take no more than that.
-/

variable {α : Type} {content : Bytes} {position : Nat}

/-! ### Devices in memory -/

namespace Device

/-- The device holds `content` in memory, stands at `position`, and answers every call in full. -/
structure InMemory (content : Bytes) (position : Nat) (d : Device) : Prop
    extends d.Serves content .memory position where
  pace_eq : d.pace = .whole

/-- A device in memory stands at the beginning. -/
theorem inMemory_ofBytes (content : Bytes) : (ofBytes content).InMemory content 0 :=
  ⟨ofBytes_serves content, rfl⟩

variable {d d' : Device} {size offset : Nat}

/-- A read hands out all that is asked for, as far as it is there. -/
theorem InMemory.read (h : d.InMemory content position) (hsize : size < wordLimit) :
    ∃ count d', count = min size (content.size - position) ∧
      d.read size = (.ok (content.extract position (position + count)), d') ∧
      d'.InMemory content (position + count) := by
  obtain ⟨⟨rfl, hmedium, rfl, -, hreads, hseeks⟩, hpace⟩ := h
  have hfault : d.medium.sizeFault? size = none := by
    rw [hmedium]
    exact if_neg (by omega)
  have hgranted : d.granted size = min size (d.content.size - d.position) := by
    rw [granted, hpace]
    rfl
  exact ⟨_, _, hgranted, read_eq hreads hfault,
    ⟨rfl, hmedium, rfl, by rw [hpace]; trivial, hreads, hseeks⟩, by rw [hpace]; rfl⟩

/-- A seek in memory goes wherever the offset can be represented. -/
theorem InMemory.seek (h : d.InMemory content position) (hoffset : offset < wordLimit) :
    ∃ d', d.seek offset = (.ok (), d') ∧ d'.InMemory content offset := by
  obtain ⟨⟨rfl, hmedium, rfl, hproductive, hreads, hseeks⟩, hpace⟩ := h
  have hfault : d.medium.offsetFault? offset = none := by
    rw [hmedium, Medium.memory_offsetFault?, if_neg (by omega)]
  refine ⟨_, seek_of_reachable (by rw [hseeks]; nofun) hfault,
    ⟨rfl, hmedium, Int.toNat_natCast _, hproductive, hreads, ?_⟩, hpace⟩
  rw [hseeks]
  rfl

/-! Every call is recorded, whether it is answered or not. -/

/-- A read is recorded, however it is answered. -/
theorem calls_of_read {answer : Except Fault Bytes} (h : d.read size = (answer, d')) :
    d'.calls = .read size :: d.calls := by
  rw [show d' = (d.read size).2 by rw [h], read]
  dsimp only
  split
  · rfl
  · split <;> rfl

/-- A seek is recorded, however it is answered. -/
theorem calls_of_seek {offset : Int} {answer : Except Fault Unit}
    (h : d.seek offset = (answer, d')) : d'.calls = .seek offset :: d.calls := by
  rw [show d' = (d.seek offset).2 by rw [h], seek]
  dsimp only
  split
  · rfl
  · split <;> rfl

/-- A seek is no read. -/
theorem readCount_of_seek {offset : Int} {answer : Except Fault Unit}
    (h : d.seek offset = (answer, d')) : d'.readCount = d.readCount := by
  rw [readCount, calls_of_seek h, List.countP_cons_of_neg Bool.false_ne_true, readCount]

end Device

/-- A seek that is answered is all that the decoder makes of it. -/
theorem seekTo_of_seek {d d' : Device} {offset : Int} (h : d.seek offset = (.ok (), d')) :
    seekTo offset d = ending (.ok ()) d' := by
  rw [seekTo, h, ending_ok]

/-! ### Reads one after another -/

/-- From `d`, with `buffer` collected before, reads of the sizes `requests` are made one after
    another, which leave the device at `d'` and all in all `collected`.  None of them asks for more
    than `most` bytes, nor for more than are still missing from those that are wanted. -/
inductive Collects (most wanted : Nat) : Device → Bytes → List Nat → Device → Bytes → Prop
  | stop (d : Device) (buffer : Bytes) : Collects most wanted d buffer [] d buffer
  | read {d d' d'' : Device} {size : Nat} {buffer bytes collected : Bytes} {requests : List Nat}
      (hread : d.read size = (.ok bytes, d')) (hmost : size ≤ most)
      (hwanted : buffer.size + size ≤ wanted)
      (hnext : Collects most wanted d' (buffer ++ bytes) requests d'' collected) :
      Collects most wanted d buffer (size :: requests) d'' collected

section Collects

variable {most : Option Nat} {onFault : Fault → DecodeError} {chunk wanted done start : Nat}
  {d d' : Device} {buffer collected : Bytes} {requests : List Nat}

/-- The calls are those of the requests, in their order. -/
theorem Collects.calls_eq (h : Collects chunk wanted d buffer requests d' collected) :
    d'.calls = (requests.map Call.read).reverse ++ d.calls := by
  induction h with
  | stop d buffer => rfl
  | read hread hmost hwanted hnext ih =>
    rw [ih, Device.calls_of_read hread, List.map_cons, List.reverse_cons, List.append_assoc,
      List.singleton_append]

/-- Each request takes one read. -/
theorem Collects.readCount_eq (h : Collects chunk wanted d buffer requests d' collected) :
    d'.readCount = d.readCount + requests.length := by
  have hreads : Call.readCount (requests.map Call.read) = requests.length := by
    simp [Call.readCount, List.countP_map, Function.comp_def]
  rw [Device.readCount_eq, Device.readCount_eq, h.calls_eq, Call.readCount_append,
    Call.readCount_reverse, hreads, Nat.add_comm]

/-- A chunk taken off what remains is one round less. -/
theorem ceilDiv_eq_succ {remaining : Nat} (hchunk : 0 < chunk) (hremaining : 0 < remaining) :
    remaining ⌈/⌉ chunk = (remaining - min chunk remaining) ⌈/⌉ chunk + 1 := by
  rw [Nat.ceilDiv_eq_add_pred_div, Nat.ceilDiv_eq_add_pred_div]
  by_cases hle : remaining ≤ chunk
  · rw [Nat.min_eq_right hle, Nat.sub_self, Nat.div_eq_of_lt (show 0 + chunk - 1 < chunk by omega)]
    exact Nat.div_eq_of_lt_le (by omega) (by omega)
  · rw [Nat.min_eq_left (by omega), ← Nat.add_div_right _ hchunk]
    congr 1
    omega

/-- **The reads of a loop.**  Reading on from where `done` bytes have arrived takes one read for
    each chunk of what is there and still wanted, and one more if that is not all that is wanted. -/
theorem accumulate_inMemory (hchunk : 0 < chunk) (hlimit : min chunk wanted < wordLimit)
    (hmost : ∀ missing ≤ wanted, requestSize most missing = min chunk missing)
    (hdone : done ≤ min wanted (content.size - start))
    (hd : d.InMemory content (start + done)) :
    ∃ requests d', Collects chunk wanted d (content.extract start (start + done)) requests d'
        (content.extract start (start + min wanted (content.size - start))) ∧
      accumulate most onFault wanted (content.extract start (start + done)) d =
        ending (delivered content start wanted) d' ∧
      d'.InMemory content (start + min wanted (content.size - start)) ∧
      requests.length = (min wanted (content.size - start) - done) ⌈/⌉ chunk +
        if content.size - start < wanted then 1 else 0 := by
  have hsize : (content.extract start (start + done)).size = done :=
    size_extract_add (Nat.le_trans hdone (Nat.min_le_right _ _))
  -- each read brings a chunk or all that is left, so that the missing bytes decrease
  induction hk : wanted - done using Nat.strongRecOn generalizing done d with
  | ind k ih =>
    by_cases hlt : done < wanted
    · have hrequest := hmost (wanted - done) (by omega)
      obtain ⟨count, d', hcount, hread, hd'⟩ :=
        hd.read (show requestSize most (wanted - done) < wordLimit by omega)
      have hbytes : (content.extract (start + done) (start + done + count)).size = count :=
        size_extract_add (hcount ▸ Nat.min_le_right _ _)
      have hnext := extract_append_extract_add content start done count
      rw [accumulate_of_read hsize hlt hread, hbytes, hnext]
      rw [Nat.add_assoc] at hd'
      by_cases hend : content.size - start ≤ done
      · -- nothing has arrived, and that was the read beyond what is there
        have hleft : content.size - start = done := by omega
        have hzero : count = 0 := by omega
        subst hzero
        rw [delivered, hleft, Nat.min_eq_right (by omega), Nat.sub_self, zero_ceilDiv, if_pos rfl,
          if_neg (by omega), if_pos hlt]
        refine ⟨[_], d', .read hread (by omega) (by omega) ?_, rfl, hd', rfl⟩
        rw [hnext]
        exact .stop d' _
      · rw [if_neg (by omega)]
        obtain ⟨requests, d'', hcollects, hrun, hd'', hlength⟩ :=
          ih _ (by omega) (show done + count ≤ _ by omega) hd' (size_extract_add (by omega)) rfl
        refine ⟨_ :: requests, d'', .read hread (by omega) (by omega) (hnext ▸ hcollects), hrun,
          hd'', ?_⟩
        rw [List.length_cons, hlength, ceilDiv_eq_succ hchunk (show 0 < _ - done by omega),
          show min wanted (content.size - start) - done -
            min chunk (min wanted (content.size - start) - done) =
              min wanted (content.size - start) - (done + count) by omega]
        omega
    · have hall : wanted = done := by omega
      rw [accumulate_of_le (by omega), delivered, hall, Nat.min_eq_left (by omega), Nat.sub_self,
        zero_ceilDiv, if_pos (by omega), if_neg (by omega)]
      exact ⟨[], d, .stop d _, rfl, hd, rfl⟩

/-- The reads of a loop that begins with nothing. -/
theorem exists_collects (most : Option Nat) (onFault : Fault → DecodeError) (wanted : Nat)
    (hchunk : 0 < chunk) (hlimit : min chunk wanted < wordLimit)
    (hmost : ∀ missing ≤ wanted, requestSize most missing = min chunk missing)
    (hd : d.InMemory content start) :
    ∃ requests d', Collects chunk wanted d #[] requests d'
        (content.extract start (start + min wanted (content.size - start))) ∧
      accumulate most onFault wanted #[] d = ending (delivered content start wanted) d' ∧
      d'.InMemory content (start + min wanted (content.size - start)) ∧
      requests.length = min wanted (content.size - start) ⌈/⌉ chunk +
        if content.size - start < wanted then 1 else 0 := by
  rw [← extract_add_zero content start]
  exact accumulate_inMemory hchunk hlimit hmost (by omega) hd

end Collects

/-! ### The content of a section -/

/-- The work for the content of a section, `chunk` bytes at a time.  It is collected by one read for
    each chunk if it is all there.  Otherwise one read for each chunk of what is there collects
    that, and one more tells that it is not all. -/
def ContentWork (content : Bytes) (h : SectionHeader) (chunk : Nat) : Prop :=
  ∀ (d : Device) (position : Nat), d.InMemory content position →
    ∃ start requests d' collected,
      d.seek h.offset = (.ok (), start) ∧
      Collects chunk h.size start #[] requests d' collected ∧
      d'.calls = (requests.map Call.read).reverse ++ .seek h.offset :: d.calls ∧
      (h.size ≤ content.size - h.offset →
        h.readContent chunk d = .ok collected d' ∧ requests.length = h.size ⌈/⌉ chunk) ∧
      (content.size - h.offset < h.size →
        h.readContent chunk d = .error (.truncated h.size (content.size - h.offset)) d' ∧
        requests.length = (content.size - h.offset) ⌈/⌉ chunk + 1 ∧
        collected.size = content.size - h.offset)

/-- Reading a section's content takes one seek and the requests of the loop. -/
theorem readContent_work {h : SectionHeader} {chunk : Nat} (htype : h.type ≠ Abi.sectionNobits)
    (hoffset : h.offset < wordLimit) (hchunk : 0 < chunk) (hlimit : chunk < wordLimit) :
    ContentWork content h chunk := by
  intro d position hd
  obtain ⟨start, hseek, hstart⟩ := hd.seek hoffset
  obtain ⟨requests, d', hcollects, hrun, -, hlength⟩ :=
    exists_collects (some chunk) (.contentReadFailed h.offset) h.size hchunk (by omega)
      (fun _ _ => rfl) hstart
  -- behind the seek there is nothing but the loop
  have hread : h.readContent chunk d = ending (delivered content h.offset h.size) d' := by
    rw [SectionHeader.readContent, ElfInspect.readContent, if_neg htype, if_neg (by omega)]
    exact (bind_of_ending_ok (seekTo_of_seek hseek)).trans hrun
  refine ⟨start, requests, d', _, hseek, hcollects, ?_, fun hle => ?_, fun hlt => ?_⟩
  · rw [hcollects.calls_eq, Device.calls_of_seek hseek]
  -- the content is there: its size decides how many requests there are
  · rw [hread, hlength, delivered, if_pos hle, if_neg (by omega), Nat.min_eq_left hle]
    exact ⟨rfl, rfl⟩
  -- the content is cut: what is left of it decides
  · rw [hread, hlength, delivered, if_neg (by omega), if_pos hlt, Nat.min_eq_right (by omega)]
    exact ⟨rfl, rfl, size_extract_add (Nat.le_refl _)⟩

/-! ### Records one after another -/

/-- The device stands at `position` in memory, and `reads` reads have been made. -/
def Device.Counted (content : Bytes) (position reads : Nat) (d : Device) : Prop :=
  d.InMemory content position ∧ d.readCount = reads

namespace Ends

/-- A number that is there takes one read.  One that is not takes no more than two, of which the
    first brings what is left. -/
theorem readUint_counted (order : ByteOrder) {width : Nat} (hpos : 0 < width)
    (hlimit : width < wordLimit) (position reads : Nat) :
    Ends (Device.Counted content position reads) (readUint order width)
      (fun _ d => width ≤ content.size - position ∧
        d.Counted content (position + width) (reads + 1))
      (fun _ d => content.size - position < width ∧ d.readCount ≤ reads + 2) := by
  rintro d ⟨hd, rfl⟩
  obtain ⟨requests, d', hcollects, hrun, hd', hlength⟩ :=
    exists_collects none (.readFailed width) width hpos (by omega)
      (fun missing hle => (Nat.min_eq_right hle).symm) hd
  rw [← readExact] at hrun
  unfold readUint
  by_cases hle : width ≤ content.size - position
  · rw [delivered, if_pos hle] at hrun
    rw [bind_of_ending_ok hrun]
    rw [Nat.min_eq_left hle] at hd' hlength
    refine ⟨hle, hd', ?_⟩
    rw [hcollects.readCount_eq, hlength, if_neg (by omega), ceilDiv_eq_succ hpos hpos, Nat.min_self,
      Nat.sub_self, zero_ceilDiv]
  · rw [delivered, if_neg hle] at hrun
    rw [bind_of_ending_error hrun]
    refine ⟨by omega, ?_⟩
    -- what is left is less than one request
    have hone : (content.size - position) ⌈/⌉ width ≤ 1 := by
      rw [ceilDiv_le_iff_le_mul hpos]
      omega
    rw [hcollects.readCount_eq, hlength, Nat.min_eq_right (by omega), if_pos (by omega)]
    omega

end Ends

/-- A decoder of records of `size` bytes takes as many reads as a record has fields if the record is
    there, and no more than one more if it is not. -/
def Paces (content : Bytes) (read : Decode α) (size fields : Nat) : Prop :=
  ∀ position reads, Ends (Device.Counted content position reads) read
    (fun _ d => size ≤ content.size - position ∧
      d.Counted content (position + size) (reads + fields))
    (fun _ d => content.size - position < size ∧ d.readCount ≤ reads + (fields + 1))

/-- The fields of a layout are read one by one. -/
theorem Layout.paces {layout : Layout α} {order : ByteOrder}
    (hpos : ∀ slot ∈ layout, 0 < slot.width) (hlimit : ∀ slot ∈ layout, slot.width < leastRoom)
    (record : α) :
    Paces content (layout.read order record) layout.size layout.length := by
  intro position reads
  induction layout generalizing record position reads with
  | nil => exact .pure fun d hd => ⟨Nat.zero_le _, hd⟩
  | cons slot rest ih =>
    have hwidth : slot.width < wordLimit :=
      Nat.lt_trans (hlimit slot List.mem_cons_self) (by decide)
    have hslot : Ends (Device.Counted content position reads) (readUint order slot.width) _ _ :=
      Ends.readUint_counted order (hpos slot List.mem_cons_self) hwidth position reads
    have hrest := ih (fun s hs => hpos s (List.mem_cons_of_mem slot hs))
      (fun s hs => hlimit s (List.mem_cons_of_mem slot hs))
    simp only [Layout.size_cons, List.length_cons]
    -- the field may be cut, which takes one read, or else the rest of the record follows
    refine .bind (hslot.mono (fun _ hd => hd) (fun _ _ h => h) fun _ d ⟨hlt, hd⟩ => ?_) ?_
    · exact ⟨by omega, by omega⟩
    · rintro value d ⟨hle, hd⟩
      refine (hrest (slot.set value record) (position + slot.width) (reads + 1)).mono
        (fun _ h => h) (fun _ d' ⟨hle', hd'⟩ => ?_) (fun _ d' ⟨hlt, hd'⟩ => ?_) d hd
      · refine ⟨by omega, ?_⟩
        rwa [Nat.add_assoc, Nat.add_assoc, Nat.add_comm 1] at hd'
      · exact ⟨by omega, by omega⟩

/-- Records are decoded one after another from `d` on, with `reads` reads each, which leaves the
    device at `d'`. -/
inductive Decodes (read : Decode α) (reads : Nat) : Device → List α → Device → Prop
  | stop (d : Device) : Decodes read reads d [] d
  | record {d d' d'' : Device} {record : α} {records : List α} (hrun : read d = .ok record d')
      (hreads : d'.readCount = d.readCount + reads)
      (hnext : Decodes read reads d' records d'') : Decodes read reads d (record :: records) d''

section Decodes

variable {read : Decode α} {reads size fields offset count : Nat} {d d' : Device}
  {records : List α}

/-- Each record takes as many reads as it has fields. -/
theorem Decodes.readCount_eq (h : Decodes read reads d records d') :
    d'.readCount = d.readCount + records.length * reads := by
  induction h with
  | stop d => simp
  | record hrun hreads hnext ih =>
    rw [ih, hreads, List.length_cons, Nat.succ_mul]
    omega

/-- A loop over records goes on behind those that are decoded. -/
theorem Decodes.repeatDecodeFrom (h : Decodes read reads d records d') (more : Nat)
    (done : Array α) :
    ElfInspect.repeatDecodeFrom read (records.length + more) done d =
      ElfInspect.repeatDecodeFrom read more (done ++ records.toArray) d' := by
  induction h generalizing done with
  | stop d => simp
  | record hrun hreads hnext ih =>
    rw [List.length_cons, Nat.add_right_comm, repeatDecodeFrom_succ, bind_of_ending_ok hrun, ih]
    simp

/-- Records that are there are decoded. -/
theorem Paces.exists_decodes (hread : Paces content read size fields)
    (hfits : count * size ≤ content.size - position) (hd : d.InMemory content position) :
    ∃ records d', Decodes read fields d records d' ∧ records.length = count ∧
      d'.InMemory content (position + count * size) := by
  induction count generalizing position d with
  | zero => exact ⟨[], d, .stop d, rfl, by rwa [Nat.zero_mul]⟩
  | succ count ih =>
    rw [Nat.succ_mul] at hfits
    have hstep := hread position d.readCount d ⟨hd, rfl⟩
    cases hrun : read d with
    | error cause d' =>
      rw [hrun] at hstep
      -- the record cannot be cut: there is room for it
      omega
    | ok record d' =>
      rw [hrun] at hstep
      obtain ⟨-, hd', hreads⟩ := hstep
      obtain ⟨records, d'', hdecodes, hlength, hd''⟩ := ih (by omega) hd'
      refine ⟨record :: records, d'', .record hrun hreads hdecodes, ?_, ?_⟩
      · rw [List.length_cons, hlength]
      · rwa [Nat.succ_mul, Nat.add_comm _ size, ← Nat.add_assoc]

/-- A record that is not there cannot be decoded. -/
theorem Paces.exists_error (hread : Paces content read size fields)
    (hcut : content.size - position < size) (hd : d.InMemory content position) :
    ∃ cause d', read d = .error cause d' ∧ d'.readCount ≤ d.readCount + (fields + 1) := by
  have hstep := hread position d.readCount d ⟨hd, rfl⟩
  cases hrun : read d with
  | ok record d' =>
    rw [hrun] at hstep
    omega
  | error cause d' =>
    rw [hrun] at hstep
    exact ⟨cause, d', rfl, hstep.2⟩

/-- The work for a table of `count` records of `size` bytes with `fields` fields each.  The records
    that are there are decoded, with one read for each field.  If that is not all of them, the next
    one fails, after no more reads than it has fields and one more, and the table with it. -/
def TableWork (content : Bytes) (read : Decode α) (size fields offset count : Nat) : Prop :=
  ∀ (d : Device) (position : Nat), d.InMemory content position →
    ∃ start records d',
      d.seek offset = (.ok (), start) ∧
      Decodes read fields start records d' ∧
      records.length = min count ((content.size - offset) / size) ∧
      d'.readCount = d.readCount + records.length * fields ∧
      (count * size ≤ content.size - offset → readTable offset count read d = .ok records d') ∧
      (content.size - offset < count * size → ∃ cause d'',
        read d' = .error cause d'' ∧ readTable offset count read d = .error cause d'' ∧
        d''.readCount ≤ d'.readCount + (fields + 1))

/-- A table takes one seek and the reads of its records, of which there are no more than bytes are
    left for them. -/
theorem Paces.tableWork (hread : Paces content read size fields) (hsize : 0 < size)
    (hoffset : offset < wordLimit) (count : Nat) :
    TableWork content read size fields offset count := by
  intro d position hd
  obtain ⟨start, hseek, hstart⟩ := hd.seek hoffset
  have hmul := Nat.div_mul_le_self (content.size - offset) size
  have hfits : min count ((content.size - offset) / size) * size ≤ content.size - offset :=
    Nat.le_trans (Nat.mul_le_mul_right size (Nat.min_le_right _ _)) hmul
  obtain ⟨records, d', hdecodes, hlength, hd'⟩ := hread.exists_decodes hfits hstart
  have hrun : readTable offset count read d =
      (repeatDecodeFrom read count #[] >>= fun records => pure records.toList) start :=
    bind_of_ending_ok (seekTo_of_seek hseek)
  refine ⟨start, records, d', hseek, hdecodes, hlength, ?_, fun hle => ?_, fun hlt => ?_⟩
  · rw [hdecodes.readCount_eq, Device.readCount_of_seek hseek]
  · have hall : records.length = count := by
      rw [hlength]
      exact Nat.min_eq_left ((Nat.le_div_iff_mul_le hsize).mpr hle)
    have hloop : repeatDecodeFrom read count #[] start = ending (.ok records.toArray) d' := by
      rw [← hall, ← Nat.add_zero records.length, hdecodes.repeatDecodeFrom, Array.empty_append]
      rfl
    rw [hrun, bind_of_ending_ok hloop]
    rfl
  · have hsome : records.length = (content.size - offset) / size := by
      rw [hlength]
      exact Nat.min_eq_right (Nat.le_of_lt ((Nat.div_lt_iff_lt_mul hsize).mpr hlt))
    obtain ⟨more, hmore⟩ := Nat.exists_eq_add_of_lt
      (show records.length < count from hsome ▸ (Nat.div_lt_iff_lt_mul hsize).mpr hlt)
    -- what is left behind the records is less than one more
    have hcut : content.size - (offset + min count ((content.size - offset) / size) * size) <
        size := by
      have hmod := Nat.mod_lt (content.size - offset) hsize
      have hdiv := Nat.div_add_mod' (content.size - offset) size
      rw [← hlength, hsome]
      omega
    obtain ⟨cause, d'', herror, hreads⟩ := hread.exists_error hcut hd'
    refine ⟨cause, d'', herror, ?_, hreads⟩
    have hloop : repeatDecodeFrom read count #[] start = ending (.error cause) d'' := by
      rw [hmore, Nat.add_assoc, hdecodes.repeatDecodeFrom, repeatDecodeFrom_succ,
        bind_of_ending_error herror]
    rw [hrun, bind_of_ending_error hloop, ending_error]

end Decodes

/-! ### Headers -/

/-- A program header has eight fields. -/
theorem ProgramHeader.paces (e : Encoding) :
    Paces content (read e) (Stored.segmentSize e) 8 := by
  have hlength : (layout e).length = 8 := by rcases e with ⟨_ | _, _⟩ <;> rfl
  have hpos : ∀ slot ∈ layout e, 0 < slot.width := by
    rcases e with ⟨_ | _, order⟩ <;> simp [layout, Encoding.addressWidth]
  rw [← Stored.size_programHeader, ← hlength]
  exact Layout.paces hpos (Stored.programHeader_width_lt e) {}

/-- A section header has ten fields. -/
theorem SectionHeader.paces (e : Encoding) :
    Paces content (read e) (Stored.sectionSize e) 10 := by
  have hlength : (layout e).length = 10 := rfl
  have hpos : ∀ slot ∈ layout e, 0 < slot.width := by
    rcases e with ⟨_ | _, order⟩ <;> simp [layout, Encoding.addressWidth]
  rw [← Stored.size_sectionHeader, ← hlength]
  exact Layout.paces hpos (Stored.sectionHeader_width_lt e) {}

/-- **Bounded work.**  Whatever a header declares, reading from memory takes as many reads as what
    is there takes, and one read or one record more at most. -/
theorem work_bounded (e : Encoding) (content : Bytes) :
    (∀ (h : SectionHeader) (chunk : Nat), h.type ≠ Abi.sectionNobits → h.offset < wordLimit →
      1 ≤ chunk → chunk < wordLimit → ContentWork content h chunk) ∧
    ∀ offset count : Nat, offset < wordLimit →
      TableWork content (ProgramHeader.read e) (Stored.segmentSize e) 8 offset count ∧
      TableWork content (SectionHeader.read e) (Stored.sectionSize e) 10 offset count := by
  refine ⟨fun h chunk htype hoffset hchunk hlimit => ?_, fun offset count hoffset => ⟨?_, ?_⟩⟩
  · exact readContent_work htype hoffset hchunk hlimit
  · have hsize := Stored.size_programHeader e ▸ Stored.programHeader_size_pos e
    exact (ProgramHeader.paces e).tableWork hsize hoffset count
  · have hsize := Stored.size_sectionHeader e ▸ Stored.sectionHeader_size_pos e
    exact (SectionHeader.paces e).tableWork hsize hoffset count

/-- A section and a table that declare far more than there is. -/
theorem work_bounded_inflated :
    (∃ (requests : List Nat) (d' : Device),
      SectionHeader.readContent { type := 1, offset := 90, size := 2 ^ 64 - 1 } 4
        (Device.ofBytes (Array.replicate 100 0)) = .error (.truncated (2 ^ 64 - 1) 10) d' ∧
      d'.calls = (requests.map Call.read).reverse ++ [.seek 90] ∧ requests.length = 4) ∧
    ∃ (cause : DecodeError) (d' : Device),
      readTable 10 65535 (ProgramHeader.read ⟨false, .little⟩)
        (Device.ofBytes (Array.replicate 100 0)) = .error cause d' ∧ d'.readCount ≤ 17 := by
  obtain ⟨hcontent, htable⟩ := work_bounded ⟨false, .little⟩ (Array.replicate 100 0)
  have hmemory := Device.inMemory_ofBytes (Array.replicate 100 0)
  constructor
  -- ten bytes are left: three requests for at most four of them, and one that finds the end
  · obtain ⟨start, requests, d', collected, -, -, hcalls, -, hcut⟩ :=
      hcontent { type := 1, offset := 90, size := 2 ^ 64 - 1 } 4 (by decide) (by decide) (by decide)
        (by decide) _ 0 hmemory
    rw [Array.size_replicate] at hcut
    obtain ⟨hread, hlength, -⟩ := hcut (by decide)
    exact ⟨requests, d', hread, hcalls, hlength⟩
  -- ninety bytes are left, of which one program header takes 56, and the next one is cut
  · obtain ⟨start, records, d', -, -, hlength, hreads, -, hcut⟩ :=
      (htable 10 65535 (by decide)).1 _ 0 hmemory
    rw [Array.size_replicate] at hcut hlength
    obtain ⟨cause, d'', -, htable, hmost⟩ := hcut (by decide)
    refine ⟨cause, d'', htable, ?_⟩
    rw [hreads, hlength] at hmost
    exact hmost

end ElfInspect
