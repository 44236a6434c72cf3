import ElfInspect.Proofs.Ends
import ElfInspect.Proofs.Load.Run
import ElfInspect.Proofs.Quota
import ElfInspect.Proofs.StringTable

namespace ElfInspect

/-!
# Decoders that fail by their input only

A misuse is a request that fails whatever the input holds.  The requests of a load are none: fields
are narrow, content is read in chunks, and the file header is made from all identification bytes.
So whatever the device does, and wherever it stops, the input is what is at fault.

* `FailsByInput medium m good` — on any device of a medium, `m` comes to a value with the property
  `good` or fails by a fault of the input;
* `FailsByInput.accumulate` — a loop of reads, whose requests the medium has to grant;
* `FailsByInput.readIdent`, `FailsByInput.readHeader`, `FailsByInput.readTable`,
  `FailsByInput.readContent`, `FailsByInput.sectionNames` — the decoders of a load.
-/

variable {α β : Type} {medium : Medium}

/-! ### Calls -/

/-- Reading does not change what a device can represent. -/
@[simp] theorem Device.medium_read (d : Device) (size : Nat) :
    (d.read size).2.medium = d.medium := by
  simp only [read]
  split
  · rfl
  · split <;> rfl

/-- Nor does seeking. -/
@[simp] theorem Device.medium_seek (d : Device) (offset : Int) :
    (d.seek offset).2.medium = d.medium := by
  simp only [seek]
  split
  · rfl
  · split <;> rfl

/-- A request that the medium grants can only fail by being refused. -/
theorem Device.fault_of_read {d : Device} {size : Nat} (h : d.medium.sizeFault? size = none)
    {fault : Fault} (hread : (d.read size).1 = .error fault) : fault = .readRefused := by
  simp only [read, h] at hread
  split at hread
  · exact (Except.error.inj hread).symm
  · cases hread

/-- What is no file grants all requests below the word limit. -/
theorem Medium.grants_of_not_file (h : medium.isFile = false) {size : Nat}
    (hsize : size < wordLimit) : medium.Grants size := by
  cases medium with
  | memory => exact Medium.memory_grants hsize
  | file => cases h
  | unbounded => exact Medium.unbounded_grants size

/-! ### Decoders -/

/-- On any device of the medium, the decoder either ends with a value that has the property, and
    leaves a device of the medium behind, or fails by a fault of the input. -/
def FailsByInput (medium : Medium) (m : Decode α) (good : α → Prop) : Prop :=
  Ends (fun d : Device => d.medium = medium) m (fun a d => d.medium = medium ∧ good a)
    fun cause _ => cause.isInputFault = true

namespace FailsByInput

variable {m : Decode α} {good : α → Prop}

/-- A value is no fault. -/
theorem pure {a : α} (h : good a) : FailsByInput medium (Pure.pure a) good :=
  Ends.pure fun _ hd => ⟨hd, h⟩

/-- A cause that comes from the input is thrown. -/
theorem throw {e : DecodeError} (h : e.isInputFault = true) :
    FailsByInput medium (MonadExcept.throw e) good :=
  Ends.throw fun _ _ => h

/-- The second part may rely on what is good about the first value. -/
theorem bind {f : α → Decode β} {better : β → Prop} (hm : FailsByInput medium m good)
    (hf : ∀ a, good a → FailsByInput medium (f a) better) :
    FailsByInput medium (m >>= f) better := by
  refine Ends.bind hm fun a d hd => ?_
  exact hf a hd.2 d hd.1

/-- What is known of the value may be forgotten. -/
theorem anyway (hm : FailsByInput medium m good) : FailsByInput medium m fun _ => True :=
  hm.weaken (fun _ hd => hd) fun _ _ hd => ⟨hd.1, trivial⟩

/-- A loop over a list. -/
theorem mapM {f : β → Decode α} (items : List β)
    (h : ∀ x ∈ items, FailsByInput medium (f x) fun _ => True) :
    FailsByInput medium (items.mapM f) fun _ => True := by
  have hloop := Ends.mapM items fun x hx => (h x hx).weaken (fun _ hd => hd) fun _ _ hd => hd.1
  exact hloop.weaken (fun _ hd => hd) fun _ _ hd => ⟨hd, trivial⟩

/-- Records one after another. -/
theorem repeatDecodeFrom (hm : FailsByInput medium m fun _ => True) (count : Nat)
    (done : Array α) :
    FailsByInput medium (ElfInspect.repeatDecodeFrom m count done) fun _ => True := by
  have hstep := hm.weaken (fun _ hd => hd) fun _ _ hd => hd.1
  exact (hstep.repeatDecodeFrom count done).weaken (fun _ hd => hd) fun _ _ hd => ⟨hd, trivial⟩

/-! ### Reads and seeks -/

/-- A read of a size that the medium can represent fails by the input only. -/
theorem request {onFault : Fault → DecodeError}
    (h : ∀ fault, (onFault fault).isInputFault = true) {size : Nat}
    (hsize : medium.sizeFault? size = none) :
    FailsByInput medium (ElfInspect.request onFault size) fun _ => True := by
  intro d hd
  subst hd
  have hmedium := d.medium_read size
  unfold ElfInspect.request reporting
  cases hread : (d.read size).1 with
  | ok bytes => exact ⟨hmedium, trivial⟩
  | error fault =>
    obtain rfl := Device.fault_of_read hsize hread
    exact h .readRefused

/-- A loop of reads ends with all that is wanted, or fails by the input. -/
theorem accumulate {most : Option Nat} {onFault : Fault → DecodeError}
    (h : ∀ fault, (onFault fault).isInputFault = true) {wanted : Nat}
    (hgrants : medium.Grants (requestSize most wanted)) (buffer : Bytes) :
    FailsByInput medium (ElfInspect.accumulate most onFault wanted buffer)
      fun bytes => wanted ≤ bytes.size := by
  refine accumulate_rec (P := fun m => FailsByInput medium m fun bytes => wanted ≤ bytes.size)
    (fun buffer hsize => pure hsize) (fun _ => throw rfl) (fun buffer hlt f hf => ?_) buffer
  have hsize := hgrants _ (requestSize_mono most (Nat.sub_le wanted buffer.size))
  exact bind (request h hsize) fun bytes _ => hf bytes

/-- A field is read in full or fails by the input. -/
theorem readExact {size : Nat} (h : size < leastRoom) :
    FailsByInput medium (ElfInspect.readExact size) fun bytes => size ≤ bytes.size := by
  have hgrants : medium.Grants (requestSize none size) := Medium.grants_of_lt h
  exact accumulate (fun _ => rfl) hgrants #[]

/-- A seek fails by the input. -/
theorem seekTo (offset : Int) : FailsByInput medium (ElfInspect.seekTo offset) fun _ => True := by
  intro d hd
  have hmedium := d.medium_seek offset
  unfold ElfInspect.seekTo
  rcases hseek : d.seek offset with ⟨fault | u, d'⟩
  · rfl
  · rw [hseek] at hmedium
    exact ⟨hmedium.trans hd, trivial⟩

/-! ### Records, tables and contents -/

/-- A record fails by the input. -/
theorem readLayout {layout : Layout α} (hwidths : ∀ slot ∈ layout, slot.width < leastRoom)
    (order : ByteOrder) (start : α) :
    FailsByInput medium (layout.read order start) fun _ => True := by
  induction layout generalizing start with
  | nil => exact pure trivial
  | cons slot rest ih =>
    have hslot := hwidths slot List.mem_cons_self
    have hvalue : FailsByInput medium (readUint order slot.width) fun _ => True :=
      bind (readExact hslot) fun bytes _ => pure trivial
    refine bind hvalue fun value _ => ?_
    exact ih (fun s hs => hwidths s (List.mem_cons_of_mem slot hs)) (slot.set value start)

/-- A table fails by the input. -/
theorem readTable {step : Decode α} (hstep : FailsByInput medium step fun _ => True)
    (offset : Int) (count : Nat) :
    FailsByInput medium (ElfInspect.readTable offset count step) fun _ => True :=
  bind (seekTo offset) fun _ _ =>
    bind (repeatDecodeFrom hstep count #[]) fun _ _ => pure trivial

/-- All identification bytes are there, or else the input is truncated. -/
theorem readIdent :
    FailsByInput medium ElfInspect.readIdent fun ident => Abi.identSize ≤ ident.size := by
  refine bind (readExact (by decide)) fun ident hsize => ?_
  cases hcheck : checkIdent ident with
  | ok u => exact pure hsize
  | error e =>
    refine throw ?_
    -- the check has two causes, and both come from the input
    simp only [checkIdent] at hcheck
    split at hcheck
    · rw [← Except.error.inj hcheck]
      rfl
    · split at hcheck
      · rw [← Except.error.inj hcheck]
        rfl
      · cases hcheck

/-- The file header behind an identification fails by the input. -/
theorem readHeader {ident : Bytes} (h : Abi.identSize ≤ ident.size) :
    FailsByInput medium (FileHeader.read ident) fun _ => True := by
  have hlast : Abi.abiVersionIndex < ident.size := Nat.lt_of_lt_of_le (by decide) h
  rw [FileHeader.read_of_lt hlast]
  exact readLayout (Stored.fileHeader_width_lt _) _ _

/-- The content of a section fails by the input if its chunks can be represented. -/
theorem readContent (h : SectionHeader) {chunk : Int} (hpos : 1 ≤ chunk)
    (hgrants : medium.Grants chunk.toNat) :
    FailsByInput medium (h.readContent chunk) fun _ => True := by
  unfold SectionHeader.readContent ElfInspect.readContent
  split
  · exact pure trivial
  · rw [if_neg (by omega)]
    refine bind (seekTo _) fun _ _ => (accumulate (fun _ => rfl) ?_ #[]).anyway
    exact fun size hsize => hgrants size (Nat.le_trans hsize (Nat.min_le_left _ _))

/-! ### Names -/

/-- A list of lookups fails by one of them. -/
theorem isInputFault_of_mapM {f : β → Except DecodeError α}
    (hf : ∀ x cause, f x = .error cause → cause.isInputFault = true) {items : List β}
    {cause : DecodeError} (h : items.mapM f = .error cause) : cause.isInputFault = true := by
  induction items with
  | nil => cases h
  | cons x items ih =>
    rw [List.mapM_cons] at h
    cases hx : f x with
    | error first =>
      rw [hx, error_bind] at h
      exact Except.error.inj h ▸ hf x first hx
    | ok a =>
      rw [hx, ok_bind] at h
      cases hrest : items.mapM f with
      | error later =>
        rw [hrest, error_bind] at h
        exact ih (hrest.trans h)
      | ok as =>
        rw [hrest] at h
        cases h

/-- Section names fail by the input. -/
theorem sectionNames (header : FileHeader) (headers : List SectionHeader)
    (contents : List Bytes) :
    FailsByInput medium (Load.ofExcept (Load.sectionNames header headers contents))
      fun _ => True := by
  cases hnames : Load.sectionNames header headers contents with
  | ok names => exact pure trivial
  | error cause =>
    refine throw ?_
    unfold Load.sectionNames at hnames
    split at hnames
    · cases hnames
    · split at hnames
      · rw [← Except.error.inj hnames]
        rfl
      -- names are looked up one by one
      · refine isInputFault_of_mapM (fun h cause hlookup => ?_) hnames
        have hfault := StringTable.lookup_eq_error_iff.mp hlookup
        cases hfault <;> rfl

end FailsByInput

end ElfInspect
