import ElfInspect.Proofs.Ends
import ElfInspect.Proofs.Quota
import ElfInspect.Proofs.Transcripts

namespace ElfInspect

/-!
# The widths of what is decoded

A field is decoded from as many bytes as it is wide, whatever the device does and in however many
pieces it hands them out.  So the fields of every header and of every symbol are within the widths
of the encoding, and in particular addresses are.

* `Returns m good` — whatever it starts from, `m` ends with a value that is `good`, or fails;
* `Returns.readLayout` — the records of a layout are decoded from as many bytes as it takes;
* `Load.fits_of_ok` — the headers of a file that loads are within their widths;
* `ElfFile.value_of_symbols` — and so are the values of its symbols.
-/

variable {ε σ α β : Type}

/-- A device hands out no more than it is asked for. -/
theorem Device.size_le_of_read {d : Device} {size : Nat} {bytes : Bytes}
    (h : (d.read size).1 = .ok bytes) : bytes.size ≤ size := by
  have hslice (most : Option Nat) : (d.slice most size).size ≤ size := by
    unfold slice
    rw [Array.size_extract]
    cases most <;> dsimp only <;> omega
  simp only [read] at h
  split at h
  · cases h
  · split at h
    · cases h
    · rw [← Except.ok.inj h]
      exact hslice _

/-- Whatever it starts from, the computation ends with a value that has a property, or fails. -/
def Returns (m : EStateM ε σ α) (good : α → Prop) : Prop :=
  Ends (fun _ => True) m (fun a _ => good a) fun _ _ => True

namespace Returns

variable {m : EStateM ε σ α} {good better : α → Prop} {nice : β → Prop}

theorem pure {a : α} (h : good a) : Returns (Pure.pure a : EStateM ε σ α) good :=
  Ends.pure fun _ _ => h

/-- A cause is no value. -/
theorem throw (e : ε) : Returns (MonadExcept.throw e : EStateM ε σ α) good :=
  Ends.throw fun _ _ => trivial

/-- Nothing is said of the values. -/
theorem any (m : EStateM ε σ α) : Returns m fun _ => True :=
  Ends.any m

/-- Less may be said of the values. -/
theorem mono (h : Returns m good) (hgood : ∀ a, good a → better a) : Returns m better :=
  h.weaken (fun _ hs => hs) fun a _ ha => hgood a ha

/-- The second part may rely on what is good about the first value. -/
theorem bind {f : α → EStateM ε σ β} (hm : Returns m good)
    (hf : ∀ a, good a → Returns (f a) nice) : Returns (m >>= f) nice :=
  Ends.bind hm fun a s ha => hf a ha s trivial

/-- The value of a run that does not fail. -/
theorem good_of_ok (h : Returns m good) {s s' : σ} {a : α} (hrun : m s = .ok a s') : good a := by
  have hend := h s trivial
  rwa [hrun] at hend

/-! ### Reads -/

/-- A read brings no more than it is asked for. -/
theorem request (onFault : Fault → DecodeError) (size : Nat) :
    Returns (ElfInspect.request onFault size) fun bytes => bytes.size ≤ size := by
  intro d _
  unfold ElfInspect.request reporting
  cases hread : (d.read size).1 with
  | error fault => cases fault <;> trivial
  | ok bytes => exact Device.size_le_of_read hread

/-- A loop of reads collects exactly the bytes that are wanted. -/
theorem accumulate (most : Option Nat) (onFault : Fault → DecodeError) {wanted : Nat}
    {buffer : Bytes} (h : buffer.size ≤ wanted) :
    Returns (ElfInspect.accumulate most onFault wanted buffer)
      fun bytes => bytes.size = wanted := by
  -- what is missing becomes less with each read that brings something
  induction hk : wanted - buffer.size using Nat.strongRecOn generalizing buffer with
  | ind k ih =>
    by_cases hlt : buffer.size < wanted
    · rw [accumulate_eq_bind hlt]
      refine bind (request onFault _) fun bytes hbytes => ?_
      have hsize := Nat.le_trans hbytes (requestSize_le most _)
      by_cases hnone : bytes.size = 0
      · have hstop : goOn most onFault wanted buffer bytes =
            MonadExcept.throw (.truncated wanted buffer.size) := funext fun d => if_pos hnone
        rw [hstop]
        exact throw _
      · have hmore : goOn most onFault wanted buffer bytes =
            ElfInspect.accumulate most onFault wanted (buffer ++ bytes) :=
          funext fun d => if_neg hnone
        have hboth : (buffer ++ bytes).size = buffer.size + bytes.size := Array.size_append
        rw [hmore]
        exact ih _ (by omega) (by omega) rfl
    · have hover : ElfInspect.accumulate most onFault wanted buffer =
          (Pure.pure buffer : Decode Bytes) := funext fun d => accumulate_of_le (by omega)
      rw [hover]
      exact pure (by omega)

/-- A field has all of its bytes, or there is no field. -/
theorem readExact (size : Nat) :
    Returns (ElfInspect.readExact size) fun bytes => bytes.size = size :=
  accumulate none _ (Nat.zero_le _)

/-! ### Records -/

/-- A record is decoded from as many bytes as its layout takes. -/
theorem readLayout (layout : Layout α) (order : ByteOrder) (start : α) :
    Returns (layout.read order start) fun record =>
      ∃ bytes, bytes.length = layout.size ∧ record = layout.decode order start bytes := by
  induction layout generalizing start with
  | nil => exact pure ⟨[], rfl, rfl⟩
  | cons slot rest ih =>
    have hvalue : Returns (readUint order slot.width) fun value =>
        ∃ bytes, bytes.length = slot.width ∧ value = decodeUint order bytes :=
      bind (readExact slot.width) fun bytes hsize => pure ⟨bytes.toList, hsize, rfl⟩
    refine bind hvalue fun value ⟨first, hfirst, hvalue⟩ => ?_
    refine (ih (slot.set value start)).mono fun record ⟨later, hlater, hrecord⟩ => ?_
    refine ⟨first ++ later, ?_, ?_⟩
    · rw [List.length_append, hfirst, hlater, Layout.size_cons]
    · rw [Layout.decode, List.take_left' hfirst, List.drop_left' hfirst, ← hvalue, hrecord]

/-- The fields of a record are within their widths. -/
theorem fits_readLayout {layout : Layout α} (h : layout.Lawful) (order : ByteOrder) (start : α) :
    Returns (layout.read order start) layout.Fits :=
  (readLayout layout order start).mono fun _ ⟨_, hlength, hrecord⟩ =>
    hrecord ▸ h.fits_decode order start (Nat.le_of_eq hlength.symm)

/-- Records that are read one after another are good if those done before are. -/
theorem repeatDecodeFrom {step : Decode α} (hstep : Returns step good) (count : Nat)
    {done : Array α} (hdone : ∀ a ∈ done, good a) :
    Returns (ElfInspect.repeatDecodeFrom step count done) fun records =>
      ∀ a ∈ records, good a := by
  induction count generalizing done with
  | zero => exact pure hdone
  | succ count ih =>
    rw [repeatDecodeFrom_succ]
    refine bind hstep fun record hrecord => ih fun a ha => ?_
    rcases Array.mem_push.mp ha with ha | rfl
    · exact hdone a ha
    · exact hrecord

/-- From the first record on there is nothing done before. -/
theorem repeatDecode {step : Decode α} (hstep : Returns step good) (count : Nat) :
    Returns (ElfInspect.repeatDecode count step) fun records => ∀ a ∈ records, good a := by
  refine bind (repeatDecodeFrom hstep count fun a ha => absurd ha (Array.not_mem_empty a))
    fun records hrecords => ?_
  exact pure fun a ha => hrecords a (Array.mem_toList_iff.mp ha)

/-- All records of a table are good if each of them is. -/
theorem readTable {step : Decode α} (hstep : Returns step good) (offset : Int) (count : Nat) :
    Returns (ElfInspect.readTable offset count step) fun records => ∀ a ∈ records, good a :=
  bind (any _) fun _ _ => repeatDecode hstep count

/-! ### Headers -/

/-- The fields of a file header fit the widths that they have been decoded from. -/
theorem readHeader (ident : Bytes) :
    Returns (FileHeader.read ident) fun header => (FileHeader.layout header.encoding).Fits header :=
  bind (any _) fun _ _ => by
    refine bind (readLayout _ _ _) fun header ⟨bytes, hlength, hheader⟩ => ?_
    have hlawful := FileHeader.lawful_layout (FileHeader.ofIdent ident).encoding
    -- the class and the data are none of the fields that are decoded
    have hencoding : header.encoding = (FileHeader.ofIdent ident).encoding := by
      rw [hheader]
      rfl
    refine bind (any _) fun _ _ => pure ?_
    rw [hencoding, hheader]
    exact hlawful.fits_decode _ _ (Nat.le_of_eq hlength.symm)

end Returns

/-! ### Files -/

/-- The headers of the file are within the widths of its encoding. -/
structure ElfFile.Fits (file : ElfFile) : Prop where
  header : (FileHeader.layout file.header.encoding).Fits file.header
  segments : ∀ h ∈ file.segments, (ProgramHeader.layout file.header.encoding).Fits h
  sections : ∀ s ∈ file.sections, (SectionHeader.layout file.header.encoding).Fits s.header

namespace Load

/-- Each section has one of the section headers. -/
theorem mem_headers_of_mem_assemble {names : List String} {headers : List SectionHeader}
    {contents : List Bytes} {s : Section} (h : s ∈ assemble names headers contents) :
    s.header ∈ headers := by
  obtain ⟨⟨name, header, data⟩, hmem, rfl⟩ := List.mem_map.mp h
  exact (List.of_mem_zip (List.of_mem_zip hmem).2).1

/-- What a step returns in a phase is what it returns on its own. -/
theorem returns_perform {feedback : Feedback} {step : Decode α} {good : α → Prop}
    (hstep : Returns step good) : Returns (perform feedback step) good := by
  intro s _
  have hdecoder := hstep (feedback s.journal s.device) trivial
  unfold perform
  cases hrun : step (feedback s.journal s.device) with
  | ok a d =>
    rw [hrun] at hdecoder
    exact hdecoder
  | error cause d => trivial

/-- All parts of a file fit the widths that they have been decoded from. -/
theorem returns_pipeline (chunk : Int) (feedback : Feedback) :
    Returns (pipeline chunk feedback) ElfFile.Fits := by
  unfold pipeline
  refine .bind (.any _) fun _ _ => .bind (.any _) fun _ _ => ?_
  refine .bind (.any _) fun ident _ => .bind (.any _) fun _ _ => ?_
  -- nothing has to be said of the identification
  refine .bind (returns_perform (.readHeader ident)) fun header hheader => ?_
  refine .bind (.any _) fun _ _ => .bind (.any _) fun _ _ => ?_
  refine .bind (returns_perform (.readTable (.fits_readLayout (ProgramHeader.lawful_layout _) _ _)
    _ _)) fun segments hsegments => .bind (.any _) fun _ _ => ?_
  refine .bind (returns_perform (.readTable (.fits_readLayout (SectionHeader.lawful_layout _) _ _)
    _ _)) fun headers hheaders => .bind (.any _) fun _ _ => ?_
  refine .bind (.any _) fun contents _ => .bind (.any _) fun _ _ => ?_
  refine .bind (.any _) fun names _ => .bind (.any _) fun _ _ => ?_
  refine .bind (.any _) fun _ _ => .bind (.any _) fun _ _ => .pure ?_
  exact ⟨hheader, hsegments, fun s hs => hheaders s.header (mem_headers_of_mem_assemble hs)⟩

/-- **Widths.**  The headers of a file that loads are within their widths, whatever the device does
    on the way. -/
theorem fits_of_ok {device : Device} {chunk : Int} {feedback : Feedback} {file : ElfFile}
    (h : (run device chunk feedback).outcome = .ok file) : file.Fits := by
  unfold run at h
  cases hrun : pipeline chunk feedback { device } with
  | ok loaded s =>
    rw [hrun] at h
    exact Except.ok.inj h ▸ (returns_pipeline chunk feedback).good_of_ok hrun
  | error failure s =>
    rw [hrun] at h
    cases h

end Load

/-! ### Symbols -/

/-- The fields of a symbol differ, and setting one leaves the others alone. -/
theorem SymbolEntry.lawful_layout (e : Encoding) : (layout e).Lawful := by
  rcases e with ⟨_ | _, order⟩ <;> constructor <;> simp [layout]

/-- The value of a symbol has no more digits than it has bytes. -/
theorem Symbol.returns_read (e : Encoding) (strings : Bytes) :
    Returns (Symbol.read e strings) fun symbol => symbol.value < 256 ^ e.addressWidth := by
  refine .bind (.fits_readLayout (SymbolEntry.lawful_layout e) _ _) fun entry hentry => ?_
  cases hresolve : entry.resolve strings with
  | error cause => exact .throw cause
  | ok symbol =>
    refine .pure ?_
    obtain ⟨name, -, hsymbol⟩ := exists_of_bind_eq_ok hresolve
    cases hsymbol
    exact (SymbolEntry.fits_iff.mp hentry).2.1

/-- The values of symbols are addresses of the file that they are decoded for. -/
theorem ElfFile.value_of_symbols {file : ElfFile} {s : Section} {symbols : List Symbol}
    (h : file.symbols s = .ok symbols) :
    ∀ symbol ∈ symbols, symbol.value < 256 ^ file.header.encoding.addressWidth := by
  unfold ElfFile.symbols at h
  split at h
  · split at h
    · cases h
    · unfold Symbol.decodeTable at h
      dsimp only at h
      split at h
      · cases h
      · rename_i hrun
        split at h
        · cases h
          -- the bytes left over have no part in the symbols
          exact (Returns.repeatDecode (Symbol.returns_read _ _) _).good_of_ok hrun
        · cases h
  · cases h
    exact nofun

end ElfInspect
