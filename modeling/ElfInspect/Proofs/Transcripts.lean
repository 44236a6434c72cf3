import ElfInspect.Proofs.Load.Run
import ElfInspect.Proofs.SymbolPlan

namespace ElfInspect

/-!
# Records and their bytes

Reading a record and writing it down are inverse to each other, in both directions: a record that is
written down is read back, and the record that is read from some bytes is written down as these
bytes.  So no bit is lost on the way, and none is used twice.

* `encodeUint_decodeUint`, `Layout.Lawful.encode_decode` — decoded numbers and records are encoded
  to the bytes that they come from;
* `Layout.Lawful` — the fields of a layout are independent of each other;
* `FileHeader.bytes`, `ProgramHeader.bytes`, `SectionHeader.bytes` — the bytes of a record, field by
  field, for given class and data bytes;
* `Transcribes` — a decoder reads what is written down, and nothing else;
* `headers_transcribed` — the three kinds of headers are read as they are written.
-/

variable {α : Type}

/-! ### Numbers -/

/-- Bytes denote a number that has no more digits to the base of 256. -/
theorem decodeLittle_lt (bytes : List UInt8) : decodeLittle bytes < 256 ^ bytes.length := by
  induction bytes with
  | nil => exact Nat.one_pos
  | cons b rest ih =>
    have hb : b.toNat < 256 := b.toNat_lt
    rw [decodeLittle, List.length_cons, Nat.pow_succ]
    omega

/-- The number that bytes denote is written as these bytes. -/
theorem encodeLittle_decodeLittle (bytes : List UInt8) :
    encodeLittle bytes.length (decodeLittle bytes) = bytes := by
  induction bytes with
  | nil => rfl
  | cons b rest ih =>
    have hb : b.toNat < 256 := b.toNat_lt
    have hfirst : UInt8.ofNat (b.toNat + 256 * decodeLittle rest) = b := by
      apply UInt8.toNat_inj.mp
      rw [UInt8.toNat_ofNat']
      omega
    have hrest : (b.toNat + 256 * decodeLittle rest) / 256 = decodeLittle rest := by omega
    rw [decodeLittle, List.length_cons, encodeLittle, hfirst, hrest, ih]

/-- A number is within the width of the bytes that it is decoded from. -/
theorem decodeUint_lt (order : ByteOrder) (bytes : List UInt8) :
    decodeUint order bytes < 256 ^ bytes.length := by
  cases order with
  | little => exact decodeLittle_lt bytes
  | big =>
    rw [← List.length_reverse]
    exact decodeLittle_lt bytes.reverse

/-- A decoded number is encoded to the bytes that it comes from. -/
theorem encodeUint_decodeUint (order : ByteOrder) (bytes : List UInt8) :
    encodeUint order bytes.length (decodeUint order bytes) = bytes := by
  cases order with
  | little => exact encodeLittle_decodeLittle bytes
  | big =>
    have hreverse := encodeLittle_decodeLittle bytes.reverse
    rw [List.length_reverse] at hreverse
    show (encodeLittle bytes.length (decodeLittle bytes.reverse)).reverse = bytes
    rw [hreverse, List.reverse_reverse]

/-! ### Layouts -/

namespace Layout

/-- Each field is what it has been set to, and no other field changes it. -/
structure Lawful (layout : Layout α) : Prop where
  get_set : ∀ slot ∈ layout, ∀ value record, slot.get (slot.set value record) = value
  frame : layout.Pairwise fun slot later =>
    ∀ value record, slot.get (later.set value record) = slot.get record

variable {layout : Layout α} {slot : Slot α}

/-- The fields behind the first one are lawful as well. -/
theorem Lawful.tail (h : Lawful (slot :: layout)) : Lawful layout :=
  ⟨fun s hs => h.get_set s (List.mem_cons_of_mem slot hs), h.frame.of_cons⟩

/-- Fields that are decoded later leave a field alone. -/
theorem get_decode (order : ByteOrder)
    (h : ∀ later ∈ layout, ∀ value record, slot.get (later.set value record) = slot.get record)
    (start : α) (bytes : List UInt8) :
    slot.get (layout.decode order start bytes) = slot.get start := by
  induction layout generalizing start bytes with
  | nil => rfl
  | cons first rest ih =>
    rw [decode, ih fun later hlater => h later (List.mem_cons_of_mem first hlater)]
    exact h first List.mem_cons_self _ start

/-- The first field of a decoded record. -/
theorem Lawful.get_decode_cons (h : Lawful (slot :: layout)) (order : ByteOrder) (start : α)
    (bytes : List UInt8) :
    slot.get (Layout.decode (slot :: layout) order start bytes) =
      decodeUint order (bytes.take slot.width) := by
  rw [decode, Layout.get_decode order fun _ => List.rel_of_pairwise_cons h.frame]
  exact h.get_set slot List.mem_cons_self _ start

/-- **Decoded records.**  A record is encoded to the bytes that it has been decoded from. -/
theorem Lawful.encode_decode (h : layout.Lawful) (order : ByteOrder) (start : α)
    {bytes : List UInt8} (hsize : layout.size ≤ bytes.length) :
    layout.encode order (layout.decode order start bytes) = bytes.take layout.size := by
  induction layout generalizing start bytes with
  | nil => rfl
  | cons slot rest ih =>
    rw [size_cons] at hsize ⊢
    have hwidth : (bytes.take slot.width).length = slot.width := by
      rw [List.length_take]
      omega
    have hfirst := encodeUint_decodeUint order (bytes.take slot.width)
    rw [hwidth, ← h.get_decode_cons order start bytes] at hfirst
    have hdrop : size rest ≤ (bytes.drop slot.width).length := by
      rw [List.length_drop]
      omega
    have hrest := ih h.tail (slot.set (decodeUint order (bytes.take slot.width)) start) hdrop
    -- the bytes of the first field, and then those of the others
    show encodeUint order slot.width (slot.get _) ++ encode rest order _ = _
    rw [hfirst, List.take_add]
    exact congrArg _ hrest

/-- The fields of a decoded record are within their widths. -/
theorem Lawful.fits_decode (h : layout.Lawful) (order : ByteOrder) (start : α) {bytes : List UInt8}
    (hsize : layout.size ≤ bytes.length) : layout.Fits (layout.decode order start bytes) := by
  induction layout generalizing start bytes with
  | nil => exact fun _ hmem => absurd hmem List.not_mem_nil
  | cons slot rest ih =>
    rw [size_cons] at hsize
    refine List.forall_mem_cons.mpr ⟨?_, ?_⟩
    · have hlt := decodeUint_lt order (bytes.take slot.width)
      rwa [List.length_take, Nat.min_eq_left (by omega), ← h.get_decode_cons order start bytes]
        at hlt
    · exact ih h.tail _ (by rw [List.length_drop]; omega)

/-- What a layout does not have, a decoded record has from where it started. -/
theorem Lawful.transfer_decode (h : layout.Lawful) (order : ByteOrder) (start : α)
    {bytes : List UInt8} (hsize : layout.size ≤ bytes.length) :
    layout.transfer (layout.decode order start bytes) start = layout.decode order start bytes := by
  have hback := decode_encode order (h.fits_decode order start hsize) start
    (bytes.drop layout.size)
  rw [h.encode_decode order start hsize, List.take_append_drop] at hback
  exact hback.symm

end Layout

/-! ### Decoders -/

/-- The decoder reads the records that are written as `bytes`, each of which takes `size` bytes:
    from every device that delivers, and wherever they stand, a record that is admissible is read
    from its bytes, whatever follows them; and from any bytes an admissible record is read whose
    bytes they are.  Either way the device moves past these bytes and no further. -/
structure Transcribes (read : Decode α) (Admissible : α → Prop) (bytes : α → List UInt8)
    (size : Nat) : Prop where
  read_bytes : ∀ (content : Bytes) (medium : Medium) (position : Nat) (record : α),
    Admissible record → Stored.Carries content position (bytes record) →
    Yields (Device.Serves content medium position) read (.ok record)
      (Device.Serves content medium (position + size))
  bytes_read : ∀ (content : Bytes) (position : Nat), size ≤ content.size - position →
    ∃ record, Admissible record ∧ bytes record = (content.toList.drop position).take size ∧
      ∀ medium, Yields (Device.Serves content medium position) read (.ok record)
        (Device.Serves content medium (position + size))

/-- Reading by a layout and encoding by it are inverse to each other, as far as the layout goes. -/
theorem Layout.Lawful.transcribes {layout : Layout α} (h : layout.Lawful) (order : ByteOrder)
    (start : α) (hwidths : ∀ slot ∈ layout, slot.width < leastRoom) :
    Transcribes (layout.read order start)
      (fun record => layout.Fits record ∧ layout.transfer record start = record)
      (layout.encode order) layout.size := by
  have hread (content : Bytes) (medium : Medium) (position : Nat)
      (hsize : layout.size ≤ content.size - position) :
      Yields (Device.Serves content medium position) (layout.read order start)
        (.ok (layout.decode order start (content.toList.drop position)))
        (Device.Serves content medium (position + layout.size)) := by
    rw [← Stored.record_of_le hsize, ← Nat.min_eq_left hsize]
    exact Yields.readLayout start hwidths
  refine ⟨fun content medium position record ⟨hfits, hstart⟩ hcarries => ?_,
    fun content position hsize => ?_⟩
  · have hsize := hcarries.length_le
    rw [length_encode] at hsize
    have hread := hread content medium position hsize
    rwa [hcarries.decode hfits, hstart] at hread
  -- a record that is read fits its widths, as its bytes do not denote greater numbers
  · have hlength : layout.size ≤ (content.toList.drop position).length := by
      rwa [List.length_drop, Array.length_toList]
    exact ⟨_, ⟨h.fits_decode order start hlength, h.transfer_decode order start hlength⟩,
      h.encode_decode order start hlength, fun medium => hread content medium position hsize⟩

/-- The same, said of the same records and the same bytes in other words. -/
theorem Transcribes.congr {read : Decode α} {Admissible Admissible' : α → Prop}
    {bytes bytes' : α → List UInt8} {size : Nat} (h : Transcribes read Admissible bytes size)
    (hadmissible : ∀ record, Admissible' record ↔ Admissible record)
    (hbytes : ∀ record, bytes' record = bytes record) :
    Transcribes read Admissible' bytes' size := by
  obtain rfl : bytes' = bytes := funext hbytes
  obtain rfl : Admissible' = Admissible := funext fun record => propext (hadmissible record)
  exact h

/-! ### Headers -/

/-- The fields of a file header differ, and setting one leaves the others alone. -/
theorem FileHeader.lawful_layout (e : Encoding) : (layout e).Lawful := by
  constructor
  · simp [layout]
  · simp [layout]

/-- So do those of a program header, in either order. -/
theorem ProgramHeader.lawful_layout (e : Encoding) : (layout e).Lawful := by
  rcases e with ⟨_ | _, order⟩ <;> constructor <;> simp [layout]

/-- So do those of a section header. -/
theorem SectionHeader.lawful_layout (e : Encoding) : (layout e).Lawful := by
  constructor
  · simp [layout]
  · simp [layout]

/-- The bytes of a file header behind the identification. -/
def FileHeader.bytes (cls data : UInt8) (h : FileHeader) : List UInt8 :=
  let uint := encodeUint (if data = 1 then .little else .big)
  let address := uint (if cls = 1 then 4 else 8)
  uint 2 h.type ++ uint 2 h.machine ++ uint 4 h.version ++
  address h.entry ++ address h.phoff ++ address h.shoff ++
  uint 4 h.flags ++ uint 2 h.ehsize ++ uint 2 h.phentsize ++ uint 2 h.phnum ++
  uint 2 h.shentsize ++ uint 2 h.shnum ++ uint 2 h.shstrndx

/-- The bytes of a program header. -/
def ProgramHeader.bytes (cls data : UInt8) (h : ProgramHeader) : List UInt8 :=
  let uint := encodeUint (if data = 1 then .little else .big)
  if cls = 1 then
    uint 4 h.type ++ uint 4 h.offset ++ uint 4 h.vaddr ++ uint 4 h.paddr ++ uint 4 h.filesz ++
    uint 4 h.memsz ++ uint 4 h.flags ++ uint 4 h.align
  else
    uint 4 h.type ++ uint 4 h.flags ++ uint 8 h.offset ++ uint 8 h.vaddr ++ uint 8 h.paddr ++
    uint 8 h.filesz ++ uint 8 h.memsz ++ uint 8 h.align

/-- The bytes of a section header. -/
def SectionHeader.bytes (cls data : UInt8) (h : SectionHeader) : List UInt8 :=
  let uint := encodeUint (if data = 1 then .little else .big)
  let address := uint (if cls = 1 then 4 else 8)
  uint 4 h.name ++ uint 4 h.type ++ address h.flags ++ address h.addr ++ address h.offset ++
  address h.size ++ uint 4 h.link ++ uint 4 h.info ++ address h.addralign ++ address h.entsize

/-- The fields of the header are within their widths, when addresses take a number of bits. -/
def FileHeader.Within (bits : Nat) (h : FileHeader) : Prop :=
  h.type < 2 ^ 16 ∧ h.machine < 2 ^ 16 ∧ h.version < 2 ^ 32 ∧ h.entry < 2 ^ bits ∧
  h.phoff < 2 ^ bits ∧ h.shoff < 2 ^ bits ∧ h.flags < 2 ^ 32 ∧ h.ehsize < 2 ^ 16 ∧
  h.phentsize < 2 ^ 16 ∧ h.phnum < 2 ^ 16 ∧ h.shentsize < 2 ^ 16 ∧ h.shnum < 2 ^ 16 ∧
  h.shstrndx < 2 ^ 16

instance (bits : Nat) (h : FileHeader) : Decidable (h.Within bits) :=
  inferInstanceAs (Decidable (_ ∧ _))

/-- The header says what the identification bytes say. -/
def FileHeader.Identifies (h : FileHeader) (ident : Bytes) : Prop :=
  h.elfClass = (ident.getD 4 0).toNat ∧ h.data = (ident.getD 5 0).toNat ∧
  h.osAbi = (ident.getD 7 0).toNat ∧ h.abiVersion = (ident.getD 8 0).toNat

instance (h : FileHeader) (ident : Bytes) : Decidable (h.Identifies ident) :=
  inferInstanceAs (Decidable (_ ∧ _))

/-- The fields of the header are within their widths, when addresses take a number of bits. -/
def ProgramHeader.Within (bits : Nat) (h : ProgramHeader) : Prop :=
  h.type < 2 ^ 32 ∧ h.flags < 2 ^ 32 ∧ h.offset < 2 ^ bits ∧ h.vaddr < 2 ^ bits ∧
  h.paddr < 2 ^ bits ∧ h.filesz < 2 ^ bits ∧ h.memsz < 2 ^ bits ∧ h.align < 2 ^ bits

/-- The fields of the header are within their widths, when addresses take a number of bits. -/
def SectionHeader.Within (bits : Nat) (h : SectionHeader) : Prop :=
  h.name < 2 ^ 32 ∧ h.type < 2 ^ 32 ∧ h.flags < 2 ^ bits ∧ h.addr < 2 ^ bits ∧
  h.offset < 2 ^ bits ∧ h.size < 2 ^ bits ∧ h.link < 2 ^ 32 ∧ h.info < 2 ^ 32 ∧
  h.addralign < 2 ^ bits ∧ h.entsize < 2 ^ bits

section Encodings

variable (cls data : UInt8)

/-- The layout writes the bytes of a file header one field after another. -/
theorem FileHeader.encode_layout (h : FileHeader) :
    (layout (.ofBytes cls.toNat data.toNat)).encode
      (Encoding.ofBytes cls.toNat data.toNat).order h = h.bytes cls data := by
  rw [SymbolPlan.encoding_eq]
  by_cases hcls : cls = 1 <;>
    simp [hcls, layout, Layout.encode, bytes, Encoding.addressWidth]

/-- The layout writes the bytes of a program header one field after another. -/
theorem ProgramHeader.encode_layout (h : ProgramHeader) :
    (layout (.ofBytes cls.toNat data.toNat)).encode
      (Encoding.ofBytes cls.toNat data.toNat).order h = h.bytes cls data := by
  rw [SymbolPlan.encoding_eq]
  by_cases hcls : cls = 1 <;>
    simp [hcls, layout, Layout.encode, bytes, Encoding.addressWidth]

/-- The layout writes the bytes of a section header one field after another. -/
theorem SectionHeader.encode_layout (h : SectionHeader) :
    (layout (.ofBytes cls.toNat data.toNat)).encode
      (Encoding.ofBytes cls.toNat data.toNat).order h = h.bytes cls data := by
  rw [SymbolPlan.encoding_eq]
  by_cases hcls : cls = 1 <;>
    simp [hcls, layout, Layout.encode, bytes, Encoding.addressWidth]

/-- A file header can be written if its fields are within their widths. -/
theorem FileHeader.fits_layout_iff (h : FileHeader) :
    (layout (.ofBytes cls.toNat data.toNat)).Fits h ↔ h.Within (SymbolPlan.addressBits cls) := by
  simp [Layout.Fits, layout, Within, SymbolPlan.pow_addressWidth]

/-- A program header can be written if its fields are within their widths. -/
theorem ProgramHeader.fits_layout_iff (h : ProgramHeader) :
    (layout (.ofBytes cls.toNat data.toNat)).Fits h ↔ h.Within (SymbolPlan.addressBits cls) := by
  rw [fits_iff, SymbolPlan.pow_addressWidth]
  rfl

/-- A section header can be written if its fields are within their widths. -/
theorem SectionHeader.fits_layout_iff (h : SectionHeader) :
    (layout (.ofBytes cls.toNat data.toNat)).Fits h ↔ h.Within (SymbolPlan.addressBits cls) := by
  rw [fits_iff, SymbolPlan.pow_addressWidth]
  rfl

/-- The fields that the layout does not have come from the identification bytes. -/
theorem FileHeader.transfer_eq_iff (e : Encoding) (h : FileHeader) (ident : Bytes) :
    (layout e).transfer h (ofIdent ident) = h ↔ h.Identifies ident := by
  cases h
  simp [Layout.transfer, layout, ofIdent, Identifies, Abi.classIndex, Abi.dataIndex,
    Abi.osAbiIndex, Abi.abiVersionIndex, eq_comm]

/-- The identification names the encoding of the file header. -/
theorem FileHeader.encoding_ofIdent {ident : Bytes} (hcls : ident.getD 4 0 = cls)
    (hdata : ident.getD 5 0 = data) :
    (ofIdent ident).encoding = .ofBytes cls.toNat data.toNat := by
  rw [← hcls, ← hdata]
  rfl

theorem FileHeader.size_layout :
    (layout (.ofBytes cls.toNat data.toNat)).size = if cls = 1 then 36 else 48 := by
  rw [SymbolPlan.encoding_eq]
  by_cases hcls : cls = 1 <;> simp [hcls, layout, Layout.size, Layout.total, Layout.widths,
    Encoding.addressWidth]

end Encodings

/-- **Headers.**  Whatever the class and data bytes, the three kinds of headers are read as they are
    written: the file header behind its identification, the program header and the section header.
    The fields of what is read are within their widths. -/
theorem headers_transcribed (cls data : UInt8) :
    (∀ ident : Bytes, ident.size = Abi.identSize → ident.getD 4 0 = cls → ident.getD 5 0 = data →
      Transcribes (FileHeader.read ident)
        (fun h => h.Within (SymbolPlan.addressBits cls) ∧ h.Identifies ident)
        (FileHeader.bytes cls data) (if cls = 1 then 36 else 48)) ∧
    Transcribes (ProgramHeader.read (.ofBytes cls.toNat data.toNat))
      (ProgramHeader.Within (SymbolPlan.addressBits cls)) (ProgramHeader.bytes cls data)
      (if cls = 1 then 32 else 56) ∧
    Transcribes (SectionHeader.read (.ofBytes cls.toNat data.toNat))
      (SectionHeader.Within (SymbolPlan.addressBits cls)) (SectionHeader.bytes cls data)
      (if cls = 1 then 40 else 64) := by
  have hone : (Encoding.ofBytes cls.toNat data.toNat).narrow = decide (cls = 1) := by
    rw [SymbolPlan.encoding_eq]
  refine ⟨fun ident hsize hcls hdata => ?fileHeader, ?programHeader, ?sectionHeader⟩
  case fileHeader =>
    have hident : Abi.abiVersionIndex < ident.size := by rw [hsize]; decide
    have hlayout := (FileHeader.lawful_layout (.ofBytes cls.toNat data.toNat)).transcribes
      (Encoding.ofBytes cls.toNat data.toNat).order (FileHeader.ofIdent ident)
      (Stored.fileHeader_width_lt _)
    rw [FileHeader.size_layout] at hlayout
    rw [FileHeader.read_of_lt hident, FileHeader.encoding_ofIdent cls data hcls hdata]
    refine hlayout.congr (fun h => ?_) fun h => (h.encode_layout cls data).symm
    rw [FileHeader.fits_layout_iff, FileHeader.transfer_eq_iff]
  case programHeader =>
    have hlayout := (ProgramHeader.lawful_layout (.ofBytes cls.toNat data.toNat)).transcribes
      (Encoding.ofBytes cls.toNat data.toNat).order {} (Stored.programHeader_width_lt _)
    rw [Stored.size_programHeader, Stored.segmentSize, hone] at hlayout
    simp only [decide_eq_true_eq] at hlayout
    refine hlayout.congr (fun h => ?_) fun h => (h.encode_layout cls data).symm
    rw [ProgramHeader.fits_layout_iff, ProgramHeader.transfer_layout, eq_self_iff_true, and_true]
  case sectionHeader =>
    have hlayout := (SectionHeader.lawful_layout (.ofBytes cls.toNat data.toNat)).transcribes
      (Encoding.ofBytes cls.toNat data.toNat).order {} (Stored.sectionHeader_width_lt _)
    rw [Stored.size_sectionHeader, Stored.sectionSize, hone] at hlayout
    simp only [decide_eq_true_eq] at hlayout
    refine hlayout.congr (fun h => ?_) fun h => (h.encode_layout cls data).symm
    rw [SectionHeader.fits_layout_iff, SectionHeader.transfer_layout, eq_self_iff_true, and_true]

/-- Identification bytes of a file with narrow addresses and the most significant byte first. -/
def narrowIdent : Bytes :=
  (Abi.magic ++ [1, 2, 1, 3, 4] ++ List.replicate 7 0).toArray

/-- A header no two fields of which are equal. -/
def variedHeader : FileHeader :=
  { elfClass := 1, data := 2, osAbi := 3, abiVersion := 4, type := 5, machine := 6, version := 7
    entry := 0x80000008, phoff := 9, shoff := 10, flags := 11, ehsize := 12, phentsize := 13
    phnum := 14, shentsize := 15, shnum := 16, shstrndx := 0xFF11 }

/-- The header is read from its bytes, with another byte behind them, and some bytes are read as a
    header that is written as these. -/
theorem headers_transcribed_narrowIdent :
    let written := (variedHeader.bytes 1 2 ++ [0xAA]).toArray
    let counted := (List.range 40).map UInt8.ofNat
    (∃ d, FileHeader.read narrowIdent (.ofBytes written) = .ok variedHeader d ∧ d.position = 36) ∧
    ∃ h d, FileHeader.read narrowIdent (.ofBytes counted.toArray) = .ok h d ∧
      h.bytes 1 2 = counted.take 36 := by
  intro written counted
  obtain ⟨hheader, -, -⟩ := headers_transcribed 1 2
  obtain ⟨hread, hwritten⟩ := hheader narrowIdent (by decide) (by decide) (by decide)
  have hadmissible : variedHeader.Within (SymbolPlan.addressBits 1) ∧
      variedHeader.Identifies narrowIdent := by
    decide
  constructor
  -- a record that is written is read back
  · obtain ⟨d, hrun, hd⟩ := hread written .memory 0 variedHeader hadmissible
      (List.prefix_append _ _) _ (Device.ofBytes_serves written)
    exact ⟨d, hrun, hd.position_eq⟩
  -- whatever bytes there are, they are those of the record that is read
  · obtain ⟨h, -, hbytes, hyields⟩ := hwritten counted.toArray 0 (by decide)
    obtain ⟨d, hrun, -⟩ := hyields .memory _ (Device.ofBytes_serves counted.toArray)
    exact ⟨h, d, hrun, hbytes⟩

end ElfInspect
