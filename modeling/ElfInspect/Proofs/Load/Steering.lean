import ElfInspect.Proofs.Load.Footprint

namespace ElfInspect

/-!
# What of the file header steers decoding

Decoding asks two questions of the identification bytes: whether the class byte is the one of
32-bit files, and whether the data byte is the one of little-endian files.  Of the other fields of
the file header it uses the places and the lengths of the tables, and the index of the name table.
All other fields are labels, which are handed on as they are.

* `Stored.labels` — the labels, each with its place in the file header;
* `Relabelled image image'` — the images differ in labels and in padding only, and give the same
  answers to the two questions;
* `FileHeader.relabelled` — the file header with the labels of another image;
* `ElfFile.BehindHeader` — no part of the image overlaps the file header;
* `Load.labels_irrelevant` — then the one image is loaded like the other, labels apart.
-/

/-- The file header with its labels taken from a content. -/
def FileHeader.relabelled (h : FileHeader) (content : Bytes) : FileHeader :=
  let w := h.encoding.addressWidth
  let field := Stored.uint content h.encoding.order
  { h with
    elfClass := (content.getD 4 0).toNat
    data := (content.getD 5 0).toNat
    osAbi := (content.getD 7 0).toNat
    abiVersion := (content.getD 8 0).toNat
    type := field 16 2
    machine := field 18 2
    version := field 20 4
    entry := field 24 w
    flags := field (24 + 3 * w) 4
    ehsize := field (28 + 3 * w) 2
    phentsize := field (30 + 3 * w) 2
    shentsize := field (34 + 3 * w) 2 }

/-- The tables of the file and the contents of its sections begin behind the file header, unless
    they are empty or, in the case of a content, without space in the file. -/
structure ElfFile.BehindHeader (file : ElfFile) : Prop where
  segments : file.header.phnum ≠ 0 → Stored.headerSize file.header.encoding ≤ file.header.phoff
  sections : file.header.shnum ≠ 0 → Stored.headerSize file.header.encoding ≤ file.header.shoff
  contents : ∀ s ∈ file.sections, s.header.type ≠ Abi.sectionNobits → s.header.size ≠ 0 →
    Stored.headerSize file.header.encoding ≤ s.header.offset

variable {image image' : Bytes}

namespace Stored

/-! ### Labels -/

/-- The labels of a file header, each with its place. -/
def labels (e : Encoding) : List (Extent × (FileHeader → Nat)) :=
  let w := e.addressWidth
  [(⟨4, 1⟩, FileHeader.elfClass), (⟨5, 1⟩, FileHeader.data), (⟨7, 1⟩, FileHeader.osAbi),
    (⟨8, 1⟩, FileHeader.abiVersion), (⟨16, 2⟩, FileHeader.type), (⟨18, 2⟩, FileHeader.machine),
    (⟨20, 4⟩, FileHeader.version), (⟨24, w⟩, FileHeader.entry),
    (⟨24 + 3 * w, 4⟩, FileHeader.flags), (⟨28 + 3 * w, 2⟩, FileHeader.ehsize),
    (⟨30 + 3 * w, 2⟩, FileHeader.phentsize), (⟨34 + 3 * w, 2⟩, FileHeader.shentsize)]

/-- The position lies neither in a label nor in the padding of the identification bytes. -/
def Steers (e : Encoding) (p : Nat) : Prop :=
  p ∉ (⟨9, 7⟩ : Extent) ∧ ∀ label ∈ labels e, p ∉ label.1

instance (e : Encoding) (p : Nat) : Decidable (Steers e p) :=
  inferInstanceAs (Decidable (_ ∧ _))

/-- What is left between the labels. -/
theorem steers_iff {e : Encoding} {p : Nat} :
    Steers e p ↔ p < 4 ∨ p = 6 ∨ 24 + e.addressWidth ≤ p ∧ p < 24 + 3 * e.addressWidth ∨
      32 + 3 * e.addressWidth ≤ p ∧ p < 34 + 3 * e.addressWidth ∨
      36 + 3 * e.addressWidth ≤ p := by
  simp only [Steers, labels, List.forall_mem_cons, List.not_mem_nil, false_implies, implies_true,
    and_true, Extent.mem_iff]
  omega

/-- The second image has other labels and another padding at most.  Its class byte means 32-bit
    addresses, and its data byte a little-endian order, exactly if those of the first do. -/
structure Relabelled (image image' : Bytes) : Prop where
  size_eq : image'.size = image.size
  narrow_iff : (image'.getD 4 0).toNat = 1 ↔ (image.getD 4 0).toNat = 1
  little_iff : (image'.getD 5 0).toNat = 1 ↔ (image.getD 5 0).toNat = 1
  steering : ∀ p, Steers (encoding image) p → image'[p]? = image[p]?

/-- The two questions. -/
theorem encoding_eq_iff {content content' : Bytes} :
    encoding content' = encoding content ↔
      ((content'.getD 4 0).toNat = 1 ↔ (content.getD 4 0).toNat = 1) ∧
        ((content'.getD 5 0).toNat = 1 ↔ (content.getD 5 0).toNat = 1) := by
  have horder (d d' : Nat) : ByteOrder.ofData d' = ByteOrder.ofData d ↔ (d' = 1 ↔ d = 1) := by
    unfold ByteOrder.ofData Abi.littleEndian
    by_cases hd : d = 1 <;> by_cases hd' : d' = 1 <;> simp [hd, hd']
  unfold encoding Encoding.ofBytes
  rw [Encoding.mk.injEq, decide_eq_decide, horder]
  exact Iff.rfl

namespace Relabelled

/-- The bytes that name the encoding may change, but not the encoding. -/
theorem encoding_eq (h : Relabelled image image') : encoding image' = encoding image :=
  encoding_eq_iff.mpr ⟨h.narrow_iff, h.little_iff⟩

/-- Ranges between the labels. -/
theorem agree (h : Relabelled image image') {x : Extent}
    (hsteers : ∀ p ∈ x, Steers (encoding image) p) : Agree image image' x :=
  fun p hp => h.steering p (hsteers p hp)

/-- Ranges behind the file header. -/
theorem agree_behind (h : Relabelled image image') {x : Extent}
    (hbehind : x.length ≠ 0 → headerSize (encoding image) ≤ x.offset) : Agree image image' x := by
  refine h.agree fun p hp => steers_iff.mpr ?_
  obtain ⟨hlow, hhigh⟩ := Extent.mem_iff.mp hp
  have hsize := headerSize_eq (encoding image)
  have hle := hbehind (by omega)
  omega

/-- A field of the file header that is no label. -/
theorem field_eq (h : Relabelled image image') {offset width : Nat}
    (hsteers : ∀ p, offset ≤ p → p < offset + width → Steers (encoding image) p) :
    uint image' (encoding image).order offset width =
      uint image (encoding image).order offset width :=
  (h.agree fun p hp => hsteers p hp.1 hp.2).uint _

/-- The file header has the labels of the second image, and is otherwise that of the first. -/
theorem fileHeader_eq (h : Relabelled image image') :
    fileHeader image' = (fileHeader image).relabelled image' := by
  have hencoding : (fileHeader image).encoding = encoding image := rfl
  simp only [FileHeader.relabelled, hencoding]
  simp only [fileHeader, h.encoding_eq, FileHeader.mk.injEq, true_and]
  refine ⟨?_, ?_, ?_, ?_, ?_⟩ <;>
  · refine h.field_eq fun p hlow hhigh => steers_iff.mpr ?_
    omega

/-- What is checked of the header is not relabelled. -/
theorem headed (h : Relabelled image image') (hheaded : Headed image) : Headed image' where
  ident_le := h.size_eq ▸ hheaded.ident_le
  magic := by
    have hmagic : Agree image image' ⟨0, 4⟩ := by
      refine h.agree fun p hp => steers_iff.mpr (.inl ?_)
      have hhigh : p < 0 + 4 := hp.2
      omega
    exact hmagic.take_drop.trans hheaded.magic
  version := by
    have hversion : image'[6]? = image[6]? := h.steering 6 (steers_iff.mpr (.inr (.inl rfl)))
    have hbyte : image'.getD 6 0 = image.getD 6 0 := by
      rw [Array.getD_eq_getD_getElem?, Array.getD_eq_getD_getElem?, hversion]
    show (image'.getD 6 0).toNat = Abi.currentVersion
    rw [hbyte]
    exact hheaded.version
  header_le := by
    rw [h.encoding_eq, h.size_eq]
    exact hheaded.header_le

/-- Parts that do not overlap the file header are shared with the second image. -/
theorem sharesParts (h : Relabelled image image') (hload : Loadable image) {file : ElfFile}
    (hmatches : Matches image file) (hbehind : file.BehindHeader) : SharesParts image image' := by
  rcases file with ⟨header, segments, sections⟩
  obtain rfl : header = fileHeader image := hmatches.header
  have hheader := h.fileHeader_eq
  refine { headed := h.headed hload.toHeaded
           encoding_eq := h.encoding_eq
           phoff_eq := hheader ▸ rfl
           phnum_eq := hheader ▸ rfl
           shoff_eq := hheader ▸ rfl
           shnum_eq := hheader ▸ rfl
           shstrndx_eq := hheader ▸ rfl
           segments := ?_, headers := ?_, contents := ?_ }
  · refine h.agree_behind fun hlength => hbehind.segments ?_
    exact Nat.ne_zero_of_mul_ne_zero_left hlength
  · refine h.agree_behind fun hlength => hbehind.sections ?_
    exact Nat.ne_zero_of_mul_ne_zero_left hlength
  · intro i hi htype
    -- the section with the index is one of the file, with this header
    have hi' : i < sections.length := Nat.lt_of_lt_of_eq hi hmatches.sections_length.symm
    obtain ⟨hheaderAt, -⟩ := hmatches.section_at i sections[i] (List.getElem?_eq_getElem hi')
    rw [← hheaderAt] at htype ⊢
    refine h.agree_behind fun hlength => ?_
    exact hbehind.contents sections[i] (List.getElem_mem hi') htype hlength

end Relabelled

/-- A label that has the same bytes in both images has the same value in both file headers. -/
theorem label_eq (hencoding : encoding image' = encoding image)
    {label : Extent × (FileHeader → Nat)}
    (hlabel : label ∈ labels (encoding image)) (hagree : Agree image image' label.1) :
    label.2 (fileHeader image') = label.2 (fileHeader image) := by
  have hbyte {p : Nat} (h : Agree image image' ⟨p, 1⟩) : image'.getD p 0 = image.getD p 0 :=
    h.getD (Extent.mem_iff.mpr ⟨Nat.le_refl p, Nat.lt_succ_self p⟩)
  simp only [labels, List.mem_cons, List.not_mem_nil, or_false] at hlabel
  -- the first four labels are single bytes, and the others are numbers
  rcases hlabel with rfl | rfl | rfl | rfl | hlabel
  · exact congrArg UInt8.toNat (hbyte hagree)
  · exact congrArg UInt8.toNat (hbyte hagree)
  · exact congrArg UInt8.toNat (hbyte hagree)
  · exact congrArg UInt8.toNat (hbyte hagree)
  · rcases hlabel with rfl | rfl | rfl | rfl | rfl | rfl | rfl | rfl <;>
    · simp only [fileHeader, hencoding]
      exact hagree.uint _

end Stored

/-! ### Loads -/

/-- **What steers decoding.**  An image whose parts do not overlap the file header is loaded to the
    same segments and sections, and with the same symbols, under any other labels, as long as the
    class byte and the data byte mean the same.  Each label is taken from its own place. -/
theorem Load.labels_irrelevant {image image' : Bytes} {chunk : Int} (hpos : 1 ≤ chunk)
    (hlt : chunk < wordLimit) {file : ElfFile} (hload : Load.ofBytes image chunk = .ok file)
    (hbehind : file.BehindHeader) (h : Stored.Relabelled image image') :
    let file' := { file with header := file.header.relabelled image' }
    Load.ofBytes image' chunk = .ok file' ∧
      (∀ label ∈ Stored.labels file.header.encoding, Stored.Agree image image' label.1 →
        label.2 file'.header = label.2 file.header) ∧
      file'.header.encoding = file.header.encoding ∧
      (file.header.encoding.narrow = true ↔ (image.getD 4 0).toNat = 1) ∧
      (file.header.encoding.order = .little ↔ (image.getD 5 0).toNat = 1) ∧
      ∀ s, file'.symbols s = file.symbols s := by
  intro file'
  have hstored := hload
  rw [Load.ofBytes_eq hpos hlt] at hstored
  obtain ⟨hloadable, hmatches⟩ := Stored.load_eq_ok_iff.mp hstored
  have hheader : file'.header = Stored.fileHeader image' := by
    rw [h.fileHeader_eq, ← hmatches.header]
  have hencoding : file'.header.encoding = file.header.encoding := by
    rw [hheader, hmatches.header]
    exact h.encoding_eq
  have hown : file.header.encoding = Stored.encoding image := by
    rw [hmatches.header]
    rfl
  -- the header differs in its labels only, and everything else is shared
  have hshares := h.sharesParts hloadable hmatches hbehind
  refine ⟨?_, fun label hlabel hagree => ?_, hencoding, ?_, ?_, fun s => ?_⟩
  · rw [hshares.ofBytes_eq hpos hlt hload, ← hheader]
  · rw [hown] at hlabel
    rw [hheader, hmatches.header]
    exact Stored.label_eq h.encoding_eq hlabel hagree
  · rw [hown]
    exact decide_eq_true_iff
  · rw [hown]
    unfold Stored.encoding Encoding.ofBytes ByteOrder.ofData
    exact ite_eq_left_iff.trans (by simp [Abi.littleEndian])
  · unfold ElfFile.symbols
    rw [hencoding]

/-- A big-endian 64-bit plan with a segment and a table of one symbol. -/
def Load.steeredPlan : ImagePlan :=
  { elfClass := 2, data := 2, segments := [{ type := 1, memsz := 4096 }]
    sections := [
      { name := ".symtab", type := Abi.sectionSymtab, link := 2
        data := [0, 0, 0, 1, 0x12, 3, 0, 9] ++ List.replicate 7 0 ++ [5] ++ List.replicate 8 0 },
      { name := ".strtab", type := Abi.sectionStrtab, data := [0, 97, 0] }] }

/-- Its image with unknown class and data bytes, and with all bits of the other labels and of the
    padding inverted. -/
def Load.steeredImage : Bytes :=
  let bytes := steeredPlan.bytes.zipIdx.map fun (b, p) =>
    if Stored.Steers steeredPlan.encoding p then b
    else if p = 4 then 7 else if p = 5 then 9 else ~~~b
  bytes.toArray

/-- Class and data bytes become unknown ones, and all other labels and the padding are inverted. -/
theorem Load.labels_irrelevant_steeredPlan :
    1 ≤ (3 : Int) ∧ (3 : Int) < wordLimit ∧
      Load.ofBytes steeredPlan.bytes.toArray 3 = .ok steeredPlan.file ∧
      steeredPlan.file.BehindHeader ∧
      Stored.Relabelled steeredPlan.bytes.toArray steeredImage ∧
      ∃ file, Load.ofBytes steeredImage 3 = .ok file ∧
        file.header.elfClass = 7 ∧ file.header.data = 9 ∧ file.header.phentsize = 65535 - 56 ∧
        file.segments = steeredPlan.file.segments ∧ file.sections = steeredPlan.file.sections ∧
        file.sections.map file.symbols =
          steeredPlan.file.sections.map steeredPlan.file.symbols := by
  have hpos : 1 ≤ (3 : Int) := by decide
  have hlt : (3 : Int) < wordLimit := by decide
  have hload : Load.ofBytes steeredPlan.bytes.toArray 3 = .ok steeredPlan.file :=
    (Load.ofBytes_eq hpos hlt).trans (by decide +kernel)
  have hbehind : steeredPlan.file.BehindHeader := by
    constructor <;> decide +kernel
  have hencoding : Stored.encoding steeredPlan.bytes.toArray = steeredPlan.encoding := rfl
  -- the bytes that steer are left alone, and the two tests on class and data come out as before
  have hlabels : Stored.Relabelled steeredPlan.bytes.toArray steeredImage :=
    { size_eq := by simp [steeredImage]
      narrow_iff := by decide +kernel
      little_iff := by decide +kernel
      steering := fun p hp => by
        rw [hencoding] at hp
        simp [steeredImage, Function.comp_def, hp] }
  obtain ⟨hsame, -, -, -, -, hsymbols⟩ := Load.labels_irrelevant hpos hlt hload hbehind hlabels
  refine ⟨hpos, hlt, hload, hbehind, hlabels, _, hsame, ?_, ?_, ?_, rfl, rfl, ?_⟩
  · decide +kernel
  · decide +kernel
  · decide +kernel
  · exact List.map_congr_left fun s _ => hsymbols s

end ElfInspect
