import ElfInspect.Proofs.Extents
import ElfInspect.Proofs.Load.Outcome
import Mathlib.Control.Monad.Basic

namespace ElfInspect

/-!
# What a load depends on

The file header says where the tables are, and the section headers say where the contents are.
These parts are all that a load depends on: bytes outside of them make no difference, and neither
does the place at which the image ends.

* `Stored.SharesParts content content'` — the second content has a file header of its own that
  refers to the same places, and has the parts of the first there;
* `SharesParts.ofBytes_eq` — then it is loaded to the same segments and sections;
* `ElfFile.Covers` — the positions of the parts of an image, as the file that it is loaded to gives
  them;
* `Load.uncovered_irrelevant` — what agrees with an image there is loaded to the same file.
-/

variable {content content' : Bytes}

namespace Stored

/-- Behind a file header of its own, which is complete and refers to the same places, the second
    content has the tables of the first, and the contents of its sections. -/
structure SharesParts (content content' : Bytes) : Prop where
  headed : Headed content'
  encoding_eq : encoding content' = encoding content
  phoff_eq : (fileHeader content').phoff = (fileHeader content).phoff
  phnum_eq : (fileHeader content').phnum = (fileHeader content).phnum
  shoff_eq : (fileHeader content').shoff = (fileHeader content).shoff
  shnum_eq : (fileHeader content').shnum = (fileHeader content).shnum
  shstrndx_eq : (fileHeader content').shstrndx = (fileHeader content).shstrndx
  segments : Agree content content'
    ⟨(fileHeader content).phoff, (fileHeader content).phnum * segmentSize (encoding content)⟩
  headers : Agree content content'
    ⟨(fileHeader content).shoff, (fileHeader content).shnum * sectionSize (encoding content)⟩
  contents : ∀ i < (fileHeader content).shnum, (headerAt content i).type ≠ Abi.sectionNobits →
    Agree content content' ⟨(headerAt content i).offset, (headerAt content i).size⟩

namespace SharesParts

variable {i : Nat}

/-! ### The parts -/

/-- They have the same program headers. -/
theorem segmentAt (h : SharesParts content content') (hi : i < (fileHeader content).phnum) :
    segmentAt content' i = segmentAt content i := by
  unfold Stored.segmentAt
  rw [h.encoding_eq, h.phoff_eq]
  exact (h.segments.item hi).programHeader

/-- They have the same section headers. -/
theorem headerAt (h : SharesParts content content') (hi : i < (fileHeader content).shnum) :
    headerAt content' i = headerAt content i := by
  unfold Stored.headerAt
  rw [h.encoding_eq, h.shoff_eq]
  exact (h.headers.item hi).sectionHeader

/-- They have the same section contents. -/
theorem dataAt (h : SharesParts content content') (hi : i < (fileHeader content).shnum) :
    dataAt content' i = dataAt content i := by
  unfold Stored.dataAt
  rw [h.headerAt hi]
  exact Agree.bytesOf (h.contents i hi)

/-- They have the same segments. -/
theorem segmentsOf (h : SharesParts content content') :
    segmentsOf content' = segmentsOf content := by
  unfold Stored.segmentsOf
  rw [h.phnum_eq]
  refine List.map_congr_left fun i hi => ?_
  exact h.segmentAt (List.mem_range.mp hi)

/-- The name table, if there is one. -/
theorem nameTable (h : SharesParts content content')
    (hinside : (fileHeader content).shstrndx < (fileHeader content).shnum) :
    nameTable content' = nameTable content := by
  unfold Stored.nameTable
  rw [h.shstrndx_eq]
  exact h.dataAt hinside

/-! ### Loads -/

/-- A content that the one has, the other has as well. -/
theorem contentSpans (h : SharesParts content content') (hi : i < (fileHeader content).shnum)
    (hspans : ContentSpans content (Stored.headerAt content i)) :
    ContentSpans content' (Stored.headerAt content' i) := by
  rw [h.headerAt hi]
  intro htype
  have hagree := h.contents i hi htype
  rw [← Nat.mul_one (Stored.headerAt content i).size] at hagree
  exact hagree.spans Nat.one_pos (hspans htype)

/-- What passes all phases does so with any file header that refers to the same places. -/
theorem loadable (h : SharesParts content content') (hload : Loadable content) :
    Loadable content' where
  toHeaded := h.headed
  segments_span := by
    rw [h.encoding_eq, h.phoff_eq, h.phnum_eq]
    have hpos := programHeader_size_pos (encoding content)
    rw [size_programHeader] at hpos
    exact h.segments.spans hpos hload.segments_span
  sections_span := by
    rw [h.encoding_eq, h.shoff_eq, h.shnum_eq]
    have hpos := sectionHeader_size_pos (encoding content)
    rw [size_sectionHeader] at hpos
    exact h.headers.spans hpos hload.sections_span
  contents_span := by
    intro i hi
    rw [h.shnum_eq] at hi
    exact h.contentSpans hi (hload.contents_span i hi)
  names_resolve := by
    rw [h.shnum_eq, h.shstrndx_eq]
    rcases hload.names_resolve with hzero | ⟨hinside, hnames⟩
    · exact .inl hzero
    · refine .inr ⟨hinside, fun i hi => ?_⟩
      rw [h.nameTable hinside, h.headerAt hi]
      exact hnames i hi

/-- But for the file header, the second content holds the same file. -/
theorem matches_withHeader (h : SharesParts content content') (hload : Loadable content)
    {file : ElfFile} (hmatches : Matches content file) :
    Matches content' { file with header := fileHeader content' } where
  header := rfl
  segments := hmatches.segments.trans h.segmentsOf.symm
  sections_length := hmatches.sections_length.trans h.shnum_eq.symm
  section_at := by
    intro i s hs
    obtain ⟨hheader, hdata, hname⟩ := hmatches.section_at i s hs
    have hi : i < (fileHeader content).shnum := by
      rw [← hmatches.sections_length]
      exact (List.getElem?_eq_some_iff.mp hs).1
    -- a file with a section has a name table among its sections
    have hinside : (fileHeader content).shstrndx < (fileHeader content).shnum := by
      rcases hload.names_resolve with hzero | ⟨hinside, -⟩
      · omega
      · exact hinside
    rw [h.headerAt hi, h.dataAt hi, h.nameTable hinside]
    exact ⟨hheader, hdata, hname⟩

/-- **Shared parts.**  A content with the parts of an image is loaded like the image, but with its
    own file header. -/
theorem ofBytes_eq (h : SharesParts content content') {chunk : Int} (hpos : 1 ≤ chunk)
    (hlt : chunk < wordLimit) {file : ElfFile} (hload : Load.ofBytes content chunk = .ok file) :
    Load.ofBytes content' chunk = .ok { file with header := fileHeader content' } := by
  rw [Load.ofBytes_eq hpos hlt] at hload ⊢
  obtain ⟨hloadable, hmatches⟩ := load_eq_ok_iff.mp hload
  exact load_eq_ok_iff.mpr ⟨h.loadable hloadable, h.matches_withHeader hloadable hmatches⟩

end SharesParts

/-! ### The file header -/

/-- The fields of the file header fill it up. -/
theorem headerSize_eq (e : Encoding) : headerSize e = 40 + 3 * e.addressWidth := by
  rcases e with ⟨_ | _, order⟩ <;> rfl

/-- The identification bytes that name the encoding. -/
theorem encoding_congr (hclass : content'.getD 4 0 = content.getD 4 0)
    (hdata : content'.getD 5 0 = content.getD 5 0) : encoding content' = encoding content := by
  unfold encoding
  rw [hclass, hdata]

/-- The file header depends on the identification bytes up to the ABI version, and on the bytes
    behind the identification. -/
theorem fileHeader_congr (hident : Agree content content' ⟨0, 9⟩)
    (hfields : Agree content content'
      ⟨Abi.identSize, headerSize (encoding content) - Abi.identSize⟩) :
    fileHeader content' = fileHeader content := by
  have hbyte (p : Nat) (hp : p < 9) : content'.getD p 0 = content.getD p 0 :=
    hident.getD (Extent.mem_iff.mpr ⟨Nat.zero_le p, by omega⟩)
  -- all other fields lie behind the identification and within the header
  have hfield (offset width : Nat) (hlow : 16 ≤ offset)
      (hhigh : offset + width ≤ 40 + 3 * (encoding content).addressWidth) :
      uint content' (encoding content).order offset width =
        uint content (encoding content).order offset width := by
    have hsize := headerSize_eq (encoding content)
    have hsmall : Abi.identSize = 16 := rfl
    refine (hfields.mono hlow ?_).uint _
    show offset + width ≤ Abi.identSize + (headerSize (encoding content) - Abi.identSize)
    omega
  simp (disch := omega) only [fileHeader, encoding_congr (hbyte 4 (by omega)) (hbyte 5 (by omega)),
    hbyte, hfield]

/-- Bytes that agree with those of an accepted file header make up the same file header. -/
theorem headed_of_agree (h : Headed content) (hident : Agree content content' ⟨0, 9⟩)
    (hfields : Agree content content'
      ⟨Abi.identSize, headerSize (encoding content) - Abi.identSize⟩) : Headed content' := by
  have hsize := headerSize_eq (encoding content)
  have hsmall : Abi.identSize = 16 := rfl
  -- the last byte of the header is used, so that the other content reaches as far
  have hcomplete : Abi.identSize + (headerSize (encoding content) - Abi.identSize) ≤
      content'.size := by
    have hle := h.header_le
    refine hfields.add_le_size ?_ ?_
    · show 0 < headerSize (encoding content) - Abi.identSize
      omega
    · show Abi.identSize + (headerSize (encoding content) - Abi.identSize) ≤ content.size
      omega
  have hbyte (p : Nat) (hp : p < 9) : content'.getD p 0 = content.getD p 0 :=
    hident.getD (Extent.mem_iff.mpr ⟨Nat.zero_le p, by omega⟩)
  have hmagic : content'.toList.take Abi.classIndex = content.toList.take Abi.classIndex := by
    have hfirst : Agree content content' ⟨0, Abi.classIndex⟩ :=
      hident.mono (Nat.le_refl 0) (by decide)
    exact hfirst.take_drop
  refine { ident_le := by omega, magic := hmagic.trans h.magic, version := ?_, header_le := ?_ }
  · rw [hbyte Abi.versionIndex (by decide)]
    exact h.version
  · rw [encoding_congr (hbyte 4 (by omega)) (hbyte 5 (by omega))]
    omega

end Stored

/-! ### The positions of the parts -/

/-- The position lies in one of the parts of the image of a file: in the identification bytes up to
    the ABI version, in the rest of the file header, in one of the tables, or in the content of a
    section that occupies space in the file. -/
inductive ElfFile.Covers (file : ElfFile) (p : Nat) : Prop
  | ident (h : p ∈ (⟨0, 9⟩ : Extent))
  | header (h : p ∈ (⟨16, Stored.headerSize file.header.encoding - 16⟩ : Extent))
  | segments (h : p ∈ (⟨file.header.phoff,
      file.header.phnum * Stored.segmentSize file.header.encoding⟩ : Extent))
  | sections (h : p ∈ (⟨file.header.shoff,
      file.header.shnum * Stored.sectionSize file.header.encoding⟩ : Extent))
  | content {s : Section} (hs : s ∈ file.sections) (htype : s.header.type ≠ Abi.sectionNobits)
      (h : p ∈ (⟨s.header.offset, s.header.size⟩ : Extent))

instance (file : ElfFile) (p : Nat) : Decidable (file.Covers p) :=
  decidable_of_iff (_ ∨ _ ∨ _ ∨ _ ∨ ∃ s ∈ file.sections, s.header.type ≠ Abi.sectionNobits ∧
      p ∈ (⟨s.header.offset, s.header.size⟩ : Extent))
    ⟨fun
      | .inl h => .ident h
      | .inr (.inl h) => .header h
      | .inr (.inr (.inl h)) => .segments h
      | .inr (.inr (.inr (.inl h))) => .sections h
      | .inr (.inr (.inr (.inr ⟨_, hs, htype, h⟩))) => .content hs htype h,
    fun
      | .ident h => .inl h
      | .header h => .inr (.inl h)
      | .segments h => .inr (.inr (.inl h))
      | .sections h => .inr (.inr (.inr (.inl h)))
      | .content hs htype h => .inr (.inr (.inr (.inr ⟨_, hs, htype, h⟩)))⟩

namespace Stored

variable {file : ElfFile}

/-- A section of the file has the header with its index. -/
theorem Matches.exists_headerAt (hmatches : Matches content file) {s : Section}
    (hs : s ∈ file.sections) :
    ∃ i < (fileHeader content).shnum, s.header = headerAt content i := by
  obtain ⟨i, hi, rfl⟩ := List.getElem_of_mem hs
  obtain ⟨hheader, -⟩ := hmatches.section_at i _ (List.getElem?_eq_getElem hi)
  exact ⟨i, hmatches.sections_length ▸ hi, hheader⟩

/-- The parts of an image lie within it. -/
theorem lt_size_of_covers (hload : Loadable content) (hmatches : Matches content file) {p : Nat}
    (hp : file.Covers p) : p < content.size := by
  have hsize := headerSize_eq (encoding content)
  have hheader := hload.header_le
  have hencoding : file.header.encoding = encoding content :=
    congrArg FileHeader.encoding hmatches.header
  -- each part that is used lies within the content, or else the load would have failed
  cases hp with
  | ident h =>
    have hhigh : p < 0 + 9 := h.2
    omega
  | header h =>
    rw [hencoding] at h
    have hhigh : p < 16 + (headerSize (encoding content) - 16) := h.2
    omega
  | segments h =>
    rw [hencoding, hmatches.header] at h
    exact hload.segments_span.lt_size h
  | sections h =>
    rw [hencoding, hmatches.header] at h
    exact hload.sections_span.lt_size h
  | @content s hs htype h =>
    obtain ⟨i, hi, hheaderAt⟩ := hmatches.exists_headerAt hs
    have hspans := hload.contents_span i hi (hheaderAt ▸ htype)
    rw [← hheaderAt] at hspans
    rw [← Nat.mul_one s.header.size] at h
    exact hspans.lt_size h

/-- What agrees with an image in all its parts has the same file header, and shares the parts. -/
theorem sharesParts_of_covered (hload : Loadable content) (hmatches : Matches content file)
    (hcovered : ∀ p, file.Covers p → content'[p]? = content[p]?) :
    SharesParts content content' ∧ fileHeader content' = fileHeader content := by
  rcases file with ⟨header, segments, sections⟩
  obtain rfl : header = fileHeader content := hmatches.header
  have hident : Agree content content' ⟨0, 9⟩ := fun p hp => hcovered p (.ident hp)
  have hfields : Agree content content' ⟨16, headerSize (encoding content) - 16⟩ :=
    fun p hp => hcovered p (.header hp)
  have hheader := fileHeader_congr hident hfields
  refine ⟨{ headed := headed_of_agree hload.toHeaded hident hfields
            encoding_eq := congrArg FileHeader.encoding hheader
            phoff_eq := congrArg FileHeader.phoff hheader
            phnum_eq := congrArg FileHeader.phnum hheader
            shoff_eq := congrArg FileHeader.shoff hheader
            shnum_eq := congrArg FileHeader.shnum hheader
            shstrndx_eq := congrArg FileHeader.shstrndx hheader
            segments := fun p hp => hcovered p (.segments hp)
            headers := fun p hp => hcovered p (.sections hp)
            contents := fun i hi htype p hp => ?_ }, hheader⟩
  -- the section with the index is one of the file, with this header
  have hi' : i < sections.length := Nat.lt_of_lt_of_eq hi hmatches.sections_length.symm
  obtain ⟨hheaderAt, -⟩ := hmatches.section_at i sections[i] (List.getElem?_eq_getElem hi')
  rw [← hheaderAt] at htype hp
  exact hcovered p (.content (List.getElem_mem hi') htype hp)

end Stored

/-! ### Loads -/

/-- An image that has the same bytes in all parts of another one is loaded to the same file. -/
theorem Load.ofBytes_of_covered {image image' : Bytes} {chunk : Int} (hpos : 1 ≤ chunk)
    (hlt : chunk < wordLimit) {file : ElfFile} (hload : Load.ofBytes image chunk = .ok file)
    (hcovered : ∀ p, file.Covers p → image'[p]? = image[p]?) :
    Load.ofBytes image' chunk = .ok file := by
  have hstored := hload
  rw [Load.ofBytes_eq hpos hlt] at hstored
  obtain ⟨hloadable, hmatches⟩ := Stored.load_eq_ok_iff.mp hstored
  obtain ⟨hshares, hheader⟩ := Stored.sharesParts_of_covered hloadable hmatches hcovered
  rw [hshares.ofBytes_eq hpos hlt hload, hheader, ← hmatches.header]

/-- **Non-interference.**  The parts of an image that is loaded lie within it.  Whatever agrees with
    it there, in particular the image with any other bytes changed, and the image with more bytes
    behind it, is loaded to the same file, with the same symbols in every section. -/
theorem Load.uncovered_irrelevant {image : Bytes} {chunk : Int} (hpos : 1 ≤ chunk)
    (hlt : chunk < wordLimit) {file : ElfFile} (hload : Load.ofBytes image chunk = .ok file) :
    (∀ p, file.Covers p → p < image.size) ∧
      (∀ image' : Bytes, (∀ p, file.Covers p → image'[p]? = image[p]?) →
        Load.ofBytes image' chunk = .ok file ∧
          ∀ file', Load.ofBytes image' chunk = .ok file' → ∀ s, file'.symbols s = file.symbols s) ∧
      (∀ p b, ¬ file.Covers p → Load.ofBytes (image.setIfInBounds p b) chunk = .ok file) ∧
      ∀ more, Load.ofBytes (image ++ more) chunk = .ok file := by
  have hstored := hload
  rw [Load.ofBytes_eq hpos hlt] at hstored
  obtain ⟨hloadable, hmatches⟩ := Stored.load_eq_ok_iff.mp hstored
  have hwithin (p : Nat) (hp : file.Covers p) : p < image.size :=
    Stored.lt_size_of_covers hloadable hmatches hp
  refine ⟨hwithin, fun image' hcovered => ?_, fun p b hp => ?_, fun more => ?_⟩
  · have hsame := Load.ofBytes_of_covered hpos hlt hload hcovered
    refine ⟨hsame, fun file' hfile' s => ?_⟩
    rw [Except.ok.inj (hfile'.symm.trans hsame)]
  · refine Load.ofBytes_of_covered hpos hlt hload fun q hq => ?_
    -- the byte that is changed is not among those that are used
    have hne : p ≠ q := fun heq => hp (heq ▸ hq)
    exact Array.getElem?_setIfInBounds_ne hne
  · refine Load.ofBytes_of_covered hpos hlt hload fun q hq => ?_
    exact Array.getElem?_append_left (hwithin q hq)

/-- A big-endian 32-bit plan with a segment, a section whose name is not all ASCII, and a section
    without space in the file whose extent reaches beyond the image. -/
def Load.spacedPlan : ImagePlan :=
  { elfClass := 1, data := 2, segments := [{ type := 1, memsz := 4096 }]
    sections := [{ name := "é", type := Abi.sectionProgbits, data := [1, 2, 3] },
      { name := ".bss", type := Abi.sectionNobits, spaceless := 4096 }] }

/-- Its image, with all bits of the bytes inverted that lie in no part, and with a byte more. -/
def Load.invertedImage : Bytes :=
  (spacedPlan.bytes.toArray.mapIdx fun p b => if spacedPlan.file.Covers p then b else ~~~b).push 7

/-- All bytes that are not used are inverted, and one more is added behind the end. -/
theorem Load.uncovered_irrelevant_spacedPlan :
    1 ≤ (3 : Int) ∧ (3 : Int) < wordLimit ∧
      Load.ofBytes spacedPlan.bytes.toArray 3 = .ok spacedPlan.file ∧
      (∀ p, spacedPlan.file.Covers p → invertedImage[p]? = spacedPlan.bytes.toArray[p]?) ∧
      invertedImage[12]? ≠ spacedPlan.bytes.toArray[12]? ∧
      Load.ofBytes invertedImage 3 = .ok spacedPlan.file := by
  have hpos : 1 ≤ (3 : Int) := by decide
  have hlt : (3 : Int) < wordLimit := by decide
  have hload : Load.ofBytes spacedPlan.bytes.toArray 3 = .ok spacedPlan.file :=
    (Load.ofBytes_eq hpos hlt).trans (by decide +kernel)
  obtain ⟨hwithin, hsame, -⟩ := Load.uncovered_irrelevant hpos hlt hload
  have hcovered (p : Nat) (hp : spacedPlan.file.Covers p) :
      invertedImage[p]? = spacedPlan.bytes.toArray[p]? := by
    have hsize := hwithin p hp
    rw [invertedImage, Array.getElem?_push_lt (by simpa using hsize)]
    simp [hp]
  exact ⟨hpos, hlt, hload, hcovered, by decide +kernel, (hsame _ hcovered).1⟩

end ElfInspect
