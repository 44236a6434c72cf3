import ElfInspect.Proofs.ImagePlan
import ElfInspect.Proofs.Load.Outcome

namespace ElfInspect

/-!
# Images are loaded to what they were built from

Loading undoes the building of an image, whatever the address width and the byte order.

* `ImagePlan.WellFormed` — all fields of the image fit their widths, a buffer in memory can
  represent its offsets, and no name has a NUL;
* `ImagePlan.Describes` — what a plan says of a file, section by section;
* `ImagePlan.loadable_bytes`, `ImagePlan.matches_file` — the image of such a plan passes all phases,
  and holds the file of the plan;
* `ImagePlan.recoded` — a plan with other class and data bytes;
* `ImagePlan.load_bytes` — the round trip, and its independence of the encoding.
-/

namespace ImagePlan

/-- An image can be built from the plan without cutting off a number: there are not too many
    headers, every field fits its width, names have no NUL, and a buffer in memory can represent
    the last offset, that of the section headers. -/
structure WellFormed (p : ImagePlan) : Prop where
  type_lt : p.type < 256 ^ 2
  entry_lt : p.entry < 256 ^ p.encoding.addressWidth
  segments_lt : p.segments.length < 65536
  sections_le : p.sections.length + 2 ≤ 65535
  segments_fit : ∀ s ∈ p.segments, (ProgramHeader.layout p.encoding).Fits s
  sections_fit : ∀ s ∈ p.sections, (SectionHeader.layout p.encoding).Fits (s.header 0 0)
  names_nulFree : ∀ s ∈ p.sections, '\x00' ∉ s.name.toList
  nameOffsets_lt : ∀ offset ∈ nameOffsets 1 p.names, offset < 256 ^ 4
  offset_fits : p.sectionTableOffset < 256 ^ p.encoding.addressWidth
  offset_lt : p.sectionTableOffset < wordLimit

variable {p : ImagePlan} {i : Nat} {s : SectionPlan}

/-! ### Identification and file header -/

/-- The identification names the encoding of the plan. -/
theorem encoding_bytes (p : ImagePlan) : Stored.encoding p.bytes.toArray = p.encoding := rfl

/-- The section table ends the image. -/
theorem size_bytes (p : ImagePlan) :
    p.bytes.toArray.size = p.sectionTableOffset +
      (p.sections.length + 2) * SectionHeader.recordSize p.encoding := by
  rw [List.size_toArray, length_bytes, length_sectionTable]

/-- Header and segment table come before the section table. -/
theorem totalSize_le (p : ImagePlan) :
    FileHeader.totalSize p.encoding + p.segments.length * ProgramHeader.size p.encoding ≤
      p.sectionTableOffset := by
  rw [← nameTableOffset_add, contentStart]
  exact Nat.le_add_right _ _

/-- There is an identification. -/
theorem identSize_le_size (p : ImagePlan) : Abi.identSize ≤ p.bytes.toArray.size := by
  have hheader : Abi.identSize ≤ FileHeader.totalSize p.encoding := Nat.le_add_right _ _
  have hle := p.totalSize_le
  rw [size_bytes]
  omega

/-- The sizes of headers are small numbers. -/
theorem headerSizes_le (e : Encoding) :
    FileHeader.totalSize e ≤ 64 ∧ ProgramHeader.size e ≤ 56 ∧ SectionHeader.recordSize e ≤ 64 := by
  rcases e with ⟨_ | _, order⟩ <;> simp

/-- The file header can be written. -/
theorem fits_fileHeader (hp : p.WellFormed) : (FileHeader.layout p.encoding).Fits p.fileHeader := by
  obtain ⟨hheader, hsegment, hsection⟩ := headerSizes_le p.encoding
  have hcounts := hp.sections_le
  have hmachine : p.machine < 256 ^ 2 := by
    unfold machine
    split <;> decide
  -- the segment table follows the header directly, so that its offset is small
  have hphoff : p.fileHeader.phoff < 256 ^ p.encoding.addressWidth := by
    refine p.encoding.lt_pow_addressWidth ?_
    show (if p.segments.isEmpty then 0 else FileHeader.totalSize p.encoding) < _
    split <;> omega
  have hversion : Abi.currentVersion < 256 ^ 4 := by decide
  have hflags : 0 < 256 ^ 4 := by decide
  simp only [Layout.Fits, FileHeader.layout, List.mem_cons, List.not_mem_nil, or_false,
    forall_eq_or_imp, forall_eq]
  refine ⟨hp.type_lt, hmachine, hversion, hp.entry_lt, hphoff, hp.offset_fits, hflags,
    ?_, ?_, hp.segments_lt, ?_, ?_, ?_⟩
  · exact Nat.lt_of_le_of_lt hheader (by decide)
  · exact Nat.lt_of_le_of_lt hsegment (by decide)
  · exact Nat.lt_of_le_of_lt hsection (by decide)
  · exact Nat.lt_of_le_of_lt hcounts (by decide)
  · exact Nat.lt_of_le_of_lt (Nat.le_of_succ_le hcounts) (by decide)

/-- The file header is the planned one. -/
theorem fileHeader_bytes (hp : p.WellFormed) :
    Stored.fileHeader p.bytes.toArray = p.fileHeader := by
  rw [← Stored.decode_fileHeader p.identSize_le_size, encoding_bytes,
    Stored.ofIdent_extract p.identSize_le_size, p.carries_header.decode (fits_fileHeader hp)]
  -- the fields that the layout does not have stand in the identification bytes
  rfl

/-! ### Tables -/

/-- The segment table stands behind the file header, if there is one. -/
theorem phoff_of_ne_nil (h : p.segments ≠ []) :
    p.fileHeader.phoff = FileHeader.totalSize p.encoding := by
  show (if p.segments.isEmpty then 0 else FileHeader.totalSize p.encoding) = _
  rw [List.isEmpty_eq_false_iff.mpr h]
  rfl

/-- Each segment is the planned one. -/
theorem segmentAt_bytes (hp : p.WellFormed) {segment : ProgramHeader}
    (h : p.segments[i]? = some segment) : Stored.segmentAt p.bytes.toArray i = segment := by
  have hmem := List.mem_of_getElem? h
  have hphoff := phoff_of_ne_nil (List.ne_nil_of_mem hmem)
  have hfits := hp.segments_fit segment hmem
  rw [Stored.segmentAt, encoding_bytes, fileHeader_bytes hp, hphoff, ← Stored.size_programHeader,
    ← Stored.decode_programHeader, (p.carries_segments.record h).decode hfits,
    ProgramHeader.transfer_layout]

/-- A section header fits if the fields that the plan gives do, and the offsets. -/
theorem fits_header {e : Encoding} (hfits : (SectionHeader.layout e).Fits (s.header 0 0))
    {name offset : Nat} (hname : name < 256 ^ 4) (hoffset : offset < 256 ^ e.addressWidth) :
    (SectionHeader.layout e).Fits (s.header name offset) := by
  obtain ⟨-, htype, hflags, haddr, -, hrest⟩ := SectionHeader.fits_iff.mp hfits
  exact SectionHeader.fits_iff.mpr ⟨hname, htype, hflags, haddr, hoffset, hrest⟩

/-- The header of the name table can be written. -/
theorem fits_nameSection (hp : p.WellFormed) :
    (SectionHeader.layout p.encoding).Fits (p.nameSection.header 0 0) := by
  have hsize : p.nameTable.length < 256 ^ p.encoding.addressWidth :=
    Nat.lt_of_le_of_lt (Nat.le_add_left _ _) hp.offset_fits
  have htype : Abi.sectionStrtab < 256 ^ 4 := by decide
  have hzero : 0 < 256 ^ 4 := by decide
  have hzero' : 0 < 256 ^ p.encoding.addressWidth := p.encoding.lt_pow_addressWidth hzero
  have hone : 1 < 256 ^ p.encoding.addressWidth := p.encoding.lt_pow_addressWidth (by decide)
  exact SectionHeader.fits_iff.mpr
    ⟨hzero, htype, hzero', hzero', hzero', hsize, hzero, hzero, hone, hzero'⟩

/-- So can those of all other sections. -/
theorem fits_allSections (hp : p.WellFormed) (h : p.allSections[i]? = some s) :
    (SectionHeader.layout p.encoding).Fits (s.header (p.nameOffset i) (p.contentOffset i)) := by
  have hi : i < p.sections.length + 1 := by
    rw [← length_allSections]
    exact (List.getElem?_eq_some_iff.mp h).1
  have hname := hp.nameOffsets_lt _ (List.mem_of_getElem? (getElem?_nameOffsets hi))
  have hoffset : p.contentOffset i < 256 ^ p.encoding.addressWidth :=
    Nat.lt_of_le_of_lt (Nat.le_of_add_right_le (contentOffset_add_le h)) hp.offset_fits
  rcases mem_allSections (List.mem_of_getElem? h) with hmem | rfl
  · exact fits_header (hp.sections_fit s hmem) hname hoffset
  · exact fits_header (fits_nameSection hp) hname hoffset

/-- Each section header that can be written is the planned one. -/
theorem headerAt_bytes (hp : p.WellFormed) {header : SectionHeader}
    (h : p.sectionHeaders[i]? = some header)
    (hfits : (SectionHeader.layout p.encoding).Fits header) :
    Stored.headerAt p.bytes.toArray i = header := by
  have hshoff : p.fileHeader.shoff = p.sectionTableOffset := rfl
  rw [Stored.headerAt, encoding_bytes, fileHeader_bytes hp, hshoff, ← Stored.size_sectionHeader,
    ← Stored.decode_sectionHeader, (p.carries_sectionTable.record h).decode hfits,
    SectionHeader.transfer_layout]

/-- The first section header is the null header. -/
theorem headerAt_zero (hp : p.WellFormed) : Stored.headerAt p.bytes.toArray 0 = {} := by
  have hzero : 0 < 256 ^ 4 := by decide
  have hzero' : 0 < 256 ^ p.encoding.addressWidth := p.encoding.lt_pow_addressWidth hzero
  exact headerAt_bytes hp rfl (SectionHeader.fits_iff.mpr
    ⟨hzero, hzero, hzero', hzero', hzero', hzero', hzero, hzero, hzero', hzero'⟩)

/-- Section headers stand one place behind their sections, as the first one is empty. -/
theorem headerAt_succ (hp : p.WellFormed) (h : p.allSections[i]? = some s) :
    Stored.headerAt p.bytes.toArray (i + 1) = s.header (p.nameOffset i) (p.contentOffset i) :=
  headerAt_bytes hp (header_of_getElem? h) (fits_allSections hp h)

/-! ### Contents and names -/

/-- The bytes of a section are its planned content. -/
theorem bytesOf_header (h : p.allSections[i]? = some s) (name : Nat) :
    Stored.bytesOf p.bytes.toArray (s.header name (p.contentOffset i)) = s.content.toArray := by
  show (if s.type = Abi.sectionNobits then #[] else p.bytes.toArray.extract (p.contentOffset i)
    (p.contentOffset i + s.declaredSize)) = s.content.toArray
  by_cases htype : s.type = Abi.sectionNobits
  · rw [if_pos htype, SectionPlan.content_of_nobits htype]
  · -- here the declared size is that of the content
    rw [if_neg htype, SectionPlan.declaredSize_eq htype]
    exact (carries_content h).extract

/-- The first section is empty. -/
theorem dataAt_zero (hp : p.WellFormed) : Stored.dataAt p.bytes.toArray 0 = #[] := by
  have hempty : p.bytes.toArray.extract 0 (0 + 0) = #[] := Array.extract_zero
  rw [Stored.dataAt, headerAt_zero hp, Stored.bytesOf, if_neg (by decide)]
  exact hempty

/-- The content of every other section is the planned one. -/
theorem dataAt_succ (hp : p.WellFormed) (h : p.allSections[i]? = some s) :
    Stored.dataAt p.bytes.toArray (i + 1) = s.content.toArray := by
  rw [Stored.dataAt, headerAt_succ hp h, bytesOf_header h]

/-- The name table is the planned one. -/
theorem nameTable_bytes (hp : p.WellFormed) :
    Stored.nameTable p.bytes.toArray = p.nameTable.toArray := by
  rw [Stored.nameTable, fileHeader_bytes hp]
  exact dataAt_succ hp p.getElem?_allSections_last

/-- No section name has a NUL in it. -/
theorem nulFree_allSections (hp : p.WellFormed) (h : s ∈ p.allSections) :
    '\x00' ∉ s.name.toList := by
  rcases mem_allSections h with hmem | rfl
  · exact hp.names_nulFree s hmem
  · show '\x00' ∉ ".shstrtab".toList
    decide

/-- The name table begins with the empty name. -/
theorem bytesAt_zero (p : ImagePlan) :
    StringTable.bytesAt p.nameTable.toArray 0 = Utf8.encode "".toList :=
  rfl

/-- Each name is found where it was put. -/
theorem bytesAt_nameOffset (hp : p.WellFormed) (h : p.allSections[i]? = some s) :
    StringTable.bytesAt p.nameTable.toArray (p.nameOffset i) = Utf8.encode s.name.toList :=
  (carries_name h).bytesAt (nulFree_allSections hp (List.mem_of_getElem? h))

/-! ### The phases of the load -/

/-- The segment table lies within the image. -/
theorem segments_span (hp : p.WellFormed) :
    Stored.Spans p.bytes.toArray p.fileHeader.phoff p.segments.length
      (Stored.segmentSize p.encoding) := by
  have hlt := hp.offset_lt
  have hle := p.totalSize_le
  have hsize := p.size_bytes
  rw [← Stored.size_programHeader]
  -- a file without segments points to its beginning
  by_cases hnil : p.segments = []
  · have hphoff : p.fileHeader.phoff = 0 := by
      show (if p.segments.isEmpty then 0 else FileHeader.totalSize p.encoding) = 0
      rw [hnil]
      rfl
    rw [hphoff, hnil]
    exact ⟨by decide, .inl rfl⟩
  · rw [phoff_of_ne_nil hnil]
    rw [ProgramHeader.size] at hle
    exact ⟨by omega, .inr (by omega)⟩

/-- So does the section table. -/
theorem sections_span (hp : p.WellFormed) :
    Stored.Spans p.bytes.toArray p.sectionTableOffset (p.sections.length + 2)
      (Stored.sectionSize p.encoding) := by
  rw [← Stored.size_sectionHeader]
  exact ⟨hp.offset_lt, .inr (Nat.le_of_eq p.size_bytes.symm)⟩

/-- So does each content. -/
theorem content_spans (hp : p.WellFormed) (h : p.allSections[i]? = some s) (name : Nat) :
    Stored.ContentSpans p.bytes.toArray (s.header name (p.contentOffset i)) := by
  intro htype
  have hle := contentOffset_add_le h
  have hlt := hp.offset_lt
  have hsize := p.size_bytes
  show Stored.Spans p.bytes.toArray (p.contentOffset i) s.declaredSize 1
  rw [SectionPlan.declaredSize_eq htype]
  exact ⟨by omega, .inr (by omega)⟩

/-- The image passes all phases. -/
theorem loadable_bytes (hp : p.WellFormed) : Stored.Loadable p.bytes.toArray := by
  have hheader := fileHeader_bytes hp
  have hheaderSize : Stored.headerSize p.encoding ≤ p.bytes.toArray.size := by
    have htotal : FileHeader.totalSize p.encoding = Stored.headerSize p.encoding :=
      Stored.size_fileHeader p.encoding
    have hle := p.totalSize_le
    have hsize := p.size_bytes
    omega
  refine ⟨⟨⟨⟨⟨⟨p.identSize_le_size, rfl, rfl⟩, hheaderSize⟩, ?_⟩, ?_⟩, fun i hi => ?_⟩, .inr ?_⟩
  · rw [hheader]
    exact segments_span hp
  · rw [hheader]
    exact sections_span hp
  · rw [hheader] at hi
    -- the null section is empty, and stands nowhere
    cases i with
    | zero =>
      rw [headerAt_zero hp]
      exact fun _ => ⟨by decide, .inl rfl⟩
    | succ i =>
      obtain ⟨s, hs⟩ := exists_section (Nat.lt_of_succ_lt_succ hi)
      rw [headerAt_succ hp hs]
      exact content_spans hp hs _
  · rw [hheader]
    refine ⟨Nat.lt_succ_self _, fun i hi => ?_⟩
    rw [nameTable_bytes hp]
    cases i with
    | zero =>
      rw [headerAt_zero hp]
      exact ⟨Nat.zero_lt_succ _, _, p.bytesAt_zero⟩
    | succ i =>
      obtain ⟨s, hs⟩ := exists_section (Nat.lt_of_succ_lt_succ hi)
      rw [headerAt_succ hp hs]
      exact ⟨nameOffset_lt hs, _, bytesAt_nameOffset hp hs⟩

/-- The image holds the file of the plan. -/
theorem matches_file (hp : p.WellFormed) : Stored.Matches p.bytes.toArray p.file := by
  have hheader := fileHeader_bytes hp
  refine ⟨hheader.symm, ?_, ?_, fun i t ht => ?_⟩
  · have hsegments : p.segments =
        (List.range p.segments.length).map (Stored.segmentAt p.bytes.toArray) := by
      refine List.ext_getElem (by simp) fun i hi _ => ?_
      rw [List.getElem_map, List.getElem_range,
        segmentAt_bytes hp (List.getElem?_eq_getElem hi)]
    rw [Stored.segmentsOf, hheader]
    exact hsegments
  · rw [hheader, length_file_sections]
    rfl
  · rw [nameTable_bytes hp]
    -- the first section is the empty one, and the others are those of the plan
    cases i with
    | zero =>
      have hnull : t = ⟨"", {}, #[]⟩ := (Option.some.inj ht).symm
      rw [hnull, headerAt_zero hp, dataAt_zero hp]
      exact ⟨rfl, rfl, p.bytesAt_zero.symm⟩
    | succ i =>
      have hi := (List.getElem?_eq_some_iff.mp ht).1
      rw [length_file_sections] at hi
      obtain ⟨s, hs⟩ := exists_section (Nat.lt_of_succ_lt_succ hi)
      rw [section_of_getElem? hs] at ht
      rw [← Option.some.inj ht, headerAt_succ hp hs, dataAt_succ hp hs]
      exact ⟨rfl, rfl, (bytesAt_nameOffset hp hs).symm⟩

/-- The image is loaded to the file of the plan. -/
theorem load_bytes_eq (hp : p.WellFormed) :
    Stored.load p.bytes.toArray .memory = .ok p.file :=
  Stored.load_eq_ok_iff.mpr ⟨loadable_bytes hp, matches_file hp⟩

/-! ### What a plan says of a file -/

/-- The file has the header and the segments of the plan, and the null section, the sections of the
    plan and the name table, each with its name, with the fields that the plan gives and the offsets
    of its name and content, and with its content. -/
structure Describes (p : ImagePlan) (file : ElfFile) : Prop where
  header : file.header = p.fileHeader
  segments : file.segments = p.segments
  names : file.sections.map Section.name =
    "" :: p.sections.map SectionPlan.name ++ [".shstrtab"]
  null : file.sections[0]? = some ⟨"", {}, #[]⟩
  given : ∀ i s, p.sections[i]? = some s → file.sections[i + 1]? =
    some ⟨s.name, s.header (p.nameOffset i) (p.contentOffset i), s.content.toArray⟩
  nameTable : file.sections[p.sections.length + 1]? =
    some ⟨".shstrtab", p.nameSection.header (p.nameOffset p.sections.length)
      (p.contentOffset p.sections.length), p.nameTable.toArray⟩

/-- The file has all that is planned. -/
theorem describes_file (p : ImagePlan) : p.Describes p.file where
  header := rfl
  segments := rfl
  names := p.map_name_sections
  null := rfl
  given _ _ h := section_of_getElem? (getElem?_allSections_of_sections h)
  nameTable := section_of_getElem? p.getElem?_allSections_last

/-! ### Other encodings -/

/-- The plan with other class and data bytes. -/
def recoded (p : ImagePlan) (elfClass data : UInt8) : ImagePlan :=
  { p with elfClass, data }

/-- Behind the header there are the segments and the contents, the names last. -/
theorem sectionTableOffset_eq (p : ImagePlan) :
    p.sectionTableOffset = FileHeader.totalSize p.encoding +
      p.segments.length * ProgramHeader.size p.encoding +
      (p.contents.length + p.nameTable.length) :=
  Nat.add_assoc _ _ _

/-- Numbers that fit a 32-bit image fit the image in every encoding. -/
theorem WellFormed.recoded {data : UInt8} (hp : (p.recoded 1 data).WellFormed)
    (elfClass' data' : UInt8) : (p.recoded elfClass' data').WellFormed := by
  have hentry : p.entry < 256 ^ 4 := hp.entry_lt
  have hsegments : p.segments.length < 65536 := hp.segments_lt
  have hnarrow : 52 + p.segments.length * 32 + (p.contents.length + p.nameTable.length) <
      256 ^ 4 := by
    have hfits := hp.offset_fits
    rw [sectionTableOffset_eq] at hfits
    exact hfits
  -- the last offset grows with the sizes of the headers before it, but stays far below the limit
  have hoffset (e : Encoding) :
      FileHeader.totalSize e + p.segments.length * ProgramHeader.size e +
          (p.contents.length + p.nameTable.length) < min (256 ^ e.addressWidth) wordLimit := by
    rcases e with ⟨_ | _, order⟩
    · have hlimit : min (256 ^ 8) wordLimit = 2 ^ 63 := by decide
      rw [FileHeader.totalSize_wide, ProgramHeader.size_wide]
      exact Nat.lt_of_lt_of_eq (by omega) hlimit.symm
    · have hlimit : min (256 ^ 4) wordLimit = 256 ^ 4 := by decide
      rw [FileHeader.totalSize_narrow, ProgramHeader.size_narrow]
      exact Nat.lt_of_lt_of_eq hnarrow hlimit.symm
  have hlast : (p.recoded elfClass' data').sectionTableOffset <
      min (256 ^ (p.recoded elfClass' data').encoding.addressWidth) wordLimit := by
    rw [sectionTableOffset_eq]
    exact hoffset _
  exact {
    type_lt := hp.type_lt
    entry_lt := Encoding.lt_pow_addressWidth _ hentry
    segments_lt := hsegments
    sections_le := hp.sections_le
    segments_fit := fun s hs => ProgramHeader.fits_of_narrow (hp.segments_fit s hs) _
    sections_fit := fun s hs => SectionHeader.fits_of_narrow (hp.sections_fit s hs) _
    names_nulFree := hp.names_nulFree
    nameOffsets_lt := hp.nameOffsets_lt
    offset_fits := (Nat.lt_min.mp hlast).1
    offset_lt := (Nat.lt_min.mp hlast).2 }

end ImagePlan

/-- A section without the place of its content in the file. -/
def Section.unplaced (s : Section) : Section :=
  { s with header := { s.header with offset := 0 } }

namespace ImagePlan

/-- In every encoding the sections differ by their places only. -/
theorem unplaced_recoded (p : ImagePlan) (elfClass data elfClass' data' : UInt8) :
    (p.recoded elfClass data).file.sections.map Section.unplaced =
      (p.recoded elfClass' data').file.sections.map Section.unplaced := by
  refine List.ext_getElem? fun i => ?_
  cases i with
  | zero => rfl
  | succ i =>
    rw [List.getElem?_map, List.getElem?_map]
    by_cases hi : i < p.sections.length + 1
    · -- the name of a section stands in the same place, and only its content moves
      obtain ⟨s, hs⟩ := exists_section (p := p) hi
      have hsection (c d : UInt8) : (p.recoded c d).file.sections[i + 1]?.map Section.unplaced =
          some ⟨s.name, s.header (p.nameOffset i) 0, s.content.toArray⟩ := by
        rw [section_of_getElem? (p := p.recoded c d) hs, Option.map_some]
        rfl
      rw [hsection, hsection]
    · have hnone (c d : UInt8) : (p.recoded c d).file.sections[i + 1]? = none := by
        rw [List.getElem?_eq_none_iff, length_file_sections]
        exact Nat.succ_le_succ (Nat.le_of_not_lt hi)
      rw [hnone, hnone]

/-- **Round trip.**  The image of a plan is loaded to the file that the plan describes.  If its
    numbers fit 32 bits, then its images in all encodings are loaded to the same segments and, but
    for the places of the contents, to the same sections. -/
theorem load_bytes (p : ImagePlan) {chunk : Int} (hpos : 1 ≤ chunk) (hlt : chunk < wordLimit) :
    (p.WellFormed →
        Load.ofBytes p.bytes.toArray chunk = .ok p.file ∧ p.Describes p.file) ∧
      ((p.recoded 1 p.data).WellFormed → ∀ elfClass data elfClass' data' : UInt8,
        ∃ file file' : ElfFile,
          Load.ofBytes (p.recoded elfClass data).bytes.toArray chunk = .ok file ∧
          Load.ofBytes (p.recoded elfClass' data').bytes.toArray chunk = .ok file' ∧
          file.segments = p.segments ∧ file'.segments = p.segments ∧
          file.sections.map Section.unplaced = file'.sections.map Section.unplaced) := by
  have hload {q : ImagePlan} (hq : q.WellFormed) :
      Load.ofBytes q.bytes.toArray chunk = .ok q.file :=
    (Load.ofBytes_eq hpos hlt).trans (load_bytes_eq hq)
  refine ⟨fun hp => ⟨hload hp, p.describes_file⟩, fun hp c d c' d' => ?_⟩
  exact ⟨_, _, hload (hp.recoded c d), hload (hp.recoded c' d'), rfl, rfl,
    p.unplaced_recoded c d c' d'⟩

/-- A big-endian 32-bit plan with a segment, a section without space in the file whose size takes
    all bits, a section without a name or content, and two sections of one name that is not all
    ASCII. -/
def samplePlan : ImagePlan :=
  { elfClass := 1, data := 2, osAbi := 255, abiVersion := 7
    segments := [{ type := 1, flags := 5, memsz := 256 ^ 4 - 1 }]
    sections := [{ name := "é", data := [1, 2, 3] },
      { name := ".bss", type := Abi.sectionNobits, spaceless := 256 ^ 4 - 1 },
      { name := "", flags := 256 ^ 4 - 1, link := 9 }, { name := "é", data := [0] }] }

/-- The plan is well formed, and read back from its own image and from that of another encoding. -/
theorem load_bytes_samplePlan :
    1 ≤ (3 : Int) ∧ (3 : Int) < wordLimit ∧ samplePlan.WellFormed ∧
      Load.ofBytes samplePlan.bytes.toArray 3 = .ok samplePlan.file ∧
      ∃ file, Load.ofBytes (samplePlan.recoded 2 1).bytes.toArray 3 = .ok file ∧
        file.segments = samplePlan.segments ∧
        file.sections.map Section.unplaced = samplePlan.file.sections.map Section.unplaced := by
  have hpos : 1 ≤ (3 : Int) := by decide
  have hlt : (3 : Int) < wordLimit := by decide
  have hplan : samplePlan.WellFormed := by
    constructor <;> decide +kernel
  obtain ⟨hown, hother⟩ := load_bytes samplePlan hpos hlt
  obtain ⟨hload, -⟩ := hown hplan
  obtain ⟨file, file', hfile, hfile', hsegments, -, hsections⟩ := hother hplan 2 1 1 2
  have hsame : file' = samplePlan.file := Except.ok.inj (hfile'.symm.trans hload)
  exact ⟨hpos, hlt, hplan, hload, file, hfile, hsegments, hsame ▸ hsections⟩

end ImagePlan

end ElfInspect
