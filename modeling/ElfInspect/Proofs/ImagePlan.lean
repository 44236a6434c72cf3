import ElfInspect.Image
import ElfInspect.Proofs.Placement

namespace ElfInspect

/-!
# Where the parts of an image stand

The headers of an image refer to its parts by offsets that are summed up along the plan.  Here each
offset is the length of what stands before the part, and the image carries the part there.

* `contentOffset p i`, `nameOffset p i` — where the content and the name of a section stand;
* `header_of_getElem?`, `section_of_getElem?` — the header of a section, and the section of the file
  that the image stands for, with these offsets;
* `carries_header`, `carries_segments`, `carries_contents`, `carries_sectionTable`, `carries_name` —
  the parts of an image in their places.
-/

namespace SectionPlan

variable {s : SectionPlan}

/-- A section that occupies no space in the file has no bytes there. -/
theorem content_of_nobits (h : s.type = Abi.sectionNobits) : s.content = [] := by
  rw [content, occupiesFile, decide_eq_false (not_not_intro h)]
  rfl

/-- A section that occupies space in the file declares the size of its content. -/
theorem declaredSize_eq (h : s.type ≠ Abi.sectionNobits) : s.declaredSize = s.content.length := by
  rw [declaredSize, content, occupiesFile, decide_eq_true h]
  rfl

end SectionPlan

namespace ImagePlan

open Stored (Carries)

variable {α : Type} {p : ImagePlan} {i : Nat} {s : SectionPlan}

/-! ### Offsets -/

/-- The offsets of pieces that follow each other from `start` on. -/
def places (f : α → List UInt8) (start : Nat) : List α → List Nat
  | [] => []
  | piece :: rest => start :: places f (start + (f piece).length) rest

/-- Names stand where they are put one after another. -/
theorem nameOffsets_eq (start : Nat) (names : List String) :
    nameOffsets start names = places StringTable.terminated start names := by
  induction names generalizing start with
  | nil => rfl
  | cons name names ih => rw [nameOffsets, places, ih]

/-- So do the contents of the sections. -/
theorem contentOffsets_eq (start : Nat) (sections : List SectionPlan) :
    contentOffsets start sections = places SectionPlan.content start sections := by
  induction sections generalizing start with
  | nil => rfl
  | cons s sections ih => rw [contentOffsets, places, ih]

/-- Each piece has a place. -/
theorem length_places (f : α → List UInt8) (start : Nat) (pieces : List α) :
    (places f start pieces).length = pieces.length := by
  induction pieces generalizing start with
  | nil => rfl
  | cons piece rest ih => rw [places, List.length_cons, List.length_cons, ih]

/-- A piece stands behind the pieces before it. -/
theorem getElem?_places (f : α → List UInt8) (start : Nat) {pieces : List α} {i : Nat}
    (hi : i < pieces.length) :
    (places f start pieces)[i]? = some (start + ((pieces.take i).flatMap f).length) := by
  induction pieces generalizing start i with
  | nil => exact absurd hi (Nat.not_lt_zero i)
  | cons piece rest ih =>
    cases i with
    | zero => rfl
    | succ i =>
      have hrest := ih (start + (f piece).length) (Nat.lt_of_succ_lt_succ hi)
      rw [places, List.getElem?_cons_succ, hrest, List.take_succ_cons, List.flatMap_cons,
        List.length_append, Nat.add_assoc]

/-- The offset of the content of a section. -/
def contentOffset (p : ImagePlan) (i : Nat) : Nat :=
  p.contentStart + ((p.allSections.take i).flatMap SectionPlan.content).length

/-- The offset of the name of a section in the name table. -/
def nameOffset (p : ImagePlan) (i : Nat) : Nat :=
  1 + ((p.names.take i).flatMap StringTable.terminated).length

/-! ### Sections -/

theorem getElem?_zip {β : Type} {as : List α} {bs : List β} {a : α} {b : β}
    (ha : as[i]? = some a) (hb : bs[i]? = some b) : (as.zip bs)[i]? = some (a, b) :=
  List.getElem?_zip_eq_some.mpr ⟨ha, hb⟩

/-- The names are those of all sections but the empty one. -/
theorem names_eq (p : ImagePlan) : p.names = p.allSections.map SectionPlan.name := by
  rw [names, allSections, List.map_append]
  rfl

/-- One section more than planned: the table of the names. -/
@[simp] theorem length_allSections (p : ImagePlan) :
    p.allSections.length = p.sections.length + 1 := by
  rw [allSections, List.length_append]
  rfl

@[simp] theorem length_names (p : ImagePlan) : p.names.length = p.sections.length + 1 := by
  rw [names_eq, List.length_map, length_allSections]

/-- The name table is the last section. -/
theorem getElem?_allSections_last (p : ImagePlan) :
    p.allSections[p.sections.length]? = some p.nameSection :=
  List.getElem?_concat_length

/-- The planned sections come first. -/
theorem getElem?_allSections_of_sections (h : p.sections[i]? = some s) :
    p.allSections[i]? = some s := by
  have hi := (List.getElem?_eq_some_iff.mp h).1
  rw [allSections, List.getElem?_append_left hi, h]

/-- A section is one of the plan or the name table. -/
theorem mem_allSections (h : s ∈ p.allSections) : s ∈ p.sections ∨ s = p.nameSection := by
  rw [allSections, List.mem_append, List.mem_singleton] at h
  exact h

/-- Each section has its name at its own index. -/
theorem getElem?_names (h : p.allSections[i]? = some s) : p.names[i]? = some s.name := by
  rw [names_eq, List.getElem?_map, h]
  rfl

/-- There is a section for every header but the null header. -/
theorem exists_section (hi : i < p.sections.length + 1) : ∃ s, p.allSections[i]? = some s :=
  ⟨_, List.getElem?_eq_getElem (by rwa [length_allSections])⟩

/-- Each name is put at the offset that its section header refers to. -/
theorem getElem?_nameOffsets (hi : i < p.sections.length + 1) :
    (nameOffsets 1 p.names)[i]? = some (p.nameOffset i) := by
  rw [nameOffsets_eq]
  exact getElem?_places _ 1 (by rwa [length_names])

/-- The header of a section, behind the null header. -/
theorem header_of_getElem? (h : p.allSections[i]? = some s) :
    p.sectionHeaders[i + 1]? = some (s.header (p.nameOffset i) (p.contentOffset i)) := by
  have hi := (List.getElem?_eq_some_iff.mp h).1
  have hname := p.getElem?_nameOffsets (length_allSections p ▸ hi)
  have hoffset : (contentOffsets p.contentStart p.allSections)[i]? = some (p.contentOffset i) := by
    rw [contentOffsets_eq]
    exact getElem?_places _ _ hi
  rw [sectionHeaders, List.getElem?_cons_succ, List.getElem?_map,
    getElem?_zip h (getElem?_zip hname hoffset)]
  rfl

/-- A section of the file that the image stands for, behind the null section. -/
theorem section_of_getElem? (h : p.allSections[i]? = some s) :
    p.file.sections[i + 1]? =
      some ⟨s.name, s.header (p.nameOffset i) (p.contentOffset i), s.content.toArray⟩ := by
  have hname : ("" :: p.names)[i + 1]? = some s.name := getElem?_names h
  have hcontent : ([] :: p.allSections.map SectionPlan.content)[i + 1]? = some s.content := by
    rw [List.getElem?_cons_succ, List.getElem?_map, h]
    rfl
  rw [file, List.getElem?_map, getElem?_zip hname (getElem?_zip (header_of_getElem? h) hcontent)]
  rfl

/-- Two headers more than planned: the empty one and that of the names. -/
@[simp] theorem length_sectionHeaders (p : ImagePlan) :
    p.sectionHeaders.length = p.sections.length + 2 := by
  have hnames : (nameOffsets 1 p.names).length = p.sections.length + 1 := by
    rw [nameOffsets_eq, length_places, length_names]
  have hoffsets : (contentOffsets p.contentStart p.allSections).length = p.sections.length + 1 := by
    rw [contentOffsets_eq, length_places, length_allSections]
  rw [sectionHeaders, List.length_cons, List.length_map, List.length_zip, List.length_zip, hnames,
    hoffsets, length_allSections, Nat.min_self, Nat.min_self]

@[simp] theorem length_file_sections (p : ImagePlan) :
    p.file.sections.length = p.sections.length + 2 := by
  rw [file, List.length_map, List.length_zip, List.length_zip, length_sectionHeaders,
    List.length_cons, List.length_cons, List.length_map, length_names, length_allSections,
    Nat.min_self, Nat.min_self]

/-- The sections of the file have the names of the plan, behind one without. -/
theorem map_name_sections (p : ImagePlan) :
    p.file.sections.map Section.name = "" :: p.names := by
  have hlength : ("" :: p.names).length =
      (p.sectionHeaders.zip ([] :: p.allSections.map SectionPlan.content)).length := by
    rw [List.length_zip, length_sectionHeaders, List.length_cons, List.length_cons, List.length_map,
      length_names, length_allSections, Nat.min_self]
  rw [file, List.map_map]
  exact List.map_fst_zip (Nat.le_of_eq hlength)

/-! ### Parts in their places -/

/-- The encoded file header. -/
def headerBytes (p : ImagePlan) : List UInt8 :=
  (FileHeader.layout p.encoding).encode p.encoding.order p.fileHeader

/-- The encoded program headers. -/
def segmentTable (p : ImagePlan) : List UInt8 :=
  p.segments.flatMap ((ProgramHeader.layout p.encoding).encode p.encoding.order)

/-- The encoded section headers. -/
def sectionTable (p : ImagePlan) : List UInt8 :=
  p.sectionHeaders.flatMap ((SectionHeader.layout p.encoding).encode p.encoding.order)

/-- The name table is laid out like the content of a section. -/
theorem flatMap_allSections (p : ImagePlan) :
    p.allSections.flatMap SectionPlan.content = p.contents ++ p.nameTable := by
  have hlast : [p.nameSection].flatMap SectionPlan.content = p.nameTable := List.append_nil _
  rw [allSections, List.flatMap_append, hlast]
  rfl

/-- A program header for each segment. -/
theorem length_segmentTable (p : ImagePlan) :
    p.segmentTable.length = p.segments.length * ProgramHeader.size p.encoding :=
  Layout.length_encodeAll _ _ _

/-- A section header for each section. -/
theorem length_sectionTable (p : ImagePlan) :
    p.sectionTable.length = (p.sections.length + 2) * SectionHeader.recordSize p.encoding := by
  rw [← length_sectionHeaders]
  exact Layout.length_encodeAll _ _ _

/-- The section table begins where the contents end. -/
theorem nameTableOffset_add (p : ImagePlan) :
    p.contentStart + (p.allSections.flatMap SectionPlan.content).length = p.sectionTableOffset := by
  rw [flatMap_allSections, List.length_append, ← Nat.add_assoc]
  rfl

theorem length_ident (p : ImagePlan) : p.ident.length = Abi.identSize := rfl

/-- The parts of an image, in order. -/
theorem bytes_eq (p : ImagePlan) :
    p.bytes = p.ident ++ (p.headerBytes ++ (p.segmentTable ++
      (p.allSections.flatMap SectionPlan.content ++ p.sectionTable))) := by
  rw [flatMap_allSections]
  simp only [← List.append_assoc]
  rfl

/-- The section table comes last. -/
theorem length_bytes (p : ImagePlan) :
    p.bytes.length = p.sectionTableOffset + p.sectionTable.length := by
  have hheader : p.headerBytes.length = (FileHeader.layout p.encoding).size :=
    Layout.length_encode _ _ _
  rw [bytes_eq, ← nameTableOffset_add, contentStart, FileHeader.totalSize]
  simp only [List.length_append, length_ident, hheader, length_segmentTable]
  omega

/-- What stands behind the identification bytes. -/
theorem carries_behind_ident (p : ImagePlan) :
    Carries p.bytes.toArray Abi.identSize
      (p.headerBytes ++ (p.segmentTable ++
        (p.allSections.flatMap SectionPlan.content ++ p.sectionTable))) := by
  rw [Carries, bytes_eq]
  exact List.prefix_rfl

/-- The file header stands behind the identification. -/
theorem carries_header (p : ImagePlan) :
    Carries p.bytes.toArray Abi.identSize p.headerBytes :=
  p.carries_behind_ident.left

/-- What stands behind the file header. -/
theorem carries_behind_header (p : ImagePlan) :
    Carries p.bytes.toArray (FileHeader.totalSize p.encoding)
      (p.segmentTable ++ (p.allSections.flatMap SectionPlan.content ++ p.sectionTable)) := by
  have h := p.carries_behind_ident.right
  rwa [headerBytes, Layout.length_encode] at h

/-- The segment table stands behind the file header. -/
theorem carries_segments (p : ImagePlan) :
    Carries p.bytes.toArray (FileHeader.totalSize p.encoding) p.segmentTable :=
  p.carries_behind_header.left

/-- What stands behind the program headers. -/
theorem carries_behind_segments (p : ImagePlan) :
    Carries p.bytes.toArray p.contentStart
      (p.allSections.flatMap SectionPlan.content ++ p.sectionTable) := by
  have h := p.carries_behind_header.right
  rwa [length_segmentTable] at h

/-- The contents stand behind the segment table. -/
theorem carries_contents (p : ImagePlan) :
    Carries p.bytes.toArray p.contentStart (p.allSections.flatMap SectionPlan.content) :=
  p.carries_behind_segments.left

/-- The section table stands where the file header says. -/
theorem carries_sectionTable (p : ImagePlan) :
    Carries p.bytes.toArray p.sectionTableOffset p.sectionTable := by
  have h := p.carries_behind_segments.right
  rwa [nameTableOffset_add] at h

/-- Each content stands where its section header says. -/
theorem carries_content (h : p.allSections[i]? = some s) :
    Carries p.bytes.toArray (p.contentOffset i) s.content :=
  p.carries_contents.item h

/-- The names stand behind the empty one. -/
theorem carries_name (h : p.allSections[i]? = some s) :
    Carries p.nameTable.toArray (p.nameOffset i) (StringTable.terminated s.name) := by
  have hnames : Carries p.nameTable.toArray 1 (p.names.flatMap StringTable.terminated) :=
    List.prefix_rfl
  exact hnames.item (getElem?_names h)

/-- Section contents stand before the section headers. -/
theorem contentOffset_add_le (h : p.allSections[i]? = some s) :
    p.contentOffset i + s.content.length ≤ p.sectionTableOffset := by
  rw [← nameTableOffset_add, flatMap_split SectionPlan.content h, List.length_append,
    List.length_append, contentOffset]
  omega

/-- Names stand in the name table. -/
theorem nameOffset_lt (h : p.allSections[i]? = some s) : p.nameOffset i < p.nameTable.length := by
  have hle := (carries_name h).length_le
  rw [StringTable.terminated, List.length_append, List.length_singleton, List.size_toArray] at hle
  omega

end ImagePlan

end ElfInspect
