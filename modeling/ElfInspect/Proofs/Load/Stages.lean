import ElfInspect.Proofs.Load.Run
import ElfInspect.Proofs.StringTable

namespace ElfInspect.Stored

/-!
# The stages of a load from memory

Each phase of a load has a condition on the content under which it succeeds, and where that fails
the content determines the cause.  The conditions are collected in structures of which each extends
the one before it, in the order of the phases:

* `Identified`, `Headed`, `Segmented`, `Sectioned`, `Filled`, `Loadable` — the content passes the
  phases up to a certain one;
* `Violation content phase cause` — the first condition that the content fails is that of `phase`;
* `loadable_or_violation` — a content either passes all phases or violates one;
* `load_of_loadable`, `load_of_violation` — what loading it comes to.
-/

open StringTable (Resolves LookupFault lookup bytesAt)

variable {content : Bytes}

/-! ### The image that a content holds -/

section Image

variable (content)

/-- The program header with a given index. -/
def segmentAt (i : Nat) : ProgramHeader :=
  programHeader (encoding content) content
    ((fileHeader content).phoff + i * segmentSize (encoding content))

/-- The section header with a given index. -/
def headerAt (i : Nat) : SectionHeader :=
  sectionHeader (encoding content) content
    ((fileHeader content).shoff + i * sectionSize (encoding content))

/-- The bytes of the section with a given index. -/
def dataAt (i : Nat) : Bytes :=
  bytesOf content (headerAt content i)

/-- The bytes of the section that holds the names of the sections. -/
def nameTable : Bytes :=
  dataAt content (fileHeader content).shstrndx

/-- The program headers in table order. -/
def segmentsOf : List ProgramHeader :=
  (List.range (fileHeader content).phnum).map (segmentAt content)

/-- The section headers in table order. -/
def headersOf : List SectionHeader :=
  (List.range (fileHeader content).shnum).map (headerAt content)

/-- The bytes of the sections in table order. -/
def contentsOf : List Bytes :=
  (List.range (fileHeader content).shnum).map (dataAt content)

/-- The name of the section with a given index, or why it has none. -/
def nameAt (i : Nat) : Except DecodeError String :=
  lookup (nameTable content) (headerAt content i).name

end Image

/-- There are as many section headers as the file header says. -/
@[simp] theorem length_headersOf : (headersOf content).length = (fileHeader content).shnum := by
  rw [headersOf, List.length_map, List.length_range]

/-- There are as many contents as section headers. -/
@[simp] theorem length_contentsOf : (contentsOf content).length = (fileHeader content).shnum := by
  rw [contentsOf, List.length_map, List.length_range]

/-- Section headers by their index. -/
theorem getElem?_headersOf (i : Nat) :
    (headersOf content)[i]? =
      if i < (fileHeader content).shnum then some (headerAt content i) else none := by
  rw [headersOf, List.getElem?_map]
  split <;> simp_all

/-- Contents by their index. -/
theorem getElem?_contentsOf (i : Nat) :
    (contentsOf content)[i]? =
      if i < (fileHeader content).shnum then some (dataAt content i) else none := by
  rw [contentsOf, List.getElem?_map]
  split <;> simp_all

/-- A loop over the section headers is a loop over their indices. -/
theorem mapM_headersOf {ε β : Type} (f : SectionHeader → Except ε β) :
    (headersOf content).mapM f =
      (List.range (fileHeader content).shnum).mapM fun i => f (headerAt content i) := by
  rw [headersOf, List.mapM_map]
  rfl

/-! ### The conditions of the phases -/

/-- The identification bytes are complete and begin with the magic bytes, and the version is
    known. -/
structure Identified (content : Bytes) : Prop where
  ident_le : Abi.identSize ≤ content.size
  magic : content.toList.take Abi.classIndex = Abi.magic
  version : (content.getD Abi.versionIndex 0).toNat = Abi.currentVersion

/-- The file header is complete. -/
structure Headed (content : Bytes) : Prop extends Identified content where
  header_le : headerSize (encoding content) ≤ content.size

/-- The program headers lie within the content. -/
structure Segmented (content : Bytes) : Prop extends Headed content where
  segments_span : Spans content (fileHeader content).phoff (fileHeader content).phnum
    (segmentSize (encoding content))

/-- The section headers lie within the content. -/
structure Sectioned (content : Bytes) : Prop extends Segmented content where
  sections_span : Spans content (fileHeader content).shoff (fileHeader content).shnum
    (sectionSize (encoding content))

/-- The contents of the sections lie within the content. -/
structure Filled (content : Bytes) : Prop extends Sectioned content where
  contents_span : ∀ i < (fileHeader content).shnum, ContentSpans content (headerAt content i)

/-- The names of the sections are found. -/
structure Loadable (content : Bytes) : Prop extends Filled content where
  names_resolve : (fileHeader content).shnum = 0 ∨
    (fileHeader content).shstrndx < (fileHeader content).shnum ∧
      ∀ i < (fileHeader content).shnum, Resolves (nameTable content) (headerAt content i).name

/-! The conditions can be evaluated. -/

instance (content : Bytes) : Decidable (Identified content) :=
  decidable_of_iff (_ ∧ _ ∧ _)
    ⟨fun ⟨hsize, hmagic, hversion⟩ => ⟨hsize, hmagic, hversion⟩,
      fun ⟨hsize, hmagic, hversion⟩ => ⟨hsize, hmagic, hversion⟩⟩

instance (content : Bytes) : Decidable (Headed content) :=
  decidable_of_iff (_ ∧ _) ⟨fun ⟨h, hheader⟩ => ⟨h, hheader⟩, fun ⟨h, hheader⟩ => ⟨h, hheader⟩⟩

instance (content : Bytes) : Decidable (Segmented content) :=
  decidable_of_iff (_ ∧ _) ⟨fun ⟨h, hspans⟩ => ⟨h, hspans⟩, fun ⟨h, hspans⟩ => ⟨h, hspans⟩⟩

instance (content : Bytes) : Decidable (Sectioned content) :=
  decidable_of_iff (_ ∧ _) ⟨fun ⟨h, hspans⟩ => ⟨h, hspans⟩, fun ⟨h, hspans⟩ => ⟨h, hspans⟩⟩

instance (content : Bytes) : Decidable (Filled content) :=
  decidable_of_iff (_ ∧ _) ⟨fun ⟨h, hspan⟩ => ⟨h, hspan⟩, fun ⟨h, hspan⟩ => ⟨h, hspan⟩⟩

instance (content : Bytes) : Decidable (Loadable content) :=
  decidable_of_iff (_ ∧ _) ⟨fun ⟨h, hnames⟩ => ⟨h, hnames⟩, fun ⟨h, hnames⟩ => ⟨h, hnames⟩⟩

/-! ### The first condition that fails -/

/-- Why the identification bytes are refused. -/
inductive IdentFault (content : Bytes) : DecodeError → Prop
  | cut (h : content.size < Abi.identSize) :
      IdentFault content (.truncated Abi.identSize content.size)
  | magic (hsize : Abi.identSize ≤ content.size)
      (h : content.toList.take Abi.classIndex ≠ Abi.magic) :
      IdentFault content (.badMagic (content.toList.take Abi.classIndex))
  | version (hsize : Abi.identSize ≤ content.size)
      (hmagic : content.toList.take Abi.classIndex = Abi.magic)
      (h : (content.getD Abi.versionIndex 0).toNat ≠ Abi.currentVersion) :
      IdentFault content (.unsupportedVersion (content.getD Abi.versionIndex 0).toNat)

/-- The content passes the phases before `phase`, and in that phase fails with a certain cause.  Of
    the sections, the first that fails determines the cause. -/
inductive Violation (content : Bytes) : Phase → DecodeError → Prop
  | ident {cause : DecodeError} (fault : IdentFault content cause) :
      Violation content .validateIdent cause
  | header (h : Identified content) (hsize : content.size < headerSize (encoding content))
      {expected actual : Nat}
      (hcut : Layout.cut (FileHeader.layout (encoding content)).widths
        (content.size - Abi.identSize) = some (expected, actual)) :
      Violation content .decodeHeader (.truncated expected actual)
  | segments (h : Headed content) {cause : DecodeError}
      (fault : TableFault content (ProgramHeader.layout (encoding content)).widths
        (fileHeader content).phoff (fileHeader content).phnum cause) :
      Violation content .decodeSegments cause
  | sections (h : Segmented content) {cause : DecodeError}
      (fault : TableFault content (SectionHeader.layout (encoding content)).widths
        (fileHeader content).shoff (fileHeader content).shnum cause) :
      Violation content .decodeSectionHeaders cause
  | content (h : Sectioned content) {i : Nat} (hi : i < (fileHeader content).shnum)
      (hbefore : ∀ j < i, ContentSpans content (headerAt content j)) {cause : DecodeError}
      (fault : ContentFault content (headerAt content i) cause) :
      Violation content .loadSectionContent cause
  | nameTable (h : Filled content) (hsome : 0 < (fileHeader content).shnum)
      (houtside : (fileHeader content).shnum ≤ (fileHeader content).shstrndx) :
      Violation content .resolveSectionNames
        (.nameTableOutside (fileHeader content).shstrndx (fileHeader content).shnum)
  | name (h : Filled content) (hinside : (fileHeader content).shstrndx < (fileHeader content).shnum)
      {i : Nat} (hi : i < (fileHeader content).shnum)
      (hbefore : ∀ j < i, Resolves (Stored.nameTable content) (headerAt content j).name)
      {cause : DecodeError}
      (fault : LookupFault (Stored.nameTable content) (headerAt content i).name cause) :
      Violation content .resolveSectionNames cause

/-! ### Identification and file header -/

/-- The identification is checked for its first bytes and then for its version. -/
theorem checkIdent_extract (h : Abi.identSize ≤ content.size) :
    checkIdent (content.extract 0 Abi.identSize) =
      if content.toList.take Abi.classIndex ≠ Abi.magic then
        .error (.badMagic (content.toList.take Abi.classIndex))
      else if (content.getD Abi.versionIndex 0).toNat ≠ Abi.currentVersion then
        .error (.unsupportedVersion (content.getD Abi.versionIndex 0).toNat)
      else .ok () := by
  have htake : (content.extract 0 Abi.identSize).toList.take Abi.classIndex =
      content.toList.take Abi.classIndex := by
    simp [Abi.identSize, Abi.classIndex, List.take_take]
  have hversion : (content.extract 0 Abi.identSize).getD Abi.versionIndex 0 =
      content.getD Abi.versionIndex 0 := by
    have hsize : 16 ≤ content.size := h
    simp only [Array.getD_eq_getD_getElem?, Abi.identSize, Abi.versionIndex,
      Array.getElem?_extract]
    rw [if_pos (by omega), Nat.zero_add]
  simp only [checkIdent, htake, hversion]

/-- There are enough bytes for the identification, so that it depends on the check. -/
theorem ident_of_le (h : Abi.identSize ≤ content.size) :
    ident content =
      (checkIdent (content.extract 0 Abi.identSize)).map
        fun _ => content.extract 0 Abi.identSize := by
  rw [ident, delivered, if_pos (by omega), Nat.zero_add]
  show (checkIdent (content.extract 0 Abi.identSize)).bind _ = _
  cases checkIdent (content.extract 0 Abi.identSize) <;> rfl

/-- An identification that is as it should be is read. -/
theorem ident_of_identified (h : Identified content) :
    ident content = .ok (content.extract 0 Abi.identSize) := by
  rw [ident_of_le h.ident_le, checkIdent_extract h.ident_le, if_neg (not_not_intro h.magic),
    if_neg (not_not_intro h.version)]
  rfl

/-- Any cause against it is what reading it ends with. -/
theorem ident_of_fault {cause : DecodeError} (h : IdentFault content cause) :
    ident content = .error cause := by
  cases h with
  | cut h =>
    rw [ident, delivered, if_neg (by omega), Nat.sub_zero]
    rfl
  | magic hsize h =>
    rw [ident_of_le hsize, checkIdent_extract hsize, if_pos h]
    rfl
  | version hsize hmagic h =>
    rw [ident_of_le hsize, checkIdent_extract hsize, if_neg (not_not_intro hmagic), if_pos h]
    rfl

/-- The identification is as it should be, or there is a cause against it. -/
theorem identified_or_fault (content : Bytes) :
    Identified content ∨ ∃ cause, IdentFault content cause := by
  by_cases hsize : Abi.identSize ≤ content.size
  · by_cases hmagic : content.toList.take Abi.classIndex = Abi.magic
    · by_cases hversion : (content.getD Abi.versionIndex 0).toNat = Abi.currentVersion
      · exact .inl ⟨hsize, hmagic, hversion⟩
      · exact .inr ⟨_, .version hsize hmagic hversion⟩
    · exact .inr ⟨_, .magic hsize hmagic⟩
  · exact .inr ⟨_, .cut (by omega)⟩

/-- The encoding that the identification bytes name steers the decoding of the header. -/
theorem encoding_ofIdent (h : Abi.identSize ≤ content.size) :
    (FileHeader.ofIdent (content.extract 0 Abi.identSize)).encoding = encoding content := by
  rw [ofIdent_extract h]
  rfl

/-- A file header that is all there is read. -/
theorem header_of_headed (h : Headed content) :
    header content (content.extract 0 Abi.identSize) = .ok (fileHeader content) := by
  have hsize := size_fileHeader (encoding content)
  have hle := h.header_le
  rw [header, encoding_ofIdent h.ident_le, record_of_le (by omega), decode_fileHeader h.ident_le]

/-- A file header that is cut is reported by the field it is cut in. -/
theorem header_of_cut (h : Identified content) {expected actual : Nat}
    (hcut : Layout.cut (FileHeader.layout (encoding content)).widths
      (content.size - Abi.identSize) = some (expected, actual)) :
    header content (content.extract 0 Abi.identSize) = .error (.truncated expected actual) := by
  rw [header, encoding_ofIdent h.ident_le, record, hcut]

/-- The file header is all there, or it is cut. -/
theorem headed_or_cut (h : Identified content) :
    Headed content ∨ content.size < headerSize (encoding content) ∧ ∃ expected actual,
      Layout.cut (FileHeader.layout (encoding content)).widths (content.size - Abi.identSize) =
        some (expected, actual) := by
  have hsize := size_fileHeader (encoding content)
  have hle := h.ident_le
  by_cases hheader : headerSize (encoding content) ≤ content.size
  · exact .inl ⟨h, hheader⟩
  · have hlt : content.size - Abi.identSize < (FileHeader.layout (encoding content)).size := by
      omega
    exact .inr ⟨by omega, Layout.exists_cut hlt⟩

/-! ### Tables -/

/-- A segment table that lies within the content is read. -/
theorem segments_of_segmented (h : Segmented content) :
    table content .memory (ProgramHeader.layout (encoding content)) (encoding content).order {}
        (fileHeader content).phoff (fileHeader content).phnum =
      .ok (segmentsOf content) := by
  have hspans := h.segments_span
  rw [← size_programHeader] at hspans
  rw [table_of_spans hspans]
  simp only [decode_programHeader, size_programHeader]
  rfl

/-- A section table that lies within the content is read. -/
theorem headers_of_sectioned (h : Sectioned content) :
    table content .memory (SectionHeader.layout (encoding content)) (encoding content).order {}
        (fileHeader content).shoff (fileHeader content).shnum =
      .ok (headersOf content) := by
  have hspans := h.sections_span
  rw [← size_sectionHeader] at hspans
  rw [table_of_spans hspans]
  simp only [decode_sectionHeader, size_sectionHeader]
  rfl

/-! ### Section contents -/

/-- Contents that lie within the bytes of the file are read. -/
theorem contents_of_filled (h : Filled content) :
    (headersOf content).mapM (sectionData content .memory) = .ok (contentsOf content) := by
  rw [mapM_headersOf]
  exact mapM_range_of_ok fun i hi => sectionData_of_contentSpans (h.contents_span i hi)

/-- The first content that does not is reported. -/
theorem contents_of_fault {i : Nat} (hi : i < (fileHeader content).shnum)
    (hbefore : ∀ j < i, ContentSpans content (headerAt content j)) {cause : DecodeError}
    (fault : ContentFault content (headerAt content i) cause) :
    (headersOf content).mapM (sectionData content .memory) = .error cause := by
  rw [mapM_headersOf]
  exact mapM_range_of_error hi (sectionData_of_fault fault)
    fun j hj => ⟨_, sectionData_of_contentSpans (hbefore j hj)⟩

/-- All contents can be read, or there is a first that cannot. -/
theorem filled_or_fault (h : Sectioned content) :
    Filled content ∨ ∃ i < (fileHeader content).shnum,
      (∀ j < i, ContentSpans content (headerAt content j)) ∧
        ∃ cause, ContentFault content (headerAt content i) cause := by
  rcases all_ok_or_first_error (fun i => sectionData content .memory (headerAt content i))
    (fileHeader content).shnum with hall | ⟨i, hi, cause, hfault, hbefore⟩
  · -- contents that can be read lie within the content
    refine .inl ⟨h, fun i hi => ?_⟩
    obtain ⟨data, hdata⟩ := hall i hi
    exact (sectionData_eq_ok_iff.mp hdata).1
  · refine .inr ⟨i, hi, fun j hj => ?_, cause, sectionData_eq_error_iff.mp hfault⟩
    obtain ⟨data, hdata⟩ := hbefore j hj
    exact (sectionData_eq_ok_iff.mp hdata).1

/-! ### Section names -/

/-- The names of the sections are looked up in the section that the file header names. -/
theorem sectionNames_eq (content : Bytes) :
    Load.sectionNames (fileHeader content) (headersOf content) (contentsOf content) =
      if (fileHeader content).shnum = 0 then .ok []
      else if (fileHeader content).shstrndx < (fileHeader content).shnum then
        (List.range (fileHeader content).shnum).mapM (nameAt content)
      else
        .error (.nameTableOutside (fileHeader content).shstrndx (fileHeader content).shnum) := by
  have hempty : (headersOf content).isEmpty = true ↔ (fileHeader content).shnum = 0 := by
    rw [List.isEmpty_iff, ← List.length_eq_zero_iff, length_headersOf]
  unfold Load.sectionNames
  simp only [hempty, getElem?_contentsOf, length_headersOf, mapM_headersOf]
  by_cases hzero : (fileHeader content).shnum = 0
  · rw [if_pos hzero, if_pos hzero]
  · rw [if_neg hzero, if_neg hzero]
    by_cases hinside : (fileHeader content).shstrndx < (fileHeader content).shnum
    · rw [if_pos hinside, if_pos hinside]
      rfl
    · rw [if_neg hinside, if_neg hinside]

/-- Of a file that can be loaded all section names are found. -/
theorem exists_names (h : Loadable content) :
    ∃ names, Load.sectionNames (fileHeader content) (headersOf content) (contentsOf content) =
        .ok names ∧
      names.length = (fileHeader content).shnum ∧
      ∀ i name, names[i]? = some name → nameAt content i = .ok name := by
  rw [sectionNames_eq]
  rcases h.names_resolve with hzero | ⟨hinside, hall⟩
  · exact ⟨[], if_pos hzero, hzero.symm, by simp⟩
  · rw [if_neg (by omega), if_pos hinside]
    exact exists_mapM_range fun i hi => StringTable.resolves_iff.mp (hall i hi)

/-- All names can be found, or the name table is missing, or there is a first name that cannot. -/
theorem loadable_or_fault (h : Filled content) :
    Loadable content ∨
      (0 < (fileHeader content).shnum ∧
        (fileHeader content).shnum ≤ (fileHeader content).shstrndx) ∨
      ((fileHeader content).shstrndx < (fileHeader content).shnum ∧
        ∃ i < (fileHeader content).shnum,
          (∀ j < i, Resolves (nameTable content) (headerAt content j).name) ∧
            ∃ cause, LookupFault (nameTable content) (headerAt content i).name cause) := by
  by_cases hinside : (fileHeader content).shstrndx < (fileHeader content).shnum
  · rcases all_ok_or_first_error (nameAt content) (fileHeader content).shnum with
      hall | ⟨i, hi, cause, hfault, hbefore⟩
    · exact .inl ⟨h, .inr ⟨hinside, fun i hi => StringTable.resolves_iff.mpr (hall i hi)⟩⟩
    · exact .inr (.inr ⟨hinside, i, hi, fun j hj => StringTable.resolves_iff.mpr (hbefore j hj),
        cause, StringTable.lookup_eq_error_iff.mp hfault⟩)
  · by_cases hzero : (fileHeader content).shnum = 0
    · exact .inl ⟨h, .inl hzero⟩
    · exact .inr (.inl (by omega))

/-- The first name that cannot be found is reported. -/
theorem names_of_fault (hinside : (fileHeader content).shstrndx < (fileHeader content).shnum)
    {i : Nat} (hi : i < (fileHeader content).shnum)
    (hbefore : ∀ j < i, Resolves (nameTable content) (headerAt content j).name)
    {cause : DecodeError}
    (fault : LookupFault (nameTable content) (headerAt content i).name cause) :
    Load.sectionNames (fileHeader content) (headersOf content) (contentsOf content) =
      .error cause := by
  rw [sectionNames_eq, if_neg (by omega), if_pos hinside]
  exact mapM_range_of_error hi (StringTable.lookup_eq_error_iff.mpr fault)
    fun j hj => StringTable.resolves_iff.mp (hbefore j hj)

/-! ### All phases -/

section Chain

variable {α : Type}

@[simp] theorem attributed_ok (phase : Phase) (a : α) :
    attributed phase (.ok a) = .ok a := rfl

@[simp] theorem attributed_error (phase : Phase) (cause : DecodeError) :
    attributed (α := α) phase (.error cause) = .error (cause.inPhase phase) := rfl

end Chain

/-- **Dichotomy.**  A content passes all phases, or there is a first condition that it fails. -/
theorem loadable_or_violation (content : Bytes) :
    Loadable content ∨ ∃ phase cause, Violation content phase cause := by
  -- each phase lets the content pass or gives its violation; the rest goes on with what passes
  rcases identified_or_fault content with hident | ⟨cause, fault⟩
  case inr => exact .inr ⟨_, _, .ident fault⟩
  rcases headed_or_cut hident with hheader | ⟨hsize, expected, actual, hcut⟩
  case inr => exact .inr ⟨_, _, .header hident hsize hcut⟩
  rcases spans_or_tableFault content (fileHeader content).phoff (fileHeader content).phnum
    (programHeader_size_pos (encoding content)) with hspans | ⟨_, fault⟩
  case inr => exact .inr ⟨_, _, .segments hheader fault⟩
  rw [size_programHeader] at hspans
  have hsegments : Segmented content := ⟨hheader, hspans⟩
  rcases spans_or_tableFault content (fileHeader content).shoff (fileHeader content).shnum
    (sectionHeader_size_pos (encoding content)) with hspans | ⟨_, fault⟩
  case inr => exact .inr ⟨_, _, .sections hsegments fault⟩
  rw [size_sectionHeader] at hspans
  have hsections : Sectioned content := ⟨hsegments, hspans⟩
  rcases filled_or_fault hsections with hfilled | ⟨i, hi, hbefore, cause, fault⟩
  case inr => exact .inr ⟨_, _, .content hsections hi hbefore fault⟩
  rcases loadable_or_fault hfilled with hloadable | ⟨hsome, houtside⟩ |
    ⟨hinside, i, hi, hbefore, cause, fault⟩
  · exact .inl hloadable
  · exact .inr ⟨_, _, .nameTable hfilled hsome houtside⟩
  · exact .inr ⟨_, _, .name hfilled hinside hi hbefore fault⟩

/-- With all headers at hand, what is left are the contents and the names. -/
theorem loadWith_of_sectioned (data : SectionHeader → Except DecodeError Bytes)
    (h : Sectioned content) :
    loadWith data content .memory = do
      let contents ← attributed .loadSectionContent ((headersOf content).mapM data)
      let names ← attributed .resolveSectionNames
        (Load.sectionNames (fileHeader content) (headersOf content) contents)
      return { header := fileHeader content
               segments := segmentsOf content
               sections := Load.assemble names (headersOf content) contents } := by
  have hencoding : (fileHeader content).encoding = encoding content := rfl
  simp only [loadWith, ident_of_identified h.toIdentified, header_of_headed h.toHeaded, hencoding,
    segments_of_segmented h.toSegmented, headers_of_sectioned h, attributed_ok, ok_bind]

/-- A content that passes all phases is loaded. -/
theorem load_of_loadable (h : Loadable content) :
    ∃ names : List String, names.length = (fileHeader content).shnum ∧
      (∀ i name, names[i]? = some name → nameAt content i = .ok name) ∧
      load content .memory = .ok
        { header := fileHeader content
          segments := segmentsOf content
          sections := Load.assemble names (headersOf content) (contentsOf content) } := by
  obtain ⟨names, hnames, hlength, hspec⟩ := exists_names h
  refine ⟨names, hlength, hspec, ?_⟩
  rw [load, loadWith_of_sectioned _ h.toSectioned, contents_of_filled h.toFilled, attributed_ok,
    ok_bind, hnames]
  rfl

/-- What goes wrong before the contents are read does not depend on how they are. -/
theorem loadWith_of_violation (data : SectionHeader → Except DecodeError Bytes) {phase : Phase}
    {cause : DecodeError} (h : Violation content phase cause)
    (hcontents : phase ≠ .loadSectionContent) (hnames : phase ≠ .resolveSectionNames) :
    loadWith data content .memory = .error (cause.inPhase phase) := by
  have hencoding : (fileHeader content).encoding = encoding content := rfl
  -- each phase is reached with the results of those before it
  cases h with
  | ident fault =>
    simp only [loadWith, ident_of_fault fault, attributed_error, error_bind]
  | header h hsize hcut =>
    simp only [loadWith, ident_of_identified h, header_of_cut h hcut, attributed_ok,
      attributed_error, ok_bind, error_bind]
  | segments h fault =>
    simp only [loadWith, ident_of_identified h.toIdentified, header_of_headed h, hencoding,
      table_of_fault (programHeader_size_pos _) fault, attributed_ok, attributed_error, ok_bind,
      error_bind]
  | sections h fault =>
    simp only [loadWith, ident_of_identified h.toIdentified, header_of_headed h.toHeaded, hencoding,
      segments_of_segmented h, table_of_fault (sectionHeader_size_pos _) fault, attributed_ok,
      attributed_error, ok_bind, error_bind]
  | content => exact absurd rfl hcontents
  | nameTable => exact absurd rfl hnames
  | name => exact absurd rfl hnames

/-- The first condition that a content fails determines how loading it fails. -/
theorem load_of_violation {phase : Phase} {cause : DecodeError}
    (h : Violation content phase cause) :
    load content .memory = .error (cause.inPhase phase) := by
  rw [load]
  -- the first four phases do not depend on how contents are read
  cases h with
  | ident fault => exact loadWith_of_violation _ (.ident fault) nofun nofun
  | header h hsize hcut => exact loadWith_of_violation _ (.header h hsize hcut) nofun nofun
  | segments h fault => exact loadWith_of_violation _ (.segments h fault) nofun nofun
  | sections h fault => exact loadWith_of_violation _ (.sections h fault) nofun nofun
  | content h hi hbefore fault =>
    rw [loadWith_of_sectioned _ h, contents_of_fault hi hbefore fault, attributed_error, error_bind]
  | nameTable h hsome houtside =>
    have hnames := sectionNames_eq content
    rw [if_neg (by omega), if_neg (by omega)] at hnames
    rw [loadWith_of_sectioned _ h.toSectioned, contents_of_filled h, attributed_ok, ok_bind, hnames,
      attributed_error, error_bind]
  | name h hinside hi hbefore fault =>
    rw [loadWith_of_sectioned _ h.toSectioned, contents_of_filled h, attributed_ok, ok_bind,
      names_of_fault hinside hi hbefore fault, attributed_error, error_bind]

end ElfInspect.Stored
