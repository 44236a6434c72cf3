import ElfInspect.Image
import ElfInspect.Proofs.Load.Stages
import ElfInspect.Session

namespace ElfInspect

/-!
# What a load from memory comes to

* `Stored.Matches content file` — the file holds what the content says, field by field;
* `Load.ofBytes_eq_ok_iff` — a load succeeds exactly for contents that pass all phases, with the
  file that matches;
* `Loader.load_violation` — a load fails exactly for contents that violate a condition, with the
  cause of the first that they violate, and in the phase of that condition.
-/

variable {content : Bytes}

namespace Stored

/-- The file holds what the content says: the file header, the segments and the sections in table
    order, each with its header, with the bytes that the header refers to, and with the name whose
    encoding stands in the name table at the offset that the header gives. -/
structure Matches (content : Bytes) (file : ElfFile) : Prop where
  header : file.header = fileHeader content
  segments : file.segments = segmentsOf content
  sections_length : file.sections.length = (fileHeader content).shnum
  section_at : ∀ i s, file.sections[i]? = some s →
    s.header = headerAt content i ∧ s.data = dataAt content i ∧
      Utf8.encode s.name.toList =
        StringTable.bytesAt (nameTable content) (headerAt content i).name

/-- At most one file matches a content. -/
theorem Matches.unique {file file' : ElfFile} (h : Matches content file)
    (h' : Matches content file') : file = file' := by
  have hsections : file.sections = file'.sections := by
    refine List.ext_getElem (h.sections_length.trans h'.sections_length.symm) fun i hi hi' => ?_
    obtain ⟨hheader, hdata, hname⟩ := h.section_at i _ (List.getElem?_eq_getElem hi)
    obtain ⟨hheader', hdata', hname'⟩ := h'.section_at i _ (List.getElem?_eq_getElem hi')
    -- the encodings are the same bytes of the name table, and no two names share one
    have hchars := String.toList_inj.mp (Utf8.encode_inj.mp (hname.trans hname'.symm))
    generalize file.sections[i] = s at hheader hdata hchars
    generalize file'.sections[i] = s' at hheader' hdata' hchars
    cases s
    cases s'
    simp_all
  cases file
  cases file'
  have hheader := h.header.trans h'.header.symm
  have hsegments := h.segments.trans h'.segments.symm
  simp_all

/-- What a load assembles matches the content that it is read from. -/
theorem matches_assemble {names : List String}
    (hlength : names.length = (fileHeader content).shnum)
    (hnames : ∀ i name, names[i]? = some name → nameAt content i = .ok name) :
    Matches content
      { header := fileHeader content
        segments := segmentsOf content
        sections := Load.assemble names (headersOf content) (contentsOf content) } := by
  refine ⟨rfl, rfl, by simp [Load.assemble, hlength], fun i s hs => ?_⟩
  simp only [Load.assemble, List.getElem?_map, Option.map_eq_some_iff, Prod.exists,
    List.getElem?_zip_eq_some, getElem?_headersOf, getElem?_contentsOf,
    Option.ite_none_right_eq_some, Option.some.injEq] at hs
  obtain ⟨name, header, data, ⟨hname, ⟨-, rfl⟩, ⟨-, rfl⟩⟩, rfl⟩ := hs
  exact ⟨rfl, rfl, (StringTable.lookup_eq_ok_iff.mp (hnames i name hname)).2⟩

/-- What violates a condition cannot be loaded. -/
theorem Violation.not_loadable {phase : Phase} {cause : DecodeError}
    (h : Violation content phase cause) : ¬ Loadable content := by
  intro hloadable
  obtain ⟨names, -, -, hload⟩ := load_of_loadable hloadable
  rw [load_of_violation h] at hload
  cases hload

/-- Loading a content succeeds exactly if it passes all phases. -/
theorem load_eq_ok_iff {file : ElfFile} :
    load content .memory = .ok file ↔ Loadable content ∧ Matches content file := by
  rcases loadable_or_violation content with hloadable | ⟨phase, cause, hviolation⟩
  · obtain ⟨names, hlength, hnames, hload⟩ := load_of_loadable hloadable
    have hmatches := matches_assemble hlength hnames
    rw [hload]
    constructor
    · intro hfile
      rw [← Except.ok.inj hfile]
      exact ⟨hloadable, hmatches⟩
    · rintro ⟨-, hfile⟩
      rw [hmatches.unique hfile]
  · simp only [load_of_violation hviolation, hviolation.not_loadable, reduceCtorEq, false_and]

/-- Loading a content fails exactly if it violates a condition. -/
theorem load_eq_error_iff {failure : LoadFailure} :
    load content .memory = .error failure ↔
      ∃ phase cause, Violation content phase cause ∧ failure = cause.inPhase phase := by
  constructor
  · intro hfailure
    rcases loadable_or_violation content with hloadable | ⟨phase, cause, hviolation⟩
    · obtain ⟨names, -, -, hload⟩ := load_of_loadable hloadable
      rw [hload] at hfailure
      cases hfailure
    · rw [load_of_violation hviolation] at hfailure
      exact ⟨phase, cause, hviolation, (Except.error.inj hfailure).symm⟩
  · rintro ⟨phase, cause, hviolation, rfl⟩
    exact load_of_violation hviolation

/-- The input is at fault in every violation. -/
theorem Violation.isInputFault {phase : Phase} {cause : DecodeError}
    (h : Violation content phase cause) : cause.isInputFault = true := by
  cases h with
  | ident fault => cases fault <;> rfl
  | header => rfl
  | segments _ fault => cases fault <;> rfl
  | sections _ fault => cases fault <;> rfl
  | content _ _ _ fault => cases fault <;> rfl
  | nameTable => rfl
  | name _ _ _ _ fault => cases fault <;> rfl

end Stored

/-! ### Loads that succeed -/

/-- **Loads from memory that succeed.**  The content determines whether there is a file, and which,
    whatever the size of the chunks that section contents are read in. -/
theorem Load.ofBytes_eq_ok_iff (content : Bytes) {chunk : Int} (hpos : 1 ≤ chunk)
    (hlt : chunk < wordLimit) :
    ((∃ file, Load.ofBytes content chunk = .ok file) ↔ Stored.Loadable content) ∧
      ∀ file, Load.ofBytes content chunk = .ok file ↔
        Stored.Loadable content ∧ Stored.Matches content file := by
  have hiff (file : ElfFile) : Load.ofBytes content chunk = .ok file ↔
      Stored.Loadable content ∧ Stored.Matches content file := by
    rw [Load.ofBytes_eq hpos hlt]
    exact Stored.load_eq_ok_iff
  refine ⟨⟨?_, fun hloadable => ?_⟩, hiff⟩
  · rintro ⟨file, hfile⟩
    exact ((hiff file).mp hfile).1
  · obtain ⟨names, -, -, hload⟩ := Stored.load_of_loadable hloadable
    exact ⟨_, (Load.ofBytes_eq hpos hlt).trans hload⟩

/-- A big-endian 32-bit image with a segment, a section without space in the file, and a section
    whose name is not all ASCII. -/
def Load.mixedImage : Bytes :=
  let plan : ImagePlan :=
    { elfClass := 1, data := 2, segments := [{ type := 1, memsz := 4096 }]
      sections := [{ name := "é", type := Abi.sectionProgbits, data := [1, 2, 3] },
        { name := ".bss", type := Abi.sectionNobits, spaceless := 4096 }] }
  plan.bytes.toArray

theorem Load.exists_ofBytes_mixedImage :
    1 ≤ (3 : Int) ∧ (3 : Int) < wordLimit ∧
      ∃ file, Load.ofBytes mixedImage 3 = .ok file ∧ Stored.Matches mixedImage file := by
  have hpos : 1 ≤ (3 : Int) := by decide
  have hlt : (3 : Int) < wordLimit := by decide
  have hiff := Load.ofBytes_eq_ok_iff mixedImage hpos hlt
  obtain ⟨file, hfile⟩ := hiff.1.mpr (by decide +kernel)
  exact ⟨hpos, hlt, file, hfile, ((hiff.2 file).mp hfile).2⟩

/-! ### Loads that fail -/

/-- **Loads from memory that fail.**  The first condition that the content violates determines the
    cause, and the failure is attributed to its phase, in which the loader stops.  Conversely no
    load fails for another reason. -/
theorem Loader.load_violation (loader : Loader) (content : Bytes) (hpos : 1 ≤ loader.chunk)
    (hlt : loader.chunk < wordLimit) :
    (∀ phase cause, Stored.Violation content phase cause →
        (loader.load (.ofBytes content)).1.outcome = .error ⟨cause, some phase⟩ ∧
          (loader.load (.ofBytes content)).2.phase = phase) ∧
      ∀ failure, (loader.load (.ofBytes content)).1.outcome = .error failure →
        failure.phase = some (loader.load (.ofBytes content)).2.phase ∧
          Stored.Violation content (loader.load (.ofBytes content)).2.phase failure.error := by
  have hload : (loader.load (.ofBytes content)).1.outcome = Stored.load content .memory :=
    Load.ofBytes_eq hpos hlt
  have hviolation (phase : Phase) (cause : DecodeError) (h : Stored.Violation content phase cause) :
      (loader.load (.ofBytes content)).1.outcome = .error ⟨cause, some phase⟩ ∧
        (loader.load (.ofBytes content)).2.phase = phase := by
    have houtcome : (loader.load (.ofBytes content)).1.outcome = .error ⟨cause, some phase⟩ := by
      rw [hload, Stored.load_of_violation h, DecodeError.inPhase, if_pos h.isInputFault]
    -- the phase that the failure carries is the one that the loader has reached
    obtain ⟨cause', hcause⟩ := Load.phase_run_of_error _ _ _ houtcome
    refine ⟨houtcome, ?_⟩
    simp only [DecodeError.inPhase, LoadFailure.mk.injEq] at hcause
    obtain ⟨rfl, hphase⟩ := hcause
    rw [if_pos h.isInputFault] at hphase
    exact (Option.some.inj hphase).symm
  refine ⟨hviolation, fun failure hfailure => ?_⟩
  rw [hload] at hfailure
  obtain ⟨phase, cause, h, rfl⟩ := Stored.load_eq_error_iff.mp hfailure
  obtain ⟨-, hphase⟩ := hviolation phase cause h
  rw [hphase, DecodeError.inPhase, if_pos h.isInputFault]
  exact ⟨rfl, h⟩

/-- A 64-bit image of nothing but a header, which fails all conditions on tables, contents and
    names. -/
def Loader.brokenImage : Bytes :=
  let header : FileHeader :=
    { phoff := wordLimit, phnum := 1, shoff := wordLimit + 1, shnum := 2, shstrndx := 5 }
  (Abi.magic ++ [2, 1, 1] ++ List.replicate 9 0 ++
    (FileHeader.layout ⟨false, .little⟩).encode .little header).toArray

/-- The segment table comes first, and its offset is too wide for memory. -/
theorem Loader.violation_brokenImage :
    Stored.Violation brokenImage .decodeSegments
      (.seekFailed wordLimit (.offsetTooWide .memory)) := by
  have hheader : Stored.Headed brokenImage := by decide +kernel
  have hphoff : (Stored.fileHeader brokenImage).phoff = wordLimit := by decide +kernel
  have hviolation := Stored.Violation.segments hheader (.seek (Nat.le_of_eq hphoff.symm))
  rwa [hphoff] at hviolation

theorem Loader.load_brokenImage :
    1 ≤ (7 : Int) ∧ (7 : Int) < wordLimit ∧
      (Loader.load { chunk := 7, phase := .ready } (.ofBytes brokenImage)).1.outcome =
        .error ⟨.seekFailed wordLimit (.offsetTooWide .memory), some .decodeSegments⟩ ∧
      (Loader.load { chunk := 7, phase := .ready } (.ofBytes brokenImage)).2.phase =
        .decodeSegments := by
  have hpos : 1 ≤ (7 : Int) := by decide
  have hlt : (7 : Int) < wordLimit := by decide
  have hload := (Loader.load_violation { chunk := 7, phase := .ready } brokenImage hpos hlt).1 _ _
    violation_brokenImage
  exact ⟨hpos, hlt, hload⟩

end ElfInspect
