import ElfInspect.Report.File
import ElfInspect.Proofs.Report.ReadBack
import ElfInspect.Proofs.Store.Frames
import ElfInspect.Proofs.Utf8

namespace ElfInspect

/-!
# Saved reports

A saved report is a JSON document within ASCII, and the report is read from it as it was made.  No
file is touched unless the report can be made.

* `Report.exists_document` — the document of a report;
* `Report.save_destination`, `Report.save_of_ok`, `Report.save_of_error` — what becomes of the
  files;
* `Report.save_faithful` — saved reports are faithful;
* `Report.not_save_undecodable` — not every report that cannot be made is refused for that.
-/

open Store (Keeps)

/-! ### Texts and files -/

/-- Within ASCII, each character takes the byte of its number. -/
theorem Utf8.encode_ascii {chars : List Char} (h : ∀ c ∈ chars, c.toNat < 0x80) :
    encode chars = chars.map fun c => UInt8.ofNat c.toNat := by
  induction chars with
  | nil => rfl
  | cons c rest ih =>
    obtain ⟨hc, hrest⟩ := List.forall_mem_cons.mp h
    rw [encode_cons, encodeChar_one hc, ih hrest]
    rfl

namespace Store

variable {store later : Store} {path : String} {content : Bytes}

/-- A file can be read if there is a file at the path. -/
theorem read_eq_ok_iff :
    store.read path = .ok content ↔
      ∃ location, store.find path = .ok (location, .file content) := by
  unfold read
  rcases store.find path with fault | ⟨location, _ | _ | _⟩ <;> simp

/-- A file is read as before where all files are kept. -/
theorem Keeps.read (h : Keeps [] store later) (hread : store.read path = .ok content) :
    later.read path = .ok content := by
  obtain ⟨location, hfind⟩ := read_eq_ok_iff.mp hread
  exact read_eq_ok_iff.mpr ⟨location, h.find_file hfind List.not_mem_nil⟩

end Store

namespace Report

variable {file : ElfFile} {source generatedAt : String} {includeSymbols : Bool}
  {rest : List (String × Value)} {document : String} {cause : DecodeError}

/-! ### Documents -/

/-- A report that can be made has a document within ASCII, from which it is read. -/
theorem exists_document (h : entries file source includeSymbols = .ok rest)
    (generatedAt : String) :
    ∃ document, text generatedAt file source includeSymbols = .ok document ∧
      Json.read document = some (.table (("generated_at", .text generatedAt) :: rest)) ∧
      ∀ c ∈ document.toList, c.toNat < 0x80 := by
  have hjson := isJson_entries h generatedAt
  refine ⟨Json.write .document _, ?_, Json.read_write .document hjson, fun c hc => ?_⟩
  · unfold text
    rw [value_eq, h]
    rfl
  · exact (Json.uses_write .document hjson c hc).2 rfl

/-! ### Files -/

variable {store : Store} {path : String}

/-- Why a report is not saved that cannot be made.  The directories of the path come first. -/
def refusal (store : Store) (path : String) (cause : DecodeError) : SaveFailure :=
  match (store.makeDirectories (Path.parent path)).1 with
  | none => .undecodable cause
  | some fault => .refused fault

variable (store path) in
/-- A report that cannot be made leaves all files alone. -/
theorem save_of_error (h : text generatedAt file source includeSymbols = .error cause) :
    Keeps [] store (save store path generatedAt file source includeSymbols).2 ∧
      (save store path generatedAt file source includeSymbols).1 =
        .error (refusal store (Path.normalize path) cause) := by
  have hkeeps := store.keeps_makeDirectories (Path.parent (Path.normalize path))
  unfold save refusal
  dsimp only
  rcases hmade : store.makeDirectories (Path.parent (Path.normalize path)) with
    ⟨_ | fault, made⟩
  · rw [hmade] at hkeeps
    rw [h]
    exact ⟨hkeeps, rfl⟩
  · rw [hmade] at hkeeps
    exact ⟨hkeeps, rfl⟩

/-- A report is saved if it can be made and a file can be where the path leads.  The report is
    written all at once, and before that only directories are created. -/
theorem save_destination {place : List String}
    (h : store.destination? (Path.normalize path) = some place) (generatedAt : String)
    (file : ElfFile) (source : String) (includeSymbols : Bool) :
    match text generatedAt file source includeSymbols with
    | .error cause => ∃ later, save store path generatedAt file source includeSymbols =
        (.error (.undecodable cause), later) ∧ Keeps [] store later
    | .ok document => ∃ later, save store path generatedAt file source includeSymbols =
        (.ok (Path.normalize path), later) ∧ Keeps [place] store later ∧
        later.fileAt place = some (Utf8.encode document.toList).toArray ∧
        later.find (Path.normalize path) =
          .ok (place, .file (Utf8.encode document.toList).toArray) := by
  -- the directories are created whatever becomes of the document
  obtain ⟨made, hmade, hkeeps, hupdate⟩ := Store.update_destination h
  unfold save
  dsimp only
  rw [hmade]
  cases text generatedAt file source includeSymbols with
  | error cause => exact ⟨made, rfl, hkeeps⟩
  | ok document =>
    obtain ⟨later, hwrite, hkept, hfile, hfind⟩ :=
      hupdate fun _ => (Utf8.encode document.toList).toArray
    refine ⟨later, ?_, hkept, hfile, hfind⟩
    dsimp only
    rw [Store.write, hwrite]

/-- What saving a document comes to. -/
inductive Saves (store : Store) (target document : String) :
    Except SaveFailure String × Store → Prop
  /-- The path leads to a file with the document, one byte for each character; no other file has
      changed. -/
  | saved {place : List String} {after : Store} (hplace : store.destination? target = some place)
      (hkeeps : Keeps [place] store after)
      (hread : after.read target =
        .ok (document.toList.map fun c => UInt8.ofNat c.toNat).toArray) :
      Saves store target document (.ok target, after)
  /-- No file can be where the path leads; no file has changed. -/
  | refused {fault : PathFault} {after : Store} (hplace : store.destination? target = none)
      (hkeeps : Keeps [] store after) :
      Saves store target document (.error (.refused fault), after)

variable (store path) in
/-- A document within ASCII is saved. -/
theorem save_of_ok (h : text generatedAt file source includeSymbols = .ok document)
    (hascii : ∀ c ∈ document.toList, c.toNat < 0x80) :
    Saves store (Path.normalize path) document
      (save store path generatedAt file source includeSymbols) := by
  have hbytes := Utf8.encode_ascii hascii
  cases hplace : store.destination? (Path.normalize path) with
  | some place =>
    have hsave := save_destination hplace generatedAt file source includeSymbols
    rw [h] at hsave
    obtain ⟨after, hsaved, hkeeps, -, hfind⟩ := hsave
    rw [hsaved]
    exact .saved hplace hkeeps (hbytes ▸ Store.read_eq_ok_iff.mpr ⟨place, hfind⟩)
  | none =>
    have hkeeps := store.keeps_makeDirectories (Path.parent (Path.normalize path))
    unfold save
    dsimp only
    rcases hmade : store.makeDirectories (Path.parent (Path.normalize path)) with
      ⟨_ | fault, made⟩
    · rw [hmade] at hkeeps
      rw [h]
      dsimp only
      cases hwrite : made.write (Path.normalize path) (Utf8.encode document.toList).toArray with
      | error fault => exact .refused hplace hkeeps
      | ok after =>
        -- where one content can be written, any other can be
        obtain ⟨location, entry, hfind, -, -, hupdate⟩ := Store.exists_update hwrite
        have hsome := Store.destination?_eq_some_iff.mpr
          ⟨made, entry, _, hmade, hfind, hupdate fun _ => #[]⟩
        rw [hplace] at hsome
        cases hsome
    · rw [hmade] at hkeeps
      exact .refused hplace hkeeps

/-! ### Faithful reports -/

/-- **Saved reports.**  Let a report be made of a file, at whatever time, and let it be saved.

    * If it can be made, it is saved as a document within ASCII, one byte for each character, where
      the path leads to, unless no file can be there.  The document is read as the report that has
      been made, in the order of its keys and apart from the time; and from it the file header, the
      program headers, the summary of each section and the symbols are read as they are.
    * If it cannot be made, saving it fails for the same cause, or because the directories of the
      path cannot be created, which comes first.  All files are read as before. -/
theorem save_faithful (store : Store) (path generatedAt now source : String) (file : ElfFile)
    (includeSymbols : Bool) :
    let target := Path.normalize path
    let saved := save store path generatedAt file source includeSymbols
    match value now file source includeSymbols with
    | .ok built => ∃ rest document,
        built = .table (("generated_at", .text now) :: rest) ∧
        Json.read document = some (.table (("generated_at", .text generatedAt) :: rest)) ∧
        (∀ c ∈ document.toList, c.toNat < 0x80) ∧
        Saves store target document saved ∧
        ∃ symbolTables,
          (Json.read document).bind ReportContents.ofReport? = some
            { header := file.header, segments := file.segments
              sections := file.sections.mapIdx SectionSummary.of, symbolTables } ∧
          if includeSymbols then
            ∃ named, symbolTables = some named ∧
              List.Forall₂ (fun s t => t.tableName = s.name ∧ file.symbols s = .ok t.symbols)
                file.symbolTables named
          else symbolTables = none
    | .error cause =>
        (∀ other content, store.read other = .ok content →
          saved.2.read other = .ok content) ∧
        saved.1 = .error (refusal store target cause) := by
  intro target saved
  -- the time does not decide whether the report can be built
  cases hentries : entries file source includeSymbols with
  | error cause =>
    have hvalue (time : String) : value time file source includeSymbols = .error cause := by
      rw [value_eq, hentries]
      rfl
    have htext : text generatedAt file source includeSymbols = .error cause := by
      rw [text, hvalue]
      rfl
    obtain ⟨hkeeps, hfailure⟩ := save_of_error store path htext
    rw [hvalue]
    dsimp only
    exact ⟨fun other content hread => hkeeps.read hread, hfailure⟩
  | ok rest =>
    have hvalue : value now file source includeSymbols =
        .ok (.table (("generated_at", .text now) :: rest)) := by
      rw [value_eq, hentries]
      rfl
    obtain ⟨document, htext, hread, hascii⟩ := exists_document hentries generatedAt
    have hsaved := save_of_ok store path htext hascii
    rw [hvalue]
    dsimp only
    refine ⟨rest, document, rfl, hread, hascii, hsaved, ?_⟩
    rw [hread]
    exact ofReport?_entries hentries generatedAt

/-- A file with a symbol table that links to a section beyond its only one. -/
def strayLink : ElfFile :=
  { header := { elfClass := 2, data := 1 }
    sections := [⟨"\x7f", { type := Abi.sectionSymtab, link := 9 }, #[0x7f]⟩] }

/-- A store whose only file stands where a directory is wanted. -/
def occupied : Store :=
  { files := [(["reports"], #[])] }

/-- A report that cannot be made is refused for its directory, if that cannot be created. -/
theorem not_save_undecodable :
    ¬ ∀ (store : Store) (path generatedAt source : String) (file : ElfFile)
      (includeSymbols : Bool) (cause : DecodeError),
      value generatedAt file source includeSymbols = .error cause →
        (save store path generatedAt file source includeSymbols).1 =
          .error (.undecodable cause) := by
  intro h
  -- the report cannot be built, but what is reported is that its directory cannot be made
  have hfails : (value "" strayLink "" true).toOption = none := by decide +kernel
  have hsave : (save occupied "reports/r.json" "" strayLink "" true).1 =
      .error (.refused ⟨"reports", .exists⟩) := by decide +kernel
  cases hvalue : value "" strayLink "" true with
  | error cause =>
    have hcause := h occupied "reports/r.json" "" "" strayLink true cause hvalue
    rw [hsave] at hcause
    cases hcause
  | ok built =>
    rw [hvalue] at hfails
    cases hfails

end Report

end ElfInspect
