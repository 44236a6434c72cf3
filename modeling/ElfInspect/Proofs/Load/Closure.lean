import ElfInspect.Config
import ElfInspect.Proofs.Load.Outcome
import Mathlib.Tactic.ByContra

namespace ElfInspect

/-!
# When a load keeps to its own failures

A load that fails should do so for a cause in the input, attributed to the phase that it has
reached.  Whatever the content and the size of the chunks, there is one exception: a section is so
large, and the chunks are so large, that the first read of its content asks for more bytes than a
buffer in memory can represent.  Such a read is not refused as a failure of the input.

* `Load.Run.Closed` — what a load promises of its failures;
* `Stored.Overreaches content chunk` — some section is reached whose first read is too large;
* `Load.closed_iff` — the promise is kept in all other cases, and in no such case.
-/

variable {content : Bytes} {chunk : Int}

/-- If the load fails, then for a cause in the input, and in the phase that it has reached. -/
def Load.Run.Closed (run : Load.Run) : Prop :=
  ∀ failure, run.outcome = .error failure →
    failure.error.isInputFault = true ∧ failure.phase = some run.phase

namespace Stored

/-- The first read of the content asks for more than a buffer in memory can represent. -/
structure Oversized (chunk : Int) (h : SectionHeader) : Prop where
  type_ne : h.type ≠ Abi.sectionNobits
  offset_lt : h.offset < wordLimit
  size_le : wordLimit ≤ h.size
  chunk_le : (wordLimit : Int) ≤ chunk

instance (chunk : Int) (h : SectionHeader) : Decidable (Oversized chunk h) :=
  decidable_of_iff (_ ∧ _ ∧ _ ∧ _)
    ⟨fun ⟨htype, hoffset, hsize, hchunk⟩ => ⟨htype, hoffset, hsize, hchunk⟩,
      fun ⟨htype, hoffset, hsize, hchunk⟩ => ⟨htype, hoffset, hsize, hchunk⟩⟩

/-- All headers can be read, and the contents of the sections before one whose first read is too
    large. -/
def Overreaches (content : Bytes) (chunk : Int) : Prop :=
  Sectioned content ∧ ∃ i < (fileHeader content).shnum,
    (∀ j < i, ContentSpans content (headerAt content j)) ∧ Oversized chunk (headerAt content i)

/-- The content of a section, or why it cannot be read in chunks of a given size. -/
def chunkedData (content : Bytes) (chunk : Int) (h : SectionHeader) : Except DecodeError Bytes :=
  if Oversized chunk h then .error (.misuse .readSize) else sectionData content .memory h

end Stored

/-! ### One section -/

/-- Memory can represent the offsets that fit a word. -/
theorem Medium.memory_offsetFault?_eq_none_iff {offset : Nat} :
    Medium.memory.offsetFault? offset = none ↔ offset < wordLimit := by
  rw [memory_offsetFault?]
  split <;> simp <;> omega

/-- The first request decides whether the content can be asked for in chunks of this size. -/
theorem Yields.readContent_chunked (h : SectionHeader) (hchunk : 1 ≤ chunk) :
    Yields (Device.Holds content .memory) (h.readContent chunk)
      (Stored.chunkedData content chunk h) (Device.Holds content .memory) := by
  unfold Stored.chunkedData
  split
  · -- the seek succeeds, and the first request is the least of two sizes that are too large
    rename_i hover
    rintro d ⟨position, hd⟩
    have hseek : Medium.memory.offsetFault? h.offset = none :=
      Medium.memory_offsetFault?_eq_none_iff.mpr hover.offset_lt
    have hsize := hover.size_le
    have hlimit := hover.chunk_le
    have hpos : 0 < wordLimit := by decide
    have hrequest : Medium.memory.sizeFault? (requestSize (some chunk.toNat) h.size) =
        some .sizeTooWide := by
      have hle : wordLimit ≤ min chunk.toNat h.size := by omega
      exact if_pos hle
    rw [SectionHeader.readContent, ElfInspect.readContent, if_neg hover.type_ne,
      if_neg (by omega)]
    obtain ⟨d', hrun, hd'⟩ := bind_ok (seekTo hseek)
      (f := fun _ => ElfInspect.accumulate (some chunk.toNat) (.contentReadFailed h.offset)
        h.size #[]) (accumulate_tooWide (by omega) hrequest) d hd
    exact ⟨d', hrun, _, hd'⟩
  · -- otherwise the chunk size or the size of the section bounds all requests
    rename_i hover
    refine readContent_of_grants h hchunk fun htype hoffset request hrequest => ?_
    have hsmall : request < wordLimit := by
      by_contra hlarge
      have hle : request ≤ min chunk.toNat h.size := hrequest
      exact hover ⟨htype, Medium.memory_offsetFault?_eq_none_iff.mp hoffset, by omega, by omega⟩
    exact if_neg (by omega)

/-! ### All sections -/

namespace Stored

/-- Without a section that is too large to be read, the size of the chunks makes no difference. -/
theorem mapM_chunkedData (h : Sectioned content) (hreach : ¬ Overreaches content chunk) :
    (headersOf content).mapM (chunkedData content chunk) =
      (headersOf content).mapM (sectionData content .memory) := by
  rw [mapM_headersOf, mapM_headersOf]
  refine (mapM_range_congr fun i hi hbefore => ?_).symm
  have hsmall : ¬ Oversized chunk (headerAt content i) := by
    intro hover
    refine hreach ⟨h, i, hi, fun j hj => ?_, hover⟩
    obtain ⟨data, hdata⟩ := hbefore j hj
    exact (sectionData_eq_ok_iff.mp hdata).1
  rw [chunkedData, if_neg hsmall]

/-- The first section that is too large to be read ends the reading of the contents. -/
theorem mapM_chunkedData_of_oversized {i : Nat} (hi : i < (fileHeader content).shnum)
    (hbefore : ∀ j < i, ContentSpans content (headerAt content j))
    (hover : Oversized chunk (headerAt content i)) :
    (headersOf content).mapM (chunkedData content chunk) = .error (.misuse .readSize) := by
  rw [mapM_headersOf]
  have hfault (k : Nat) (hk : Oversized chunk (headerAt content k)) :
      chunkedData content chunk (headerAt content k) = .error (.misuse .readSize) := by
    rw [chunkedData, if_pos hk]
  rcases all_ok_or_first_error (fun k => chunkedData content chunk (headerAt content k))
    (fileHeader content).shnum with hall | ⟨k, hk, cause, hcause, hok⟩
  · obtain ⟨data, hdata⟩ := hall i hi
    rw [hfault i hover] at hdata
    cases hdata
  · -- the first failure is not behind `i`, and those before `i` are failures of the same kind
    have hki : k ≤ i := by
      by_contra hlt
      obtain ⟨data, hdata⟩ := hok i (by omega)
      rw [hfault i hover] at hdata
      cases hdata
    have hkover : Oversized chunk (headerAt content k) := by
      by_contra hksmall
      rcases Nat.lt_or_eq_of_le hki with hlt | rfl
      · rw [chunkedData, if_neg hksmall, sectionData_of_contentSpans (hbefore k hlt)] at hcause
        cases hcause
      · exact hksmall hover
    exact mapM_range_of_error hk (hfault k hkover) hok

/-- Chunks that do not overreach make no difference. -/
theorem loadWith_chunkedData (hreach : ¬ Overreaches content chunk) :
    loadWith (chunkedData content chunk) content .memory = load content .memory := by
  by_cases h : Sectioned content
  · rw [load, loadWith_of_sectioned _ h, loadWith_of_sectioned _ h, mapM_chunkedData h hreach]
  · -- the load fails before it comes to the contents
    rcases loadable_or_violation content with hloadable | ⟨phase, cause, hviolation⟩
    · exact absurd hloadable.toSectioned h
    · rw [load_of_violation hviolation]
      refine loadWith_of_violation _ hviolation ?_ ?_ <;> rintro rfl
      · cases hviolation with
        | content hsectioned => exact h hsectioned
      · cases hviolation with
        | nameTable hfilled => exact h hfilled.toSectioned
        | name hfilled => exact h hfilled.toSectioned

/-- Chunks that overreach end the load outside of what is attributed to a phase. -/
theorem loadWith_of_overreaches (hreach : Overreaches content chunk) :
    loadWith (chunkedData content chunk) content .memory = .error ⟨.misuse .readSize, none⟩ := by
  obtain ⟨h, i, hi, hbefore, hover⟩ := hreach
  rw [loadWith_of_sectioned _ h, mapM_chunkedData_of_oversized hi hbefore hover, attributed_error,
    error_bind]
  rfl

end Stored

/-! ### Loads -/

/-- A load from memory, in chunks of any size whatever. -/
theorem Load.outcome_run_chunked (content : Bytes) (hchunk : 1 ≤ chunk) :
    (Load.run (.ofBytes content) chunk).outcome =
      Stored.loadWith (Stored.chunkedData content chunk) content .memory := by
  obtain ⟨s, hrun, -⟩ := Yields.pipelineWith
    (fun h => Yields.readContent_chunked h hchunk) { device := .ofBytes content }
    (Device.ofBytes_serves content)
  rw [Load.run, hrun]
  cases Stored.loadWith (Stored.chunkedData content chunk) content .memory <;> rfl

/-- **Error closure.**  A load from memory returns a file or fails for a cause in the input, in the
    phase that it has reached, exactly if it does not come to a section whose first read is too
    large; there it fails for no cause in the input, and in no phase. -/
theorem Load.closed_iff (content : Bytes) {chunk : Int} (hchunk : 1 ≤ chunk) :
    ((Load.run (.ofBytes content) chunk).Closed ↔ ¬ Stored.Overreaches content chunk) ∧
      (Stored.Overreaches content chunk →
        (Load.run (.ofBytes content) chunk).outcome = .error ⟨.misuse .readSize, none⟩) := by
  have houtcome := Load.outcome_run_chunked content hchunk
  have hescape (hreach : Stored.Overreaches content chunk) :
      (Load.run (.ofBytes content) chunk).outcome = .error ⟨.misuse .readSize, none⟩ :=
    houtcome.trans (Stored.loadWith_of_overreaches hreach)
  refine ⟨⟨fun hclosed hreach => ?_, fun hreach failure hfailure => ?_⟩, hescape⟩
  · obtain ⟨hinput, -⟩ := hclosed _ (hescape hreach)
    cases hinput
  · obtain ⟨cause, hcause⟩ := Load.phase_run_of_error _ _ _ hfailure
    rw [houtcome, Stored.loadWith_chunkedData hreach] at hfailure
    obtain ⟨phase, cause', hviolation, hfault⟩ := Stored.load_eq_error_iff.mp hfailure
    -- both phases that the failure is attributed to are those of the same cause
    have hsame : cause = cause' := congrArg LoadFailure.error (hcause.symm.trans hfault)
    have hinput : cause.isInputFault = true := hsame ▸ hviolation.isInputFault
    rw [hcause, DecodeError.inPhase, if_pos hinput]
    exact ⟨hinput, rfl⟩

/-- An image without a large section is loaded in chunks of any size. -/
theorem Load.closed_mixedImage :
    1 ≤ (wordLimit : Int) ∧ (Load.run (.ofBytes mixedImage) wordLimit).Closed := by
  have hchunk : 1 ≤ (wordLimit : Int) := by decide
  have hsizes : ∀ i < (Stored.fileHeader mixedImage).shnum,
      ¬ Stored.Oversized wordLimit (Stored.headerAt mixedImage i) := by decide +kernel
  refine ⟨hchunk, (Load.closed_iff mixedImage hchunk).1.mpr ?_⟩
  rintro ⟨-, i, hi, -, hover⟩
  exact hsizes i hi hover

/-- A 64-bit image of a file header and one section header, which declares a section of the least
    size that no buffer in memory can have. -/
def Load.oversizedImage : Bytes :=
  let e : Encoding := ⟨false, .little⟩
  let header : FileHeader := { shoff := 64, shnum := 1 }
  let sectionHeader : SectionHeader := { type := Abi.sectionProgbits, size := wordLimit }
  (Abi.magic ++ [2, 1, 1] ++ List.replicate 9 0 ++
    (FileHeader.layout e).encode e.order header ++
    (SectionHeader.layout e).encode e.order sectionHeader).toArray

/-- The settings accept a chunk size with which the load of such an image fails for no cause in the
    input. -/
theorem Load.not_closed_oversizedImage :
    (∃ settings, DecoderSettings.ofChunkSize (.integer wordLimit) = .ok settings) ∧
      ¬ (Load.run (.ofBytes oversizedImage) wordLimit).Closed := by
  refine ⟨⟨_, rfl⟩, fun hclosed => ?_⟩
  have hsectioned : Stored.Sectioned oversizedImage := by decide +kernel
  have hover : Stored.Oversized wordLimit (Stored.headerAt oversizedImage 0) := by decide +kernel
  have hreach : Stored.Overreaches oversizedImage wordLimit :=
    ⟨hsectioned, 0, by decide +kernel, nofun, hover⟩
  have houtcome := Load.outcome_run_chunked oversizedImage (show 1 ≤ (wordLimit : Int) by decide)
  rw [Stored.loadWith_of_overreaches hreach] at houtcome
  obtain ⟨hinput, -⟩ := hclosed _ houtcome
  cases hinput

end ElfInspect
