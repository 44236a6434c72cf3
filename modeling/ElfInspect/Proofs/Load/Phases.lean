import ElfInspect.Load

namespace ElfInspect

/-!
# Loads as lists of stages

The phases of a load differ in what they decode and in what they use of the phases before them, but
all of them are run alike.  Hence a load is a fold over a list of stages that extends a draft of the
file, between a first note and the notes at its end.

* `Load.Draft` — what the phases so far have decoded, with `Load.Draft.file` the file it makes;
* `Load.Stage`, `Load.Stage.run` — a phase with its decoder, and how it is run;
* `Load.stages chunk` — the phases of a load in order;
* `Load.pipeline_eq` — a load is the fold over its stages.
-/

namespace Load

/-- What the phases so far have decoded. -/
structure Draft where
  ident : Bytes := #[]
  header : FileHeader := {}
  segments : List ProgramHeader := []
  headers : List SectionHeader := []
  contents : List Bytes := []
  names : List String := []

/-- The file that a complete draft makes. -/
def Draft.file (draft : Draft) : ElfFile :=
  { header := draft.header
    segments := draft.segments
    sections := assemble draft.names draft.headers draft.contents }

/-- A phase: its decoder, which extends the draft, and what is noted once it has succeeded. -/
structure Stage where
  phase : Phase
  step : Draft → Decode Draft
  remarks : Draft → List LogAction

/-- Runs a phase. -/
def Stage.run (feedback : Feedback) (stage : Stage) (draft : Draft) : Loading Draft := do
  enter stage.phase
  let draft ← perform feedback (stage.step draft)
  (stage.remarks draft).forM note
  return draft

/-- The phases of a load, in order. -/
def stages (chunk : Int) : List Stage :=
  [{ phase := .validateIdent
     step draft := (fun ident => { draft with ident }) <$> readIdent
     remarks _ := [] },
   { phase := .decodeHeader
     step draft := (fun header => { draft with header }) <$> FileHeader.read draft.ident
     remarks draft := [.emit .debug (summary draft.header)] },
   { phase := .decodeSegments
     step draft :=
       (fun segments => { draft with segments }) <$>
         readTable draft.header.phoff draft.header.phnum
           (ProgramHeader.read draft.header.encoding)
     remarks _ := [] },
   { phase := .decodeSectionHeaders
     step draft :=
       (fun headers => { draft with headers }) <$>
         readTable draft.header.shoff draft.header.shnum
           (SectionHeader.read draft.header.encoding)
     remarks _ := [] },
   { phase := .loadSectionContent
     step draft := (fun contents => { draft with contents }) <$> readContents chunk draft.headers
     remarks _ := [] },
   { phase := .resolveSectionNames
     step draft :=
       (fun names => { draft with names }) <$>
         ofExcept (sectionNames draft.header draft.headers draft.contents)
     remarks _ := [] }]

/-- Runs phases one after another. -/
def runStages (feedback : Feedback) (stages : List Stage) (draft : Draft) : Loading Draft :=
  stages.foldlM (fun draft stage => stage.run feedback draft) draft

/-- Stages run one after another. -/
theorem runStages_cons (feedback : Feedback) (stage : Stage) (rest : List Stage) (draft : Draft) :
    runStages feedback (stage :: rest) draft =
      stage.run feedback draft >>= runStages feedback rest :=
  List.foldlM_cons ..

/-- What is made of the result of a step does not show in the journal. -/
theorem perform_map {α β : Type} (feedback : Feedback) (f : α → β) (step : Decode α) :
    perform feedback (f <$> step) = f <$> perform feedback step := by
  funext s
  show perform feedback (EStateM.map f step) s = EStateM.map f (perform feedback step) s
  simp only [perform, EStateM.map]
  cases step (feedback s.journal s.device) <;> rfl

/-- **Loads as folds.**  A load runs its phases one after another, between a first note and the
    notes at its end. -/
theorem pipeline_eq (chunk : Int) (feedback : Feedback) :
    pipeline chunk feedback = do
      note (.emit .debug "Started: ELF load")
      let draft ← runStages feedback (stages chunk) {}
      enter .ready
      note (.emitTimed .info "ELF load")
      note (.emit .info
        s!"Loaded ELF: {draft.segments.length} segments, {draft.file.sections.length} sections")
      return draft.file := by
  simp only [pipeline, runStages, stages, List.foldlM_cons, List.foldlM_nil, Stage.run, perform_map,
    bind_assoc, pure_bind, bind_map_left]
  rfl

end Load

end ElfInspect
