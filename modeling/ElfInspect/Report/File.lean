import ElfInspect.Report
import ElfInspect.Store

namespace ElfInspect

/-!
# Reports in files

`Report.save` writes the report of a file into the store.
-/

/-- Why a report is not saved. -/
inductive SaveFailure
  | refused (cause : PathFault)
  | undecodable (cause : DecodeError)
  deriving Repr, DecidableEq

namespace Report

/-- Writes a report to a path, whose directories are created first.  Answers the path as it is
    usually written, with the new store.  The directories stay, whatever becomes of the report. -/
def save (store : Store) (path : String) (generatedAt : String) (file : ElfFile)
    (source : String) (includeSymbols : Bool) : Except SaveFailure String × Store :=
  let path := Path.normalize path
  match store.makeDirectories (Path.parent path) with
  | (some fault, store) => (.error (.refused fault), store)
  | (none, store) =>
    -- The report is made after its directories, so that they stay if it cannot be made.
    match text generatedAt file source includeSymbols with
    | .error cause => (.error (.undecodable cause), store)
    | .ok document =>
      match store.write path (Utf8.encode document.toList).toArray with
      | .error fault => (.error (.refused ⟨path, fault⟩), store)
      | .ok store => (.ok path, store)

end Report

end ElfInspect
