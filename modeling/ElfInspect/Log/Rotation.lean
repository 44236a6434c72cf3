import ElfInspect.Store

namespace ElfInspect

/-!
# Log rotation

A log file does not grow without end.  Before a line would take it to its limit it is moved aside,
and a new file is begun.  Of the files that have been moved aside a number of backups is kept: the
path of each is that of the log file with a number behind it, and the latest has number one.

* `Rotation`: when a file is moved aside, and how many backups are kept;
* `Store.rotate`: moves a file aside.
-/

/-- The limit of a log file in bytes, and the number of its backups.  With a limit of zero, or
    without backups, the file is never moved aside. -/
structure Rotation where
  limit : Nat := 10485760
  backups : Nat := 5
  deriving Repr, DecidableEq, Inhabited

/-- Whether a file is to be moved aside before a line of a number of characters is added to it.  The
    file is measured in bytes, but the line is not. -/
def Rotation.isDue (rotation : Rotation) (size length : Nat) : Bool :=
  0 < rotation.limit && 0 < rotation.backups && rotation.limit ≤ size + length

/-- The path of a backup. -/
def backupPath (path : String) (number : Nat) : String :=
  path ++ "." ++ toString number

namespace Store

/-- The size of a file; one that is still to be created is empty. -/
def fileSize? (store : Store) (path : String) : Option Nat :=
  match store.find path with
  | .ok (_, .file content) => some content.size
  | .ok (_, .absent) => some 0
  | .ok (_, .directory) | .error _ => none

/-- Moves what stands at a path to another path, in place of the file that is there.  It answers
    whether nothing is in the way. -/
def supersede (store : Store) (path target : String) : Bool × Store :=
  let cleared := if store.holds target then store.remove target else .ok store
  match cleared with
  | .error _ => (false, store)
  | .ok store =>
    if store.holds path then
      match store.rename path target with
      -- What has been removed by then is not put back.
      | .error _ => (false, store)
      | .ok store => (true, store)
    else (true, store)

/-- Moves the backups up to a number by one, the last one first. -/
def shiftBackups (store : Store) (path : String) : (number : Nat) → Bool × Store
  | 0 => (true, store)
  | number + 1 =>
    let (done, store) :=
      -- Backups need not be complete: a number that is missing leaves a gap.
      if store.holds (backupPath path (number + 1)) then
        store.supersede (backupPath path (number + 1)) (backupPath path (number + 2))
      else (true, store)
    if done then store.shiftBackups path number else (false, store)

/-- Makes a log file its latest backup, and each backup the one behind it.  The last one is lost.
    It answers whether nothing is in the way. -/
def rotate (store : Store) (path : String) (backups : Nat) : Bool × Store :=
  let (done, store) := store.shiftBackups path (backups - 1)
  if done then store.supersede path (backupPath path 1) else (false, store)

end Store

end ElfInspect
