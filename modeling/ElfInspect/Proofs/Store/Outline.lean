import ElfInspect.Store

namespace ElfInspect

/-!
# The outline of a store

Where a path leads, which directories can be created and which files can be written depends on what
stands at which location, and not on what the files hold.  The outline of a store has the same
directories and the same files, all of them empty, and every operation comes to the same on it.

* `Store.outline`, `Store.Entry.outline` — a store, and what stands in it, without contents;
* `Store.find_outline`, `Store.makeDirectories_outline`, `Store.update_outline` — the operations on
  an outline.
-/

namespace Store

/-- What stands at a location, without the content of a file. -/
def Entry.outline : Entry → Entry
  | .file _ => .file #[]
  | .directory => .directory
  | .absent => .absent

/-- Only directories are outlined as directories. -/
theorem Entry.eq_directory_of_outline {entry : Entry} (h : entry.outline = .directory) :
    entry = .directory := by
  cases entry with
  | directory => rfl
  | file content => cases h
  | absent => cases h

/-- Only files are outlined as files. -/
theorem Entry.exists_of_outline {entry : Entry} {content : Bytes}
    (h : entry.outline = .file content) : ∃ content', entry = .file content' := by
  cases entry with
  | file content' => exact ⟨content', rfl⟩
  | directory => cases h
  | absent => cases h

/-- The store with empty files. -/
def outline (store : Store) : Store :=
  { store with files := store.files.map fun f => (f.1, #[]) }

variable (store : Store)

@[simp] theorem here_outline : store.outline.here = store.here := rfl
@[simp] theorem directories_outline : store.outline.directories = store.directories := rfl

/-- A path begins at the root or here, whatever the files hold. -/
@[simp] theorem start_outline (path : String) : store.outline.start path = store.start path := rfl

/-- What is at a place is outlined there. -/
@[simp]
theorem entry_outline (location : List String) :
    store.outline.entry location = (store.entry location).outline := by
  have hfind : store.outline.files.find? (fun f => f.1 = location) =
      (store.files.find? fun f => f.1 = location).map fun f => (f.1, #[]) := by
    rw [outline, List.find?_map]
    rfl
  unfold entry
  rw [hfind]
  cases store.files.find? fun f => f.1 = location with
  | some f => rfl
  | none =>
    show (if location.isPrefixOf store.here ∨ location ∈ store.directories then Entry.directory
      else .absent) = (if _ then _ else _ : Entry).outline
    rw [apply_ite Entry.outline]
    rfl

/-! ### Paths -/

/-- A way leads to the same place, whatever the files hold. -/
@[simp]
theorem follow_outline (location : List String) (parts : List String) :
    store.outline.follow location parts = store.follow location parts := by
  induction parts generalizing location with
  | nil => rfl
  | cons part rest ih =>
    simp only [follow, entry_outline, ih]
    cases store.entry location <;> rfl

/-- So what is found is outlined. -/
@[simp]
theorem find_outline (path : String) :
    store.outline.find path = (store.find path).map fun found => (found.1, found.2.outline) := by
  simp only [find, start_outline, follow_outline, entry_outline]
  split
  · rfl
  split
  · rfl
  split
  · rfl
  -- the path is as it should be, and the way decides
  cases store.follow (store.start path) (Path.parts path) with
  | error fault => rfl
  | ok location =>
    cases hentry : store.entry location with
    | file content =>
      simp only [Entry.outline, hentry]
      split <;> rfl
    | directory => simp only [Entry.outline, hentry, Except.map]
    | absent => simp only [Entry.outline, hentry, Except.map]

/-- Whether there is a directory does not depend on what the files hold. -/
@[simp]
theorem isDirectory_outline (path : String) :
    store.outline.isDirectory path = store.isDirectory path := by
  unfold isDirectory
  rw [find_outline]
  rcases store.find path with fault | ⟨location, _ | _ | _⟩ <;> rfl

/-! ### Directories -/

/-- Nor does whether one can be made. -/
theorem makeDirectory_outline (path : String) :
    store.outline.makeDirectory path = (store.makeDirectory path).map outline := by
  unfold makeDirectory
  rw [find_outline]
  rcases store.find path with fault | ⟨location, _ | _ | _⟩ <;> rfl

/-- Nor does what is made of a directory that is there already. -/
theorem settle_outline (path : String) (result : Except FileFault Store) :
    store.outline.settle path (result.map outline) =
      (store.settle path result).map id outline := by
  cases result with
  | ok made => rfl
  | error fault =>
    show (if store.outline.isDirectory path then none else some (PathFault.mk path fault),
      store.outline) = _
    rw [isDirectory_outline]
    rfl

/-- Nor does what becomes of all directories on a way. -/
theorem makeParts_outline (root : String) (parts : List String) :
    store.outline.makeParts root parts = (store.makeParts root parts).map id outline := by
  induction parts with
  | nil =>
    simp only [makeParts]
    rw [makeDirectory_outline, settle_outline]
  | cons part above ih =>
    -- the directory itself is tried first, and those above it only if one of them is missing
    have hmake := store.makeDirectory_outline (Path.ofParts root (part :: above).reverse)
    have hsettle (outcome : Except FileFault Store) :=
      store.settle_outline (Path.ofParts root (part :: above).reverse) outcome
    simp only [makeParts]
    rw [hmake]
    rcases hfirst : store.makeDirectory (Path.ofParts root (part :: above).reverse) with
      fault | made
    · cases fault with
      | missing =>
        simp only [Except.map]
        rw [ih]
        rcases store.makeParts root above with ⟨_ | fault, made⟩
        · simp only [Prod.map, id]
          rw [makeDirectory_outline, settle_outline]
          rfl
        · rfl
      | «exists» => exact hsettle (.error .exists)
      | notDirectory => exact hsettle (.error .notDirectory)
      | isDirectory => exact hsettle (.error .isDirectory)
      | nameTooLong => exact hsettle (.error .nameTooLong)
      | nulInPath => exact hsettle (.error .nulInPath)
    · exact hsettle (.ok made)

/-- Nor of those that lead to a path. -/
theorem makeDirectories_outline (path : String) :
    store.outline.makeDirectories path = (store.makeDirectories path).map id outline :=
  store.makeParts_outline _ _

/-! ### Files -/

/-- Putting a file somewhere is outlined by putting an empty one there. -/
theorem put_outline (location : List String) (content : Bytes) :
    (store.put location content).outline = store.outline.put location #[] := by
  -- there is a file at the place just if there is one in the outline
  have hany : (store.outline.files.any fun f => f.1 = location) =
      store.files.any fun f => f.1 = location := by
    rw [outline, List.any_map]
    rfl
  unfold put
  rw [hany]
  split
  · simp only [outline, List.map_map, Store.mk.injEq, and_true]
    refine List.map_congr_left fun f _ => ?_
    simp only [Function.comp_apply]
    split <;> rfl
  · simp only [outline, List.map_append, List.map_cons, List.map_nil]

/-- So is changing one, whatever is made of its content. -/
theorem update_outline (path : String) (change : Bytes → Bytes) :
    (store.update path change).map outline = store.outline.update path fun _ => #[] := by
  unfold update
  rw [find_outline]
  -- the path leads to a file, to a directory, or to a place where there is nothing yet
  rcases store.find path with fault | ⟨location, content | _ | _⟩
  · rfl
  · exact congrArg Except.ok (store.put_outline location _)
  · rfl
  · simp only [Entry.outline, entry_outline, Except.map]
    by_cases hpath : Path.namesDirectory path = true
    · rw [if_pos hpath, if_pos hpath]
    · rw [if_neg hpath, if_neg hpath]
      cases store.entry location.dropLast with
      | file content => rfl
      | directory => exact congrArg Except.ok (store.put_outline location _)
      | absent => rfl

end Store

end ElfInspect
