import ElfInspect.Proofs.Store.Outline

namespace ElfInspect

/-!
# What operations on a store leave alone

No operation on a store takes a directory away, and writing changes one file only.

* `Store.fileAt` — the content of the file at a location;
* `Store.Keeps changed` — a store is left with all its directories, and with all its files except
  those at some locations; `Store.keeps_makeDirectories` and `Store.keeps_put` for the operations;
* `Store.Rewrites changed` — a store differs from another only in what files at some locations hold;
* `Store.exists_update` — a file that can be changed in one way can be changed in any;
* `Store.destination?` — where a file goes that is written once the directories above it have been
  created, `Store.update_destination` what that comes to, and `Store.destination?_congr`, that the
  contents of files make no difference to it.
-/

namespace Store

variable {store later last : Store} {location other : List String} {content : Bytes}
  {changed : List (List String)} {path : String}

/-! ### Files at locations -/

/-- The content of the file at a location. -/
def fileAt (store : Store) (location : List String) : Option Bytes :=
  (store.files.find? fun f => f.1 = location).map (·.2)

/-- What has a content is a file. -/
theorem entry_of_fileAt (h : store.fileAt location = some content) :
    store.entry location = .file content := by
  obtain ⟨f, hf, rfl⟩ := Option.map_eq_some_iff.mp h
  rw [entry, hf]

/-- A file has its content. -/
theorem fileAt_of_entry (h : store.entry location = .file content) :
    store.fileAt location = some content := by
  unfold entry at h
  split at h
  · rename_i hf
    cases h
    rw [fileAt, hf, Option.map_some]
  · split at h <;> cases h

/-- What stands where no file does. -/
theorem entry_of_fileAt_none (h : store.fileAt location = none) :
    store.entry location =
      if location.isPrefixOf store.here ∨ location ∈ store.directories then .directory
      else .absent := by
  rw [entry, Option.map_eq_none_iff.mp h]

/-- A directory has none. -/
theorem fileAt_of_directory (h : store.entry location = .directory) :
    store.fileAt location = none := by
  cases hfile : store.fileAt location with
  | none => rfl
  | some content =>
    rw [entry_of_fileAt hfile] at h
    cases h

/-- Putting a file somewhere does not lead elsewhere. -/
@[simp]
theorem here_put (store : Store) (location : List String) (content : Bytes) :
    (store.put location content).here = store.here := by
  unfold put
  split <;> rfl

/-- Nor does it create directories. -/
@[simp]
theorem directories_put (store : Store) (location : List String) (content : Bytes) :
    (store.put location content).directories = store.directories := by
  unfold put
  split <;> rfl

/-- A file that is put at a place is found there, and all others are as before. -/
theorem fileAt_put (store : Store) (location other : List String) (content : Bytes) :
    (store.put location content).fileAt other =
      if other = location then some content else store.fileAt other := by
  unfold put
  rw [← List.isSome_find?]
  cases hplace : store.files.find? fun f => f.1 = location with
  | none =>
    rw [if_neg (by simp)]
    simp only [fileAt, List.find?_append, List.find?_singleton]
    by_cases heq : other = location
    · rw [heq, hplace]
      simp
    · have hne : ¬ location = other := fun h => heq h.symm
      simp [heq, hne]
  | some place =>
    -- each file keeps its place in the list
    have hsame : ((fun f : List String × Bytes => decide (f.1 = other)) ∘
        fun f => if f.1 = location then (location, content) else f) =
          fun f => decide (f.1 = other) := by
      funext f
      simp only [Function.comp_apply]
      split <;> simp_all
    rw [if_pos (by simp)]
    simp only [fileAt, List.find?_map, hsame, Option.map_map]
    by_cases heq : other = location
    · have hlocation : place.1 = location := by simpa using List.find?_some hplace
      simp [heq, hplace, hlocation]
    · rw [if_neg heq]
      refine Option.map_congr fun f hf => ?_
      have hother : f.1 = other := by simpa using List.find?_some hf
      simp [hother, heq]

/-- What stands at other locations than that of a file put into the store. -/
theorem entry_put (h : other ≠ location) :
    (store.put location content).entry other = store.entry other := by
  have hfile := store.fileAt_put location other content
  rw [if_neg h] at hfile
  -- only the files are changed, and only at the one place
  cases hat : store.fileAt other with
  | some found => rw [entry_of_fileAt hat, entry_of_fileAt (hfile.trans hat)]
  | none =>
    rw [entry_of_fileAt_none hat, entry_of_fileAt_none (hfile.trans hat), here_put, directories_put]

/-! ### What is kept -/

/-- All directories are left, and all files except those at some locations. -/
structure Keeps (changed : List (List String)) (store later : Store) : Prop where
  here : later.here = store.here
  directory : ∀ location, store.entry location = .directory → later.entry location = .directory
  fileAt : ∀ location ∉ changed, later.fileAt location = store.fileAt location

/-- Nothing has been changed. -/
theorem Keeps.refl (store : Store) : Keeps changed store store :=
  ⟨rfl, fun _ h => h, fun _ _ => rfl⟩

/-- What two steps leave alone, both leave alone. -/
theorem Keeps.trans (h : Keeps changed store later) (h' : Keeps changed later last) :
    Keeps changed store last where
  here := h'.here.trans h.here
  directory location hentry := h'.directory location (h.directory location hentry)
  fileAt location hnot := (h'.fileAt location hnot).trans (h.fileAt location hnot)

/-- More may be said to have changed. -/
theorem Keeps.mono (h : Keeps changed store later) {more : List (List String)}
    (hmore : changed ⊆ more) : Keeps more store later :=
  { h with fileAt := fun location hnot => h.fileAt location fun hmem => hnot (hmore hmem) }

/-- Creating directories leaves all files as they are. -/
theorem keeps_of_files (hhere : later.here = store.here) (hfiles : later.files = store.files)
    (hdirectories : store.directories ⊆ later.directories) : Keeps [] store later := by
  have hat (location : List String) : later.fileAt location = store.fileAt location := by
    rw [Store.fileAt, hfiles, Store.fileAt]
  refine ⟨hhere, fun location hentry => ?_, fun location _ => hat location⟩
  have hnone := fileAt_of_directory hentry
  rw [entry_of_fileAt_none hnone] at hentry
  rw [entry_of_fileAt_none ((hat location).trans hnone), hhere]
  split at hentry
  · rename_i h
    exact if_pos (h.imp_right fun hmem => hdirectories hmem)
  · cases hentry

/-- Making a directory changes no file. -/
theorem keeps_makeDirectory (h : store.makeDirectory path = .ok later) : Keeps [] store later := by
  unfold makeDirectory at h
  split at h
  · cases h
  · cases h
    exact keeps_of_files rfl rfl fun _ hmem => List.mem_append_left _ hmem
  · cases h

/-- Nor does finding that it is there already. -/
theorem keeps_settle (result : Except FileFault Store)
    (h : ∀ later, result = .ok later → Keeps [] store later) :
    Keeps [] store (store.settle path result).2 := by
  cases result with
  | ok later => exact h later rfl
  | error fault => exact .refl store

/-- Nor do all directories on a way. -/
theorem keeps_makeParts (store : Store) (root : String) (parts : List String) :
    Keeps [] store (store.makeParts root parts).2 := by
  induction parts with
  | nil => exact keeps_settle _ fun _ => keeps_makeDirectory
  | cons part above ih =>
    simp only [makeParts]
    split
    · -- those above come first, and the directory is tried again in what they leave behind
      rcases hmade : store.makeParts root above with ⟨_ | fault, made⟩
      · rw [hmade] at ih
        exact ih.trans (keeps_settle _ fun _ => keeps_makeDirectory)
      · rw [hmade] at ih
        exact ih
    · exact keeps_settle _ fun _ => keeps_makeDirectory

/-- Nor do those that lead to a path. -/
theorem keeps_makeDirectories (store : Store) (path : String) :
    Keeps [] store (store.makeDirectories path).2 :=
  keeps_makeParts store _ _

/-- A file takes the place of no directory. -/
theorem keeps_put (h : store.entry location ≠ .directory) :
    Keeps [location] store (store.put location content) where
  here := store.here_put location content
  directory other hentry := by
    have hne : other ≠ location := fun heq => h (heq ▸ hentry)
    rw [entry_put hne, hentry]
  fileAt other hnot := by
    rw [fileAt_put, if_neg (by simpa using hnot)]

/-! ### Paths -/

/-- What it takes for a path to lead somewhere. -/
theorem find_eq_ok_iff {entry : Entry} :
    store.find path = .ok (location, entry) ↔
      (path.toList.contains '\x00' = false ∧ path ≠ "" ∧ path.utf8ByteSize ≤ Path.longestPath) ∧
      store.follow (store.start path) (Path.parts path) = .ok location ∧
      store.entry location = entry ∧
      ∀ content, entry = .file content → Path.namesDirectory path = false := by
  constructor
  · intro h
    unfold find at h
    split at h
    · cases h
    rename_i hnul
    split at h
    · cases h
    rename_i hempty
    split at h
    · cases h
    rename_i hlong
    refine ⟨⟨by simpa using hnul, hempty, by omega⟩, ?_⟩
    split at h
    · cases h
    rename_i target hfollow
    split at h
    · rename_i content hentry
      split at h
      · cases h
      · rename_i hpath
        cases h
        exact ⟨hfollow, hentry, fun _ _ => by simpa using hpath⟩
    · rename_i hentry
      cases h
      exact ⟨hfollow, rfl, fun content hfile => absurd hfile (hentry content)⟩
  · rintro ⟨⟨hnul, hempty, hlong⟩, hfollow, rfl, hnames⟩
    unfold find
    rw [if_neg (by simpa using hnul), if_neg hempty, if_neg (by omega), hfollow]
    -- what is found may be a file, a directory or nothing, and only a file cannot have a slash
    -- behind it
    cases hentry : store.entry location with
    | file content => simp [hentry, hnames content hentry]
    | directory => simp [hentry]
    | absent => simp [hentry]

/-- A path that can be followed still leads to the same location. -/
theorem Keeps.follow (h : Keeps changed store later) {start : List String} {parts : List String}
    (hfollow : store.follow start parts = .ok location) :
    later.follow start parts = .ok location := by
  induction parts generalizing start with
  | nil => exact hfollow
  | cons part rest ih =>
    simp only [Store.follow] at hfollow ⊢
    cases hentry : store.entry start with
    | file content =>
      rw [hentry] at hfollow
      cases hfollow
    | absent =>
      rw [hentry] at hfollow
      cases hfollow
    | directory =>
      -- each part is followed from a directory, and directories stay
      rw [hentry] at hfollow
      rw [h.directory start hentry]
      dsimp only at hfollow ⊢
      split at hfollow
      · rename_i hup
        rw [if_pos hup]
        exact ih hfollow
      · rename_i hup
        rw [if_neg hup]
        split at hfollow
        · cases hfollow
        · rename_i hlong
          rw [if_neg hlong]
          exact ih hfollow

/-- A path that leads to what can be a file leads to the file that stands there later. -/
theorem Keeps.find (h : Keeps changed store later) {entry : Entry}
    (hfind : store.find path = .ok (location, entry)) (hpath : Path.namesDirectory path = false)
    (hfile : later.fileAt location = some content) :
    later.find path = .ok (location, .file content) := by
  obtain ⟨hvalid, hfollow, -⟩ := find_eq_ok_iff.mp hfind
  have hstart : later.start path = store.start path := by rw [start, start, h.here]
  refine find_eq_ok_iff.mpr ⟨hvalid, ?_, entry_of_fileAt hfile, fun _ _ => hpath⟩
  rw [hstart]
  exact h.follow hfollow

/-- A path to a file that has not been changed still leads to it. -/
theorem Keeps.find_file (h : Keeps changed store later)
    (hfind : store.find path = .ok (location, .file content)) (hnot : location ∉ changed) :
    later.find path = .ok (location, .file content) := by
  obtain ⟨-, -, hentry, hnames⟩ := find_eq_ok_iff.mp hfind
  exact h.find hfind (hnames content rfl)
    ((h.fileAt location hnot).trans (fileAt_of_entry hentry))

/-! ### Contents -/

/-- Only what the files at some locations hold is different. -/
structure Rewrites (changed : List (List String)) (store later : Store) : Prop where
  outline : later.outline = store.outline
  fileAt : ∀ location ∉ changed, later.fileAt location = store.fileAt location

namespace Rewrites

/-- Nothing has been rewritten. -/
theorem refl (store : Store) : Rewrites changed store store :=
  ⟨rfl, fun _ _ => rfl⟩

/-- What two steps rewrite, both rewrite. -/
theorem trans (h : Rewrites changed store later) (h' : Rewrites changed later last) :
    Rewrites changed store last where
  outline := h'.outline.trans h.outline
  fileAt location hnot := (h'.fileAt location hnot).trans (h.fileAt location hnot)

/-- A file that is rewritten is a file still. -/
theorem entry (h : Rewrites changed store later) (location : List String) :
    (later.entry location).outline = (store.entry location).outline := by
  rw [← entry_outline, h.outline, entry_outline]

/-- Rewriting files is one way of changing them. -/
theorem keeps (h : Rewrites changed store later) : Keeps changed store later where
  here := by rw [← here_outline, h.outline, here_outline]
  directory location hentry :=
    Entry.eq_directory_of_outline ((h.entry location).trans (by rw [hentry]; rfl))
  fileAt := h.fileAt

/-- A path to a file still leads to it, whatever it holds now. -/
theorem exists_find (h : Rewrites changed store later)
    (hfind : store.find path = .ok (location, .file content)) :
    ∃ content', later.find path = .ok (location, .file content') := by
  obtain ⟨-, -, hentry, hnames⟩ := find_eq_ok_iff.mp hfind
  have hsame : (later.entry location).outline = .file #[] :=
    (h.entry location).trans (by rw [hentry]; rfl)
  obtain ⟨content', hlater⟩ := Entry.exists_of_outline hsame
  exact ⟨content', h.keeps.find hfind (hnames content rfl) (fileAt_of_entry hlater)⟩

end Rewrites

/-- A file that takes the place of another changes what is there and nothing else. -/
theorem rewrites_put (h : store.fileAt location = some content) (content' : Bytes) :
    Rewrites [location] store (store.put location content') where
  outline := by
    -- the file is there, so that its content is replaced where it stands
    have hany : (store.outline.files.any fun f => f.1 = location) = true := by
      obtain ⟨f, hf, -⟩ := Option.map_eq_some_iff.mp h
      rw [outline, List.any_map, Function.comp_def, ← List.isSome_find?, hf, Option.isSome_some]
    rw [put_outline, put, if_pos hany]
    simp only [outline, List.map_map, Store.mk.injEq, and_true]
    refine List.map_congr_left fun f _ => ?_
    simp only [Function.comp_apply]
    split
    · rename_i heq
      rw [heq]
    · rfl
  fileAt other hnot := by
    rw [fileAt_put, if_neg (by simpa using hnot)]

/-! ### Writing -/

/-- Where a file can be changed in one way it can be changed in any. -/
theorem exists_update {change : Bytes → Bytes} (h : store.update path change = .ok later) :
    ∃ location entry, store.find path = .ok (location, entry) ∧ entry ≠ .directory ∧
      Path.namesDirectory path = false ∧
      ∀ change, store.update path change =
        .ok (store.put location (change ((store.fileAt location).getD #[]))) := by
  unfold update at h
  cases hfind : store.find path with
  | error fault =>
    rw [hfind] at h
    cases h
  | ok found =>
    obtain ⟨location, entry⟩ := found
    obtain ⟨-, -, hentry, hnames⟩ := find_eq_ok_iff.mp hfind
    refine ⟨location, entry, rfl, ?_⟩
    rw [hfind] at h
    cases entry with
    | directory => cases h
    | file content =>
      refine ⟨nofun, hnames content rfl, fun change => ?_⟩
      simp only [update, hfind, fileAt_of_entry hentry, Option.getD_some]
    | absent =>
      have hnone : store.fileAt location = none := by
        cases hfile : store.fileAt location with
        | none => rfl
        | some content =>
          rw [entry_of_fileAt hfile] at hentry
          cases hentry
      -- a vacant location counts as empty, if its directory exists
      dsimp only at h
      split at h
      · cases h
      · rename_i hpath
        refine ⟨nofun, by simpa using hpath, fun change => ?_⟩
        simp only [update, hfind, if_neg hpath, hnone, Option.getD_none]
        cases hparent : store.entry location.dropLast with
        | directory => rfl
        | file content =>
          rw [hparent] at h
          cases h
        | absent =>
          rw [hparent] at h
          cases h

/-- Where a file goes that is written to a path once the directories above it have been created, if
    it can be. -/
def destination? (store : Store) (path : String) : Option (List String) :=
  match store.makeDirectories (Path.parent path) with
  | (some _, _) => none
  | (none, made) =>
    match made.find path, made.write path #[] with
    | .ok (location, _), .ok _ => some location
    | _, _ => none

/-- A path leads to a place if its directories can be made and something can be written there. -/
theorem destination?_eq_some_iff :
    store.destination? path = some location ↔ ∃ made entry written,
      store.makeDirectories (Path.parent path) = (none, made) ∧
      made.find path = .ok (location, entry) ∧ made.write path #[] = .ok written := by
  unfold destination?
  rcases store.makeDirectories (Path.parent path) with ⟨_ | fault, made⟩
  · dsimp only
    constructor
    · intro h
      split at h
      · rename_i target entry written hfind hwrite
        cases h
        exact ⟨made, entry, written, rfl, hfind, hwrite⟩
      · cases h
    · rintro ⟨_, entry, written, ⟨⟩, hfind, hwrite⟩
      rw [hfind, hwrite]
  · simp

/-- **Destinations.**  The directories above the path can be created, and after that any change can
    be made to the file at the location. -/
theorem update_destination (h : store.destination? path = some location) :
    ∃ made, store.makeDirectories (Path.parent path) = (none, made) ∧ Keeps [] store made ∧
      ∀ change, ∃ later,
        made.update path change = .ok later ∧ Keeps [location] store later ∧
        later.fileAt location = some (change ((store.fileAt location).getD #[])) ∧
        later.find path =
          .ok (location, .file (change ((store.fileAt location).getD #[]))) := by
  obtain ⟨made, found, written, hmade, hfound, hwrite⟩ := destination?_eq_some_iff.mp h
  have hkeeps := store.keeps_makeDirectories (Path.parent path)
  rw [hmade] at hkeeps
  refine ⟨made, hmade, hkeeps, fun change => ?_⟩
  -- that an empty file can be written there is what allows any other change
  obtain ⟨target, entry, hfind, hentry, hpath, hupdate⟩ := exists_update hwrite
  obtain rfl : target = location := by
    rw [hfound] at hfind
    cases hfind
    rfl
  have hsame : made.fileAt target = store.fileAt target := hkeeps.fileAt target (by simp)
  have hput : Keeps [target] made (made.put target (change ((made.fileAt target).getD #[]))) :=
    keeps_put ((find_eq_ok_iff.mp hfind).2.2.1 ▸ hentry)
  have hfile : (made.put target (change ((made.fileAt target).getD #[]))).fileAt target =
      some (change ((store.fileAt target).getD #[])) := by
    rw [fileAt_put, if_pos rfl, hsame]
  refine ⟨_, hupdate change, (hkeeps.mono (List.nil_subset _)).trans hput, hfile, ?_⟩
  exact hput.find hfind hpath hfile

/-- The contents of files make no difference to where files go. -/
theorem destination?_outline (store : Store) (path : String) :
    store.outline.destination? path = store.destination? path := by
  unfold destination?
  rw [makeDirectories_outline]
  rcases store.makeDirectories (Path.parent path) with ⟨_ | fault, made⟩
  · have hwrite : made.outline.write path #[] = (made.write path #[]).map outline :=
      (made.update_outline path fun _ => #[]).symm
    simp only [Prod.map, id]
    rw [find_outline, hwrite]
    rcases made.find path with fault | ⟨location, entry⟩
    · rfl
    · cases made.write path #[] <;> rfl
  · rfl

/-- Where a path leads to does not depend on what the files hold. -/
theorem destination?_congr (h : later.outline = store.outline) :
    later.destination? path = store.destination? path := by
  rw [← destination?_outline, h, destination?_outline]

end Store

end ElfInspect
