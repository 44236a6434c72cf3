import ElfInspect.Proofs.Store.Frames
import Mathlib.Data.List.Find

namespace ElfInspect

/-!
# Files that take each other's places

Some operations on a store remove files or give them other names.  As long as they are about a few
places at which files may stand, and nothing else, they leave everything else alone: no path that
leads past these places leads anywhere else afterwards.

* `Store.Leaves places` — at these places there are files or nothing, and nothing lies below them;
* `Store.Rearranges places` — a store differs from another only in what files there are at some
  places, and what they hold;
* `Store.Leaves.put`, `Store.Leaves.append`, `Store.Leaves.remove`, `Store.Leaves.rename` — the
  operations that rearrange files.
-/

namespace Store

variable {store later last : Store} {location : List String} {places : List (List String)}
  {path target : String}

/-! ### Places for files -/

/-- Nothing stands at a location but a file, and nothing lies below it. -/
structure IsLeaf (store : Store) (location : List String) : Prop where
  file : ∀ f ∈ store.files, location <+: f.1 → f.1 = location
  directory : ∀ d ∈ store.directories, ¬ location <+: d
  here : ¬ location <+: store.here

/-- At some places there are files or nothing, and none of the places lies below another. -/
structure Leaves (places : List (List String)) (store : Store) : Prop where
  leaf : ∀ place ∈ places, store.IsLeaf place
  apart : ∀ place ∈ places, ∀ other ∈ places, place <+: other → place = other

/-- No directory stands at a leaf. -/
theorem IsLeaf.entry_ne_directory (h : store.IsLeaf location) :
    store.entry location ≠ .directory := by
  intro hentry
  rw [entry_of_fileAt_none (fileAt_of_directory hentry)] at hentry
  split at hentry
  · rename_i hdirectory
    rcases hdirectory with hhere | hmem
    · exact h.here (List.isPrefixOf_iff_prefix.mp hhere)
    · exact h.directory location hmem (List.prefix_refl location)
  · cases hentry

/-- The store differs from another only in the files at some places, which may still be such. -/
structure Rearranges (places : List (List String)) (store later : Store) : Prop where
  here : later.here = store.here
  directories : later.directories = store.directories
  fileAt : ∀ location ∉ places, later.fileAt location = store.fileAt location
  leaves : Leaves places later

namespace Rearranges

/-- Nothing has been rearranged. -/
theorem refl (h : Leaves places store) : Rearranges places store store :=
  ⟨rfl, rfl, fun _ _ => rfl, h⟩

/-- What two steps rearrange, both rearrange. -/
theorem trans (h : Rearranges places store later) (h' : Rearranges places later last) :
    Rearranges places store last where
  here := h'.here.trans h.here
  directories := h'.directories.trans h.directories
  fileAt location hnot := (h'.fileAt location hnot).trans (h.fileAt location hnot)
  leaves := h'.leaves

/-- What stands elsewhere stands there still. -/
theorem entry (h : Rearranges places store later) (hnot : location ∉ places) :
    later.entry location = store.entry location := by
  have hfile := h.fileAt location hnot
  cases hat : store.fileAt location with
  | some content => rw [entry_of_fileAt hat, entry_of_fileAt (hfile.trans hat)]
  | none =>
    rw [entry_of_fileAt_none hat, entry_of_fileAt_none (hfile.trans hat), h.here, h.directories]

/-- Directories are where they were. -/
theorem entry_eq_directory_iff (hstore : Leaves places store) (h : Rearranges places store later)
    (location : List String) :
    later.entry location = .directory ↔ store.entry location = .directory := by
  by_cases hmem : location ∈ places
  · exact iff_of_false (h.leaves.leaf location hmem).entry_ne_directory
      (hstore.leaf location hmem).entry_ne_directory
  · rw [h.entry hmem]

/-- All else is kept. -/
theorem keeps (hstore : Leaves places store) (h : Rearranges places store later) :
    Keeps places store later :=
  ⟨h.here, fun location => (h.entry_eq_directory_iff hstore location).mpr, h.fileAt⟩

/-- Nor has anything else been there only later. -/
theorem keeps_back (hstore : Leaves places store) (h : Rearranges places store later) :
    Keeps places later store :=
  ⟨h.here.symm, fun location => (h.entry_eq_directory_iff hstore location).mp,
    fun location hnot => (h.fileAt location hnot).symm⟩

end Rearranges

/-! ### Paths -/

/-- Wherever a path leads, it is to one of some places. -/
def LeadsInto (places : List (List String)) (store : Store) (path : String) : Prop :=
  ∀ location entry, store.find path = .ok (location, entry) → location ∈ places

/-- That is so before and after files have been rearranged. -/
theorem LeadsInto.rearranged (hpath : LeadsInto places store path) (hstore : Leaves places store)
    (h : Rearranges places store later) : LeadsInto places later path := by
  intro location entry hfind
  obtain ⟨hvalid, hfollow, hentry, hnames⟩ := find_eq_ok_iff.mp hfind
  -- directories are the same, and so is the way
  have hkeeps := h.keeps_back hstore
  have hstart : store.start path = later.start path := by rw [start, start, hkeeps.here]
  have hback : store.follow (store.start path) (Path.parts path) = .ok location := by
    rw [hstart]
    exact hkeeps.follow hfollow
  by_cases hmem : location ∈ places
  · exact hmem
  · refine hpath location (store.entry location) (find_eq_ok_iff.mpr ⟨hvalid, hback, rfl, ?_⟩)
    intro content hcontent
    exact hnames content (hentry.symm.trans ((h.entry hmem).trans hcontent))

/-! ### Operations -/

namespace Leaves

/-- New files do no harm where files may stand. -/
theorem of_files (h : Leaves places store) (hhere : later.here = store.here)
    (hdirectories : later.directories = store.directories)
    (hfiles : ∀ f ∈ later.files, f.1 ∈ places ∨ ∃ g ∈ store.files, g.1 = f.1) :
    Leaves places later where
  leaf place hmem := by
    obtain ⟨hfile, hdirectory, hnot⟩ := h.leaf place hmem
    refine ⟨fun f hf hprefix => ?_, hdirectories ▸ hdirectory, hhere ▸ hnot⟩
    rcases hfiles f hf with hplace | ⟨g, hg, heq⟩
    · exact (h.apart place hmem f.1 hplace hprefix).symm
    · exact heq ▸ hfile g hg (heq ▸ hprefix)
  apart := h.apart

/-- A file may be put at such a place. -/
theorem put (h : Leaves places store) (hplace : location ∈ places) (content : Bytes) :
    Rearranges places store (store.put location content) where
  here := store.here_put location content
  directories := store.directories_put location content
  fileAt other hnot := by
    have hne : other ≠ location := fun heq => hnot (heq ▸ hplace)
    rw [fileAt_put, if_neg hne]
  leaves := by
    refine h.of_files (store.here_put _ _) (store.directories_put _ _) fun f hf => ?_
    -- the file is one that stood there, or else the one that is put
    unfold Store.put at hf
    split at hf
    · obtain ⟨g, hg, rfl⟩ := List.mem_map.mp hf
      split
      · exact .inl hplace
      · exact .inr ⟨g, hg, rfl⟩
    · rcases List.mem_append.mp hf with hold | hnew
      · exact .inr ⟨f, hold, rfl⟩
      · rw [List.mem_singleton.mp hnew]
        exact .inl hplace

/-- A file that is added to stands at one of the places. -/
theorem append (h : Leaves places store) (hpath : LeadsInto places store path) {content : Bytes}
    (happend : store.append path content = .ok later) : Rearranges places store later := by
  obtain ⟨location, entry, hfind, -, -, hupdate⟩ := exists_update happend
  have hlater : store.append path content = .ok (store.put location _) := hupdate (· ++ content)
  rw [happend] at hlater
  cases hlater
  exact h.put (hpath location entry hfind) _

/-- Removing a file takes it away from its place. -/
theorem remove (h : Leaves places store) (hpath : LeadsInto places store path)
    (hremove : store.remove path = .ok later) : Rearranges places store later := by
  unfold Store.remove at hremove
  rcases hfind : store.find path with fault | ⟨location, content | _ | _⟩
  · rw [hfind] at hremove
    cases hremove
  · rw [hfind] at hremove
    cases hremove
    refine ⟨rfl, rfl, fun other hnot => ?_, h.of_files rfl rfl fun f hf =>
      .inr ⟨f, (List.mem_filter.mp hf).1, rfl⟩⟩
    have hne : other ≠ location := fun heq => hnot (heq ▸ hpath location _ hfind)
    -- files at other places are not filtered out
    have hkept (f : List String × Bytes) :
        (decide (f.1 ≠ location) = true ∧ decide (f.1 = other) = true) ↔ f.1 = other := by
      simp only [decide_eq_true_eq]
      exact and_iff_right_of_imp fun heq => heq ▸ hne
    simp only [fileAt, List.find?_filter, hkept]
  · rw [hfind] at hremove
    cases hremove
  · rw [hfind] at hremove
    cases hremove

end Leaves

/-! ### New names -/

/-- What does not lie at or below a place stays where it is. -/
theorem relocated_of_not_prefix {source : List String} (h : ¬ source <+: location)
    (target : List String) : relocated source target location = location := by
  rw [relocated, if_neg]
  exact fun hprefix => h (List.isPrefixOf_iff_prefix.mp hprefix)

/-- Where nothing lies below a place, only what stands at it is relocated. -/
theorem relocated_of_leaf {source : List String} (h : source <+: location → location = source)
    (target : List String) :
    relocated source target location = if location = source then target else location := by
  by_cases heq : location = source
  · have hself := List.isPrefixOf_iff_prefix.mpr (List.prefix_refl source)
    rw [if_pos heq, heq, relocated, if_pos hself, List.drop_length, List.append_nil]
  · rw [if_neg heq, relocated_of_not_prefix fun hprefix => heq (h hprefix)]

/-- A file that is relocated is missing at the one place and found at the other, and all others are
    where they were. -/
theorem find?_relocated {source place other : List String} (hsource : store.IsLeaf source)
    (hne : other ≠ source) (hne' : other ≠ place) :
    ((store.files.map fun f => (relocated source place f.1, f.2)).find? fun f => f.1 = other).map
        (·.2) = store.fileAt other := by
  have hsame (f : List String × Bytes) (hf : f ∈ store.files) :
      decide (relocated source place f.1 = other) = decide (f.1 = other) := by
    rw [relocated_of_leaf (hsource.file f hf)]
    split
    · rename_i heq
      rw [heq, decide_eq_false hne.symm, decide_eq_false hne'.symm]
    · rfl
  simp only [fileAt, List.find?_map, Option.map_map, Function.comp_def, List.find?_congr hsame]

/-- **New names.**  Renaming takes a file from one of the places to another. -/
theorem Leaves.rename (h : Leaves places store) (hpath : LeadsInto places store path)
    (htarget : LeadsInto places store target) (hrename : store.rename path target = .ok later) :
    Rearranges places store later := by
  unfold Store.rename at hrename
  split at hrename
  case h_1 => cases hrename
  case h_2 => cases hrename
  case h_3 => cases hrename
  case h_5 => cases hrename
  case h_4 source _ place _ hfind hplace =>
    dsimp only at hrename
    cases hrename
    have hmem := hpath source _ hfind
    have hmem' := htarget place _ hplace
    have hsource := h.leaf source hmem
    -- no directory lies below the file, so that none gets another name
    have hdirectories : store.directories.map (relocated source place) = store.directories := by
      refine (List.map_congr_left fun d hd => ?_).trans (List.map_id _)
      exact relocated_of_not_prefix (hsource.directory d hd) place
    have hhere : relocated source place store.here = store.here :=
      relocated_of_not_prefix hsource.here place
    refine ⟨hhere, hdirectories, fun other hnot => ?_, h.of_files hhere hdirectories fun f hf => ?_⟩
    · exact find?_relocated hsource (fun heq => hnot (heq ▸ hmem)) fun heq => hnot (heq ▸ hmem')
    · obtain ⟨g, hg, rfl⟩ := List.mem_map.mp hf
      simp only [relocated_of_leaf (hsource.file g hg)]
      split
      · exact .inl hmem'
      · exact .inr ⟨g, hg, rfl⟩

end Store

end ElfInspect
