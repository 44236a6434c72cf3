import ElfInspect.Proofs.Log.Files
import ElfInspect.Proofs.Store.Leaves
import ElfInspect.Proofs.Text.Layout
import ElfInspect.Proofs.Yields

namespace ElfInspect

/-!
# What rotation leaves alone

The backups of a log file stand beside it, under its name with a number behind it.  Moving the file
aside rearranges it and its backups, and leaves everything else alone.

* `Path.exists_parts_append` — a path with something behind it differs in its last part only;
* `backupPlace` — where a backup stands, with `Store.eq_backupPlace`;
* `Store.Leaves.rotate` — what becomes of the store when a log file is moved aside;
* `LogState.isKept_rearranged` — **what handlers do to the files** in any case, with
  `ScopeLogger.rearranges_replay` for journals.
-/

/-! ### Paths with something behind them -/

/-- What has no separator in it belongs to the last piece of the text before it. -/
theorem exists_splitWhere_append (separates : Char → Bool) {behind : List Char}
    (h : ∀ c ∈ behind, separates c = false) (chars : List Char) :
    ∃ init last, splitWhere separates chars = init ++ [last] ∧
      splitWhere separates (chars ++ behind) = init ++ [last ++ behind] := by
  induction chars with
  | nil => exact ⟨[], [], rfl, splitWhere_of_forall h⟩
  | cons c rest ih =>
    obtain ⟨init, last, hrest, hmore⟩ := ih
    simp only [List.cons_append, splitWhere, hrest, hmore]
    cases init with
    | nil =>
      by_cases hc : separates c = true
      · exact ⟨[[]], last, by simp [hc], by simp [hc]⟩
      · exact ⟨[], c :: last, by simp [hc], by simp [hc]⟩
    | cons piece pieces =>
      by_cases hc : separates c = true
      · exact ⟨[] :: piece :: pieces, last, by simp [hc], by simp [hc]⟩
      · exact ⟨(c :: piece) :: pieces, last, by simp [hc], by simp [hc]⟩

namespace Path

variable {path behind : String}

/-- A path that does not name a directory ends in a name, and what is put behind the path is put
    behind this name. -/
theorem exists_parts_append (hpath : namesDirectory path = false)
    (hbehind : ∀ c ∈ behind.toList, c ≠ '/') (hsome : behind ≠ "") :
    ∃ init last, parts path = init ++ [last] ∧ parts (path ++ behind) = init ++ [last ++ behind] ∧
      last ≠ "" ∧ last ≠ ".." := by
  obtain ⟨init, last, hchars, hmore⟩ := exists_splitWhere_append (· = '/')
    (fun c hc => decide_eq_false (hbehind c hc)) path.toList
  have hpieces : pieces path = init.map String.ofList ++ [String.ofList last] := by
    rw [pieces, splitAtChar, hchars, List.map_append]
    rfl
  have hpieces' : pieces (path ++ behind) =
      init.map String.ofList ++ [String.ofList last ++ behind] := by
    rw [pieces, splitAtChar, String.toList_append, hmore, List.map_append]
    simp
  simp only [namesDirectory, hpieces, List.getLast?_concat, Bool.or_eq_false_iff,
    decide_eq_false_iff_not] at hpath
  obtain ⟨⟨hempty, hdot⟩, hdots⟩ := hpath
  -- with more behind it the name is longer than the parts that do not count
  have hlong : String.ofList last ++ behind ≠ "" ∧ String.ofList last ++ behind ≠ "." := by
    refine ⟨fun h => hsome (String.append_eq_empty_iff.mp h).2, fun h => ?_⟩
    have hchars := congrArg String.toList h
    rw [String.toList_append, String.toList_ofList] at hchars
    rcases List.append_eq_singleton_iff.mp hchars with ⟨hlast, -⟩ | ⟨-, hnone⟩
    · exact hempty (by rw [hlast])
    · exact hsome (String.toList_eq_nil_iff.mp hnone)
  refine ⟨(init.map String.ofList).filter fun part => part ≠ "" && part ≠ ".",
    String.ofList last, ?_, ?_, hempty, hdots⟩
  · simp [parts, hpieces, List.filter_append, hempty, hdot]
  · simp [parts, hpieces', List.filter_append, hlong]

/-- A path that does not name a directory is not empty, so that it starts as it did when something
    is put behind it. -/
theorem isAbsolute_append (hpath : namesDirectory path = false) :
    isAbsolute (path ++ behind) = isAbsolute path := by
  have hsome : path.toList ≠ [] := by
    intro hnone
    rw [namesDirectory, pieces, hnone] at hpath
    cases hpath
  refine Bool.eq_iff_iff.mpr ?_
  simp only [isAbsolute, String.startsWith_string_iff, String.toList_append]
  obtain ⟨c, rest, hchars⟩ := List.exists_cons_of_ne_nil hsome
  rw [hchars]
  simp

end Path

namespace Store

variable {store : Store} {location start : List String} {path : String}

/-- A way is followed part by part. -/
theorem follow_append (store : Store) (start init rest : List String) :
    store.follow start (init ++ rest) =
      (store.follow start init >>= fun middle => store.follow middle rest) := by
  induction init generalizing start with
  | nil => rfl
  | cons part init ih =>
    simp only [List.cons_append, follow]
    cases store.entry start with
    | absent => rfl
    | file content => rfl
    | directory =>
      dsimp only
      split
      · exact ih _
      · split
        · rfl
        · exact ih _

/-- A name leads into the directory that it is looked up in. -/
theorem eq_of_follow_name {name : String} (hname : name ≠ "..")
    (h : store.follow start [name] = .ok location) : location = start ++ [name] := by
  simp only [follow] at h
  cases hentry : store.entry start with
  | absent =>
    rw [hentry] at h
    cases h
  | file content =>
    rw [hentry] at h
    cases h
  | directory =>
    rw [hentry] at h
    dsimp only at h
    rw [if_neg hname] at h
    split at h
    · cases h
    · exact (Except.ok.inj h).symm

end Store

/-! ### Backups -/

/-- What the path of a backup has behind that of the file. -/
def backupSuffix (number : Nat) : String :=
  "." ++ toString number

/-- The suffix is a dot and at least one digit. -/
theorem toList_backupSuffix (number : Nat) :
    (backupSuffix number).toList = '.' :: Nat.toDigits 10 number := by
  rw [backupSuffix, String.toList_append, Nat.toString_eq_repr, Nat.toList_repr]
  rfl

/-- There is no separator in it. -/
theorem ne_separator_of_mem_backupSuffix {number : Nat} {c : Char}
    (h : c ∈ (backupSuffix number).toList) : c ≠ '/' := by
  rw [toList_backupSuffix] at h
  rintro rfl
  rcases List.mem_cons.mp h with hdot | hdigit
  · cases hdot
  · have := Nat.isDigit_of_mem_toDigits (by decide) (by decide) hdigit
    cases this

/-- Where the backup of a file stands. -/
def backupPlace (location : List String) (number : Nat) : List String :=
  location.dropLast ++ [location.getLastD "" ++ backupSuffix number]

namespace Store

variable {store later : Store} {location : List String} {places : List (List String)}
  {path target : String}

/-- **Backups** stand beside their file. -/
theorem eq_backupPlace {content : Bytes} (h : store.find path = .ok (location, .file content))
    {number : Nat} {other : List String} {entry : Entry}
    (hother : store.find (backupPath path number) = .ok (other, entry)) :
    other = backupPlace location number := by
  obtain ⟨-, hfollow, -, hnames⟩ := find_eq_ok_iff.mp h
  obtain ⟨-, hfollow', -, -⟩ := find_eq_ok_iff.mp hother
  have hpath := hnames content rfl
  have hsome : backupSuffix number ≠ "" := fun hnone => by
    have := toList_backupSuffix number
    rw [hnone] at this
    cases this
  obtain ⟨init, last, hparts, hparts', hempty, hdots⟩ :=
    Path.exists_parts_append hpath (fun _ => ne_separator_of_mem_backupSuffix) hsome
  have hbackup : backupPath path number = path ++ backupSuffix number := by
    rw [backupPath, backupSuffix, String.append_assoc]
  have hstart : store.start (path ++ backupSuffix number) = store.start path := by
    rw [start, start, Path.isAbsolute_append hpath]
  -- both ways are the same up to the directory, and then there is one name each
  rw [hbackup, hstart, hparts', follow_append] at hfollow'
  rw [hparts, follow_append] at hfollow
  obtain ⟨middle, hmiddle, hlast⟩ := exists_of_bind_eq_ok hfollow
  obtain ⟨middle', hmiddle', hlast'⟩ := exists_of_bind_eq_ok hfollow'
  cases hmiddle.symm.trans hmiddle'
  -- with the suffix a name has three characters at least
  have hname : last ++ backupSuffix number ≠ ".." := fun hup => by
    have hlength : last.toList.length + (backupSuffix number).toList.length = 2 := by
      rw [← List.length_append, ← String.toList_append, hup]
      rfl
    have hlast : 0 < last.toList.length :=
      List.length_pos_iff.mpr fun hnil => hempty (String.toList_eq_nil_iff.mp hnil)
    have hdigit : 0 < (Nat.toDigits 10 number).length := List.length_pos_iff.mpr Nat.toDigits_ne_nil
    rw [toList_backupSuffix, List.length_cons] at hlength
    omega
  rw [eq_of_follow_name hname hlast', eq_of_follow_name hdots hlast, backupPlace]
  simp

/-- A file takes the place of another. -/
theorem Leaves.supersede (h : Leaves places store) (hpath : LeadsInto places store path)
    (htarget : LeadsInto places store target) :
    Rearranges places store (store.supersede path target).2 := by
  unfold Store.supersede
  dsimp only
  cases hclear : (if store.holds target then store.remove target else .ok store) with
  | error fault => exact .refl h
  | ok cleared =>
    have hfirst : Rearranges places store cleared := by
      split at hclear
      · exact h.remove htarget hclear
      · cases hclear
        exact .refl h
    dsimp only
    split
    · cases hrename : cleared.rename path target with
      | error fault => exact hfirst
      | ok later =>
        exact hfirst.trans (hfirst.leaves.rename (hpath.rearranged h hfirst)
          (htarget.rearranged h hfirst) hrename)
    · exact hfirst

/-- The backups of a file up to some number stand at some places. -/
def BacksUpIn (places : List (List String)) (store : Store) (path : String) (backups : Nat) :
    Prop :=
  ∀ number, 1 ≤ number → number ≤ backups → LeadsInto places store (backupPath path number)

/-- Backups move on to the next number. -/
theorem Leaves.shiftBackups (h : Leaves places store) {number : Nat}
    (hbackups : BacksUpIn places store path (number + 1)) :
    Rearranges places store (store.shiftBackups path number).2 := by
  induction number generalizing store with
  | zero => exact .refl h
  | succ number ih =>
    -- the last backup moves first, and the others in the store that this leaves behind
    have hsource := hbackups (number + 1) (Nat.le_add_left 1 number) (Nat.le_succ _)
    have htarget := hbackups (number + 2) (Nat.le_add_left 1 _) (Nat.le_refl _)
    have hfirst (done : Bool) (later : Store)
        (hstep : (if store.holds (backupPath path (number + 1)) then
          store.supersede (backupPath path (number + 1)) (backupPath path (number + 2))
        else (true, store)) = (done, later)) : Rearranges places store later := by
      split at hstep
      · have := h.supersede hsource htarget
        rwa [hstep] at this
      · cases hstep
        exact .refl h
    unfold Store.shiftBackups
    dsimp only
    rcases hstep : (if store.holds (backupPath path (number + 1)) then
        store.supersede (backupPath path (number + 1)) (backupPath path (number + 2))
      else (true, store)) with ⟨done, later⟩
    have hlater := hfirst done later hstep
    dsimp only
    split
    · refine hlater.trans (ih hlater.leaves fun n hpos hle => ?_)
      exact (hbackups n hpos (Nat.le_succ_of_le hle)).rearranged h hlater
    · exact hlater

/-- **Rotation.**  Moving a file aside rearranges the file and its backups, also if something stands
    in the way and it stops halfway. -/
theorem Leaves.rotate (h : Leaves places store) (hpath : LeadsInto places store path)
    {backups : Nat} (hbackups : BacksUpIn places store path backups) (hpos : 0 < backups) :
    Rearranges places store (store.rotate path backups).2 := by
  have hshift : Rearranges places store (store.shiftBackups path (backups - 1)).2 :=
    h.shiftBackups (by rwa [Nat.sub_add_cancel hpos])
  unfold Store.rotate
  rcases hshifted : store.shiftBackups path (backups - 1) with ⟨done, later⟩
  rw [hshifted] at hshift
  dsimp only
  split
  · exact hshift.trans (hshift.leaves.supersede (hpath.rearranged h hshift)
      ((hbackups 1 (Nat.le_refl 1) hpos).rearranged h hshift))
  · exact hshift

end Store

/-! ### Logs -/

open Store (Leaves Rearranges LeadsInto BacksUpIn)

/-- Where a log file and its backups stand. -/
def Rotation.places (rotation : Rotation) (location : List String) : List (List String) :=
  location :: (List.range rotation.backups).map fun number => backupPlace location (number + 1)

/-- Backups are named after the file, so that all these places are at the same depth. -/
theorem Rotation.length_of_mem_places {rotation : Rotation} {location place : List String}
    (hsome : location ≠ []) (h : place ∈ rotation.places location) :
    place.length = location.length := by
  rcases List.mem_cons.mp h with rfl | hbackup
  · rfl
  · obtain ⟨number, -, rfl⟩ := List.mem_map.mp hbackup
    have hpos := List.length_pos_iff.mpr hsome
    rw [backupPlace, List.length_append, List.length_dropLast, List.length_singleton]
    omega

/-- Files can stand at all these places if each of them is a leaf. -/
theorem Rotation.leaves_places {rotation : Rotation} {location : List String} {store : Store}
    (h : ∀ place ∈ rotation.places location, store.IsLeaf place) :
    Leaves (rotation.places location) store := by
  have hsome : location ≠ [] := fun hnil =>
    (h location List.mem_cons_self).here (hnil ▸ List.nil_prefix)
  refine ⟨h, fun place hplace other hother hprefix => hprefix.eq_of_length ?_⟩
  rw [length_of_mem_places hsome hplace, length_of_mem_places hsome hother]

variable {places : List (List String)}

/-- The handler writes to the console, or to a file that stands at some places with its backups. -/
def Handler.RotatesIn (places : List (List String)) (store : Store) (handler : Handler) : Prop :=
  ∀ path layout rotation, handler.target = .file path layout rotation →
    LeadsInto places store path ∧ BacksUpIn places store path rotation.backups

namespace Handler

variable {handler : Handler} {store later : Store}

/-- The backups of a log file that exists stand beside it. -/
theorem WritesIn.rotatesIn {changed : List (List String)} (h : handler.WritesIn changed store)
    {rotation : Rotation} (hrotation : ∀ path layout other,
      handler.target = .file path layout other → other = rotation) :
    handler.RotatesIn (changed.flatMap rotation.places) store := by
  intro path layout other htarget
  obtain rfl := hrotation path layout other htarget
  obtain ⟨location, hmem, content, hfind⟩ := h path layout _ htarget
  refine ⟨fun place entry hplace => ?_, fun number hpos hle place entry hplace => ?_⟩
  · rw [hfind] at hplace
    cases hplace
    exact List.mem_flatMap.mpr ⟨location, hmem, List.mem_cons_self⟩
  · rw [Store.eq_backupPlace hfind hplace]
    refine List.mem_flatMap.mpr ⟨location, hmem, List.mem_cons_of_mem _ ?_⟩
    have hrange : number - 1 ∈ List.range other.backups := List.mem_range.mpr (by omega)
    exact List.mem_map.mpr ⟨number - 1, hrange, by rw [Nat.sub_add_cancel hpos]⟩

/-- Where files have been rearranged, a handler still writes to one of them. -/
theorem RotatesIn.rearranged (h : handler.RotatesIn places store) (hstore : Leaves places store)
    (hlater : Rearranges places store later) : handler.RotatesIn places later := by
  intro path layout rotation htarget
  obtain ⟨hpath, hbackups⟩ := h path layout rotation htarget
  exact ⟨hpath.rearranged hstore hlater, fun number hpos hle =>
    (hbackups number hpos hle).rearranged hstore hlater⟩

end Handler

/-- In a set-up there is one way of moving files aside. -/
theorem LoggerSetup.rotation_of_mem_handlers {setup : LoggerSetup} {handler : Handler}
    (hmem : handler ∈ setup.handlers) {path : String} {layout : LogLayout} {rotation : Rotation}
    (htarget : handler.target = .file path layout rotation) : rotation = setup.rotation := by
  rcases mem_handlers_cases hmem with rfl | ⟨other, -, rfl⟩
  · cases htarget
  · cases htarget
    rfl

namespace LogState

variable {state : LogState} {record : LogRecord} {handler : Handler} {path : String}

/-- So there is when no channel but that of a set-up has been set up. -/
theorem rotation_of_configure {store : Store} {component : String} {setup : LoggerSetup}
    (h : configure { store } component setup = (.ok (), state)) {name : String}
    (hmem : handler ∈ (state.registry.channel name).handlers) {layout : LogLayout}
    {rotation : Rotation} (htarget : handler.target = .file path layout rotation) :
    rotation = setup.rotation := by
  rcases configure_cases { store } component setup with
    ⟨_, -, hfault⟩ | ⟨_, _, hfault⟩ | ⟨opened, hok⟩
  · rw [hfault] at h
    cases h
  · rw [hfault] at h
    cases h
  · rw [hok] at h
    cases h
    simp only [setChannel, Registry.channel_setChannel] at hmem
    split at hmem
    · exact LoggerSetup.rotation_of_mem_handlers hmem htarget
    · cases hmem

/-- A line is added to a file at one of the places, or dropped. -/
theorem rearranges_addLine (state : LogState) (hleaves : Leaves places state.store)
    (hpath : LeadsInto places state.store path) (line : String) :
    Rearranges places state.store (state.addLine path line).store := by
  unfold addLine
  split
  · rename_i happend
    exact hleaves.append hpath happend
  · exact .refl hleaves

/-- A full file is moved aside, and the line is added to the one that is begun, if any is. -/
theorem rearranges_addAside (hleaves : Leaves places state.store)
    (hpath : LeadsInto places state.store path) {rotation : Rotation}
    (hbackups : BacksUpIn places state.store path rotation.backups) (hpos : 0 < rotation.backups)
    (line : String) :
    Rearranges places state.store (state.addAside path rotation line).store := by
  have hrotate := hleaves.rotate hpath hbackups hpos
  unfold addAside
  generalize state.store.rotate path rotation.backups = result at hrotate ⊢
  obtain ⟨done, store⟩ := result
  dsimp only at hrotate ⊢
  split
  · have hadd := rearranges_addLine { state with store, moves := state.moves + 1 } hrotate.leaves
      (hpath.rearranged hleaves hrotate) line
    exact hrotate.trans hadd
  · exact hrotate

/-- A file that is due to be moved aside is to have backups. -/
theorem backups_pos_of_isFull {rotation : Rotation} {line : String}
    (h : state.isFull path rotation line = true) : 0 < rotation.backups := by
  unfold isFull at h
  split at h
  · simp only [Rotation.isDue, Bool.and_eq_true, decide_eq_true_eq] at h
    exact h.1.2
  · cases h

/-- **One handler.**  Whether or not its file is full, a handler rearranges this file and its
    backups. -/
theorem rearranges_write (hleaves : Leaves places state.store)
    (h : handler.RotatesIn places state.store) :
    Rearranges places state.store (write record state handler).store := by
  unfold write
  cases htarget : handler.target with
  | console => exact .refl hleaves
  | file path layout rotation =>
    obtain ⟨hpath, hbackups⟩ := h path layout rotation htarget
    dsimp only
    cases lineOf? record layout with
    | none => exact .refl hleaves
    | some line =>
      dsimp only
      split
      · rename_i hfull
        exact rearranges_addAside hleaves hpath hbackups (backups_pos_of_isFull hfull) line
      · exact rearranges_addLine state hleaves hpath line

/-- All handlers write to the console, or to files that stand at some places with their backups. -/
def RotatesIn (places : List (List String)) (state : LogState) : Prop :=
  ∀ name, ∀ handler ∈ (state.registry.channel name).handlers, handler.RotatesIn places state.store

/-- What has become of a state: log files and their backups have been rearranged, and nothing else
    has happened to the files. -/
structure Rearranged (places : List (List String)) (state next : LogState) : Prop where
  rotatesIn : next.RotatesIn places
  rearranges : Rearranges places state.store next.store

/-- All handlers take part in that. -/
theorem isKept_rearranged (places : List (List String)) (state : LogState) :
    IsKept (Rearranged places state) := by
  intro next record name handler hmem h
  have hleaves := h.rearranges.leaves
  have hstep : Rearranges places next.store (write record next handler).store :=
    rearranges_write hleaves (h.rotatesIn name handler hmem)
  refine ⟨fun other handler' hmem' => ?_, h.rearranges.trans hstep⟩
  rw [registry_write] at hmem'
  exact (h.rotatesIn other handler' hmem').rearranged hleaves hstep

end LogState

/-- **Journals.**  Carrying out a journal rearranges log files and their backups. -/
theorem ScopeLogger.rearranges_replay {state : LogState} (hleaves : Leaves places state.store)
    (h : state.RotatesIn places) (logger : ScopeLogger) (occasion : Occasion)
    (journal : List LogAction) :
    Rearranges places state.store (logger.replay occasion journal state).2.store :=
  ((LogState.isKept_rearranged places state).replay ⟨h, .refl hleaves⟩ logger occasion
    journal).rearranges

end ElfInspect
