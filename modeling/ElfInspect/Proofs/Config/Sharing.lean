import ElfInspect.Config.Memory
import ElfInspect.Proofs.Config.Errors

namespace ElfInspect

/-!
# Sharing settings

Every object with settings has decoder settings of its own, so that what is assigned through one
object is seen in no other.  Those who ask for the shared settings share an object, and so they see
what each of them assigns.

* `ConfigMemory.Paired` — the objects are apart, and what an object shows after each operation;
* `ConfigMemory.Created` — the request that an object was made for, and what came after it;
* `ConfigMemory.Chronicled` — the objects are those that a list of events tells of; a step lemma
  and a run lemma;
* `ConfigMemory.settings_shared` — what is shared and what is not, after any requests.
-/

/-- The settings with the last of some chunk sizes, if there is one. -/
def Config.withLast (config : Config) (sizes : List Value) : Config :=
  match sizes.getLast? with
  | none => config
  | some size => config.withChunkSize size

/-- The last assignment counts. -/
theorem Config.withLast_append (config : Config) (sizes : List Value) (size : Value) :
    config.withLast (sizes ++ [size]) = (config.withLast sizes).withChunkSize size := by
  rw [withLast, withLast, List.getLast?_concat]
  cases sizes.getLast? <;> rfl

/-! ### Sources -/

namespace Config

variable {fallback : String} {store : Store}

/-- Where no file is, the settings are the defaults. -/
theorem loadOr_none (h : store.read (Path.normalize fallback) = .error .missing) :
    loadOr fallback store none = .ok {} := by
  -- there is no file to be found at the path of the defaults
  have hload : ofFile store fallback = .error (.notFound (Path.normalize fallback)) := by
    unfold Store.read at h
    unfold ofFile
    split at h
    · rename_i fault hfind
      cases h
      simp only [hfind]
    · cases h
    · cases h
    · rename_i location hfind
      simp only [hfind]
  simp only [loadOr, hload]

end Config

namespace ConfigMemory

variable {fallback : String} {memory : ConfigMemory}

/-! ### Objects -/

/-- Every object has decoder settings of its own, those with its number. -/
structure Paired (memory : ConfigMemory) : Prop where
  length : memory.decoders.length = memory.objects.length
  own : ∀ (number : Nat) (object : ConfigObject), memory.objects[number]? = some object →
    object.decoder = number

/-- What an object shows, by its number alone. -/
theorem Paired.view?_eq (h : memory.Paired) (number : Nat) :
    memory.view? number = memory.objects[number]?.bind fun object =>
      memory.decoders[number]?.map fun decoder =>
        { globalSettings := object.globalSettings, decoder, display := object.display } := by
  unfold view?
  cases hobject : memory.objects[number]? with
  | none => rfl
  | some object =>
    have hown := h.own number object hobject
    simp only [Option.bind_eq_bind, Option.bind_some, hown]
    cases memory.decoders[number]? <;> rfl

/-- Only objects that have been created can be looked at. -/
theorem Paired.view?_eq_none_iff (h : memory.Paired) (number : Nat) :
    memory.view? number = none ↔ memory.objects.length ≤ number := by
  have hlength := h.length
  rw [h.view?_eq]
  rcases Nat.lt_or_ge number memory.objects.length with hlt | hge
  · rw [List.getElem?_eq_getElem hlt, List.getElem?_eq_getElem (hlength ▸ hlt)]
    simpa using hlt
  · rw [List.getElem?_eq_none hge]
    simpa using hge

/-- Which object is shared has no part in what the objects hold. -/
theorem Paired.share (h : memory.Paired) (shared : Option Nat) :
    { memory with shared }.Paired :=
  ⟨h.length, h.own⟩

/-- A new object has a decoder section of its own. -/
theorem Paired.create (h : memory.Paired) (config : Config) : (memory.create config).2.Paired where
  length := by
    simp only [ConfigMemory.create, List.length_append, List.length_singleton, h.length]
  own number object hobject := by
    simp only [ConfigMemory.create] at hobject
    rcases Nat.lt_or_ge number memory.objects.length with hlt | hge
    · rw [List.getElem?_append_left hlt] at hobject
      exact h.own number object hobject
    · -- the object at the end is the new one
      rw [List.getElem?_append_right hge, List.getElem?_singleton] at hobject
      split at hobject
      case isTrue hzero =>
        cases hobject
        have hlength := h.length
        show memory.decoders.length = number
        omega
      case isFalse => cases hobject

/-- A new object has the settings it was created with, and all others have theirs. -/
theorem Paired.view?_create (h : memory.Paired) (config : Config) (number : Nat) :
    (memory.create config).2.view? number =
      if number = memory.objects.length then some config else memory.view? number := by
  have hlength := h.length
  rcases Nat.lt_or_ge memory.objects.length number with hgt | hle
  -- there is nothing behind the new object
  · have hnone : (memory.create config).2.view? number = none := by
      rw [(h.create config).view?_eq_none_iff]
      simp only [ConfigMemory.create, List.length_append, List.length_singleton]
      omega
    rw [hnone, if_neg (by omega), (h.view?_eq_none_iff number).mpr (Nat.le_of_lt hgt)]
  · rw [(h.create config).view?_eq, h.view?_eq]
    simp only [ConfigMemory.create]
    rcases Nat.lt_or_eq_of_le hle with hlt | rfl
    · rw [if_neg (by omega), List.getElem?_append_left hlt, List.getElem?_append_left (by omega)]
    · rw [if_pos rfl, List.getElem?_concat_length, ← hlength, List.getElem?_concat_length]
      rfl

/-- An assignment leaves each object its own section. -/
theorem Paired.assign (h : memory.Paired) (number : Nat) (size : Value) :
    (memory.assign number size).Paired := by
  unfold ConfigMemory.assign
  split
  · exact h
  · exact ⟨List.length_set.trans h.length, h.own⟩

/-- A chunk size is seen in the object that it is assigned through, and in no other. -/
theorem Paired.view?_assign (h : memory.Paired) (number : Nat) (size : Value) (other : Nat) :
    (memory.assign number size).view? other =
      if number = other then (memory.view? other).map (·.withChunkSize size)
      else memory.view? other := by
  rw [(h.assign number size).view?_eq, h.view?_eq]
  unfold ConfigMemory.assign
  cases hobject : memory.objects[number]? with
  | none =>
    by_cases heq : number = other
    · subst heq
      rw [if_pos rfl, hobject]
      rfl
    · rw [if_neg heq]
  | some object =>
    obtain rfl := h.own number object hobject
    simp only [List.getElem?_set]
    by_cases heq : object.decoder = other
    · subst heq
      have hlt : object.decoder < memory.decoders.length := by
        rw [h.length]
        exact (List.getElem?_eq_some_iff.mp hobject).1
      rw [if_pos rfl, if_pos rfl, if_pos hlt, hobject, List.getElem?_eq_getElem hlt]
      rfl
    · rw [if_neg heq, if_neg heq]

/-- An assignment does not change which object is shared. -/
theorem assign_shared (memory : ConfigMemory) (number : Nat) (size : Value) :
    (memory.assign number size).shared = memory.shared := by
  unfold assign
  split <;> rfl

/-- Nor does it create one. -/
theorem assign_objects (memory : ConfigMemory) (number : Nat) (size : Value) :
    (memory.assign number size).objects = memory.objects := by
  unfold assign
  split <;> rfl

/-! ### Requests for settings -/

/-- An object has been added that shows some settings; the other objects show what they showed. -/
structure Adds (before : ConfigMemory) (number : Nat) (config : Config) (after : ConfigMemory) :
    Prop where
  new : before.view? number = none
  shows : after.view? number = some config
  others : ∀ other, other ≠ number → after.view? other = before.view? other

/-- Creating an object adds it, and nothing else changes. -/
theorem Paired.adds_create (h : memory.Paired) (config : Config) (shared : Option Nat) :
    Adds memory memory.objects.length config { (memory.create config).2 with shared } where
  new := (h.view?_eq_none_iff _).mpr (Nat.le_refl _)
  shows := (h.view?_create config _).trans (if_pos rfl)
  others other hother := (h.view?_create config other).trans (if_neg hother)

/-- The shared settings after a source has been loaded to a new object. -/
def sharedAfter (memory : ConfigMemory) : ConfigSource → Option Nat
  | .shared _ => some memory.objects.length
  | .defaults | .file _ => memory.shared

/-- Unless there are shared settings to answer with, a source is loaded to a new object. -/
theorem obtain_eq {source : ConfigSource} (h : source = .shared none → memory.shared = none)
    (store : Store) :
    memory.obtain fallback store source =
      match source.load fallback store with
      | .ok config => (.ok memory.objects.length,
          { (memory.create config).2 with shared := memory.sharedAfter source })
      | .error error => (.error error, memory) := by
  cases source with
  | defaults => rfl
  | file path =>
    unfold obtain load
    cases ConfigSource.load fallback store (.file path) <;> rfl
  | shared path =>
    -- only a shared object that is asked for without a path may be there already
    cases path with
    | some path =>
      unfold obtain load
      cases ConfigSource.load fallback store (.shared (some path)) <;> rfl
    | none =>
      obtain ⟨decoders, objects, shared⟩ := memory
      obtain rfl : shared = none := h rfl
      unfold obtain load
      cases ConfigSource.load fallback store (.shared none) <;> rfl

/-- **Requests.**  A request for settings is answered with the shared ones, or with a new object, or
    else the source cannot be loaded. -/
theorem obtain_cases (memory : ConfigMemory) (store : Store) (source : ConfigSource) :
    (∃ number, source = .shared none ∧ memory.shared = some number ∧
      memory.obtain fallback store source = (.ok number, memory)) ∨
    (∃ config, source.load fallback store = .ok config ∧
      memory.obtain fallback store source = (.ok memory.objects.length,
        { (memory.create config).2 with shared := memory.sharedAfter source })) ∨
    ∃ error, source.load fallback store = .error error ∧
      memory.obtain fallback store source = (.error error, memory) := by
  by_cases h : source = .shared none → memory.shared = none
  · refine .inr ?_
    rw [obtain_eq h]
    cases source.load fallback store with
    | ok config => exact .inl ⟨config, rfl, rfl⟩
    | error error => exact .inr ⟨error, rfl, rfl⟩
  · obtain ⟨rfl, hshared⟩ := Classical.not_imp.mp h
    obtain ⟨number, hnumber⟩ := Option.ne_none_iff_exists'.mp hshared
    exact .inl ⟨number, rfl, hnumber, by simp only [obtain, hnumber]⟩

end ConfigMemory

/-! ### Events -/

namespace ConfigEvent

/-- The object that has been answered. -/
def answer? : ConfigEvent → Option Nat
  | .obtained _ _ (.ok number) => some number
  | _ => none

/-- The object that has been answered to a request for the shared settings. -/
def shared? : ConfigEvent → Option Nat
  | .obtained _ (.shared _) (.ok number) => some number
  | _ => none

/-- The chunk size that has been assigned through an object. -/
def assigned? (number : Nat) : ConfigEvent → Option Value
  | .assigned other size => if other = number then some size else none
  | _ => none

end ConfigEvent

/-- An event that is left out leaves no trace. -/
theorem filterMap_append_none {α β : Type} {f : α → Option β} {a : α} (h : f a = none)
    (items : List α) : (items ++ [a]).filterMap f = items.filterMap f := by
  rw [List.filterMap_append, List.filterMap_cons_none h, List.filterMap_nil, List.append_nil]

namespace ConfigMemory

variable {fallback : String} {memory : ConfigMemory} {events since : List ConfigEvent}
  {event : ConfigEvent} {number : Nat} {store : Store} {source : ConfigSource}

/-- An object has been made for a request, the first that was answered with it; `since` is what came
    after. -/
def Created (events : List ConfigEvent) (number : Nat) (store : Store) (source : ConfigSource)
    (since : List ConfigEvent) : Prop :=
  ∃ before, events = before ++ .obtained store source (.ok number) :: since ∧
    ∀ event ∈ before, event.answer? ≠ some number

/-- With another event an object is one of those before, or it has been made just now. -/
theorem created_append_iff :
    Created (events ++ [event]) number store source since ↔
      (∃ earlier, since = earlier ++ [event] ∧ Created events number store source earlier) ∨
      since = [] ∧ event = .obtained store source (.ok number) ∧
        ∀ event ∈ events, event.answer? ≠ some number := by
  constructor
  · rintro ⟨before, hevents, hfirst⟩
    -- the last event is the creation itself, or it comes after that
    rcases since.eq_nil_or_concat with rfl | ⟨earlier, last, rfl⟩
    · obtain ⟨rfl, hevent⟩ := List.append_inj' hevents rfl
      exact .inr ⟨rfl, (List.cons.inj hevent).1, hfirst⟩
    · rw [List.concat_eq_append, ← List.cons_append, ← List.append_assoc] at hevents
      obtain ⟨rfl, hevent⟩ := List.append_inj' hevents rfl
      obtain rfl := (List.cons.inj hevent).1
      exact .inl ⟨earlier, List.concat_eq_append, before, rfl, hfirst⟩
  · rintro (⟨earlier, rfl, before, rfl, hfirst⟩ | ⟨rfl, rfl, hfirst⟩)
    · exact ⟨before, by rw [← List.cons_append, ← List.append_assoc], hfirst⟩
    · exact ⟨events, rfl, hfirst⟩

/-- What happens later comes after the creation. -/
theorem Created.append (h : Created events number store source since) (event : ConfigEvent) :
    Created (events ++ [event]) number store source (since ++ [event]) :=
  created_append_iff.mpr (.inl ⟨since, rfl, h⟩)

/-- An object that has been made for a request has been answered. -/
theorem Created.exists_answer (h : Created events number store source since) :
    ∃ event ∈ events, event.answer? = some number := by
  obtain ⟨before, rfl, -⟩ := h
  exact ⟨_, List.mem_append_right before List.mem_cons_self, rfl⟩

/-- The objects are those that the events tell of. -/
structure Chronicled (fallback : String) (events : List ConfigEvent) (memory : ConfigMemory) :
    Prop where
  paired : memory.Paired
  known : ∀ event ∈ events, ∀ number, event.answer? = some number → number < memory.objects.length
  shows : ∀ number store source since, Created events number store source since →
    ∃ config, source.load fallback store = .ok config ∧
      memory.view? number = some (config.withLast (since.filterMap (·.assigned? number)))
  shared : memory.shared = (events.filterMap (·.shared?)).getLast?
  cached : ∀ number, memory.shared = some number →
    ∃ store path since, Created events number store (.shared path) since

/-- Nothing has happened yet. -/
theorem chronicled_nil : Chronicled fallback [] {} where
  paired := ⟨rfl, fun _ _ h => by cases h⟩
  known _ h := by cases h
  shows number store source since := fun ⟨before, h, _⟩ => by cases before <;> cases h
  shared := rfl
  cached _ h := by cases h

namespace Chronicled

/-- The objects that have been created are those that there are. -/
theorem lt_of_created (h : Chronicled fallback events memory)
    (hcreated : Created events number store source since) : number < memory.objects.length := by
  obtain ⟨event, hmem, hanswer⟩ := hcreated.exists_answer
  exact h.known event hmem number hanswer

/-! ### Steps -/

/-- An assignment is one more event. -/
theorem assign (h : Chronicled fallback events memory) (number : Nat) (size : Value) :
    Chronicled fallback (events ++ [.assigned number size]) (memory.assign number size) where
  paired := h.paired.assign number size
  known event hmem other hanswer := by
    rw [assign_objects]
    rcases List.mem_append.mp hmem with hmem | hmem
    · exact h.known event hmem other hanswer
    · obtain rfl := List.mem_singleton.mp hmem
      cases hanswer
  shows other store source since hcreated := by
    rcases created_append_iff.mp hcreated with ⟨earlier, rfl, hearlier⟩ | ⟨-, hevent, -⟩
    · obtain ⟨config, hload, hview⟩ := h.shows other store source earlier hearlier
      refine ⟨config, hload, ?_⟩
      rw [h.paired.view?_assign, hview, List.filterMap_append]
      by_cases heq : number = other
      · -- the chunk size is assigned through this very object
        simp [ConfigEvent.assigned?, heq, Config.withLast_append]
      · simp [ConfigEvent.assigned?, heq]
    · cases hevent
  shared := by
    rw [assign_shared, filterMap_append_none rfl]
    exact h.shared
  cached other hshared := by
    rw [assign_shared] at hshared
    obtain ⟨store, path, since, hcreated⟩ := h.cached other hshared
    exact ⟨store, path, _, hcreated.append _⟩

/-- An answer that makes no object. -/
theorem answer (h : Chronicled fallback events memory) {answer : Except ConfigError Nat}
    (hanswer : ∀ number, answer = .ok number →
      (∃ event ∈ events, event.answer? = some number) ∧ memory.shared = some number) :
    Chronicled fallback (events ++ [.obtained store source answer]) memory where
  paired := h.paired
  known event hmem number heq := by
    rcases List.mem_append.mp hmem with hmem | hmem
    · exact h.known event hmem number heq
    · obtain rfl := List.mem_singleton.mp hmem
      cases answer with
      | error error => cases heq
      | ok found =>
        cases heq
        obtain ⟨⟨event, hmem, heq⟩, -⟩ := hanswer number rfl
        exact h.known event hmem number heq
  shows number store' source' since hcreated := by
    rcases created_append_iff.mp hcreated with ⟨earlier, rfl, hearlier⟩ | ⟨-, hevent, hfirst⟩
    · rw [filterMap_append_none rfl]
      exact h.shows number store' source' earlier hearlier
    · cases hevent
      obtain ⟨⟨event, hmem, heq⟩, -⟩ := hanswer number rfl
      exact absurd heq (hfirst event hmem)
  shared := by
    cases answer with
    | error error =>
      rw [filterMap_append_none (by cases source <;> rfl)]
      exact h.shared
    | ok number =>
      obtain ⟨-, hshared⟩ := hanswer number rfl
      cases source with
      | shared path =>
        rw [List.filterMap_append]
        exact hshared.trans List.getLast?_concat.symm
      | defaults | file path =>
        rw [filterMap_append_none rfl]
        exact h.shared
  cached number hshared := by
    obtain ⟨store', path, since, hcreated⟩ := h.cached number hshared
    exact ⟨store', path, _, hcreated.append _⟩

/-- An answer with a new object. -/
theorem create (h : Chronicled fallback events memory) {config : Config}
    (hload : source.load fallback store = .ok config) :
    Chronicled fallback (events ++ [.obtained store source (.ok memory.objects.length)])
      { (memory.create config).2 with shared := memory.sharedAfter source } := by
  have hlength : (memory.create config).2.objects.length = memory.objects.length + 1 :=
    List.length_append
  have hfirst : ∀ event ∈ events, event.answer? ≠ some memory.objects.length :=
    fun event hmem heq => Nat.lt_irrefl _ (h.known event hmem _ heq)
  have hview (number : Nat) :
      { (memory.create config).2 with shared := memory.sharedAfter source }.view? number =
        if number = memory.objects.length then some config else memory.view? number :=
    h.paired.view?_create config number
  refine ⟨(h.paired.create config).share _, fun event hmem number heq => ?known,
    fun number store' source' since hcreated => ?shows, ?shared, fun number hshared => ?cached⟩
  case known =>
    show number < (memory.create config).2.objects.length
    rw [hlength]
    rcases List.mem_append.mp hmem with hmem | hmem
    · exact Nat.lt_succ_of_lt (h.known event hmem number heq)
    · obtain rfl := List.mem_singleton.mp hmem
      cases heq
      exact Nat.lt_succ_self _
  case shows =>
    rw [hview]
    rcases created_append_iff.mp hcreated with ⟨earlier, rfl, hearlier⟩ | ⟨rfl, hevent, -⟩
    · rw [if_neg (Nat.ne_of_lt (h.lt_of_created hearlier)), filterMap_append_none rfl]
      exact h.shows number store' source' earlier hearlier
    · cases hevent
      exact ⟨config, hload, if_pos rfl⟩
  case shared =>
    cases source with
    | shared path =>
      rw [List.filterMap_append]
      exact List.getLast?_concat.symm
    | defaults | file path =>
      rw [filterMap_append_none rfl]
      exact h.shared
  case cached =>
    cases source with
    | shared path =>
      cases hshared
      exact ⟨store, path, [], created_append_iff.mpr (.inr ⟨rfl, rfl, hfirst⟩)⟩
    | defaults | file path =>
      obtain ⟨store', path', since, hcreated⟩ := h.cached number hshared
      exact ⟨store', path', _, hcreated.append _⟩

/-- **Steps.**  The events tell of the objects after each request. -/
theorem serve (h : Chronicled fallback events memory) (request : ConfigRequest) :
    Chronicled fallback (events ++ [(memory.serve fallback request).1])
      (memory.serve fallback request).2 := by
  cases request with
  | assign number size => exact h.assign number size
  | obtain store source =>
    show Chronicled fallback
      (events ++ [.obtained store source (memory.obtain fallback store source).1])
      (memory.obtain fallback store source).2
    -- the shared object is handed out again, a new one is created, or there is an error
    rcases memory.obtain_cases store source with
      ⟨number, -, hshared, hobtain⟩ | ⟨config, hload, hobtain⟩ | ⟨error, -, hobtain⟩
    · rw [hobtain]
      refine h.answer fun found hfound => ?_
      cases hfound
      obtain ⟨store, path, since, hcreated⟩ := h.cached number hshared
      exact ⟨hcreated.exists_answer, hshared⟩
    · rw [hobtain]
      exact h.create hload
    · rw [hobtain]
      exact h.answer fun found hfound => by cases hfound

/-- **Runs.**  The events tell of the objects after any requests. -/
theorem serveAll (h : Chronicled fallback events memory) (history : List ConfigRequest) :
    Chronicled fallback (events ++ (memory.serveAll fallback history).1)
      (memory.serveAll fallback history).2 := by
  induction history generalizing events memory with
  | nil =>
    rw [serveAll_nil, List.append_nil]
    exact h
  | cons request rest ih =>
    rw [serveAll_cons, List.append_cons]
    exact ih (h.serve request)

end Chronicled

/-- **Shared settings.**  After any requests:

    * An object shows what was loaded when it was made, with the chunk size that was last assigned
      through it since.
    * A request for the shared settings without a path is answered with the object that the last
      such request with an answer was answered with.  This object was made for a request for the
      shared settings.
    * Any other request that succeeds is answered with a new object, which shows what its source
      has, whatever has been assigned before.  So is the first one for the shared settings.
    * A request that fails leaves all objects as they were, and the shared one in its place.
    * What a source has depends on the content of its file; it is the defaults if no path is given
      and no file is there. -/
theorem settings_shared (fallback : String) (history : List ConfigRequest) (store : Store) :
    let events := (({} : ConfigMemory).serveAll fallback history).1
    let memory := (({} : ConfigMemory).serveAll fallback history).2
    (∀ number earlier source since, Created events number earlier source since →
      ∃ config, source.load fallback earlier = .ok config ∧
        memory.view? number = some (config.withLast (since.filterMap (·.assigned? number)))) ∧
    (∀ number, (events.filterMap (·.shared?)).getLast? = some number →
      memory.obtain fallback store (.shared none) = (.ok number, memory) ∧
      ∃ earlier path since, Created events number earlier (.shared path) since) ∧
    (∀ source config, (source = .shared none → (events.filterMap (·.shared?)).getLast? = none) →
      source.load fallback store = .ok config →
      ∃ number after, memory.obtain fallback store source = (.ok number, after) ∧
        Adds memory number config after ∧ ∀ event ∈ events, event.answer? ≠ some number) ∧
    (∀ source error, (memory.obtain fallback store source).1 = .error error →
      (memory.obtain fallback store source).2 = memory) ∧
    (∀ path location content,
      store.find (Path.normalize (path.getD fallback)) = .ok (location, .file content) →
      Config.loadOr fallback store path = Config.ofBytes content) ∧
    (store.read (Path.normalize fallback) = .error .missing →
      Config.loadOr fallback store none = .ok {}) := by
  intro events memory
  have h : Chronicled fallback events memory := chronicled_nil.serveAll history
  refine ⟨h.shows, fun number hlast => ?shared, fun source config hnone hload => ?new,
    fun source error herror => ?failed, fun path location content hfind => ?file,
    fun hmissing => ?defaults⟩
  case shared =>
    have hshared : memory.shared = some number := h.shared.trans hlast
    exact ⟨by simp only [obtain, hshared], h.cached number hshared⟩
  case new =>
    have hobtain : memory.obtain fallback store source = _ :=
      obtain_eq (fun hsource => h.shared.trans (hnone hsource)) store
    rw [hload] at hobtain
    exact ⟨_, _, hobtain, h.paired.adds_create config _,
      fun event hmem heq => Nat.lt_irrefl _ (h.known event hmem _ heq)⟩
  case failed =>
    rcases memory.obtain_cases store source with
      ⟨number, -, -, hobtain⟩ | ⟨config, -, hobtain⟩ | ⟨error, -, hobtain⟩
    all_goals rw [hobtain] at herror ⊢
    all_goals cases herror
  case file => exact Config.loadOr_file hfind
  case defaults => exact Config.loadOr_none hmissing

example :
    let memory := (({} : ConfigMemory).serveAll "c.toml"
      [.obtain {} .defaults, .obtain {} .defaults, .assign 0 (.integer 1)]).2
    memory.view? 0 = some (({} : Config).withChunkSize (.integer 1)) ∧ memory.view? 1 = some {} :=
  ⟨rfl, rfl⟩

end ConfigMemory

end ElfInspect
