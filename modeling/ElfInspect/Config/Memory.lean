import ElfInspect.Config

namespace ElfInspect

/-!
# Settings objects

Settings that are handed out can be changed, and a change is seen by all who hold them.  So they
are objects, which are referred to by number, and the decoder's settings in them are objects of
their own.

* `ConfigSource`: where settings come from;
* `ConfigMemory`: the objects of a process, of which one may be shared;
* `ConfigMemory.obtain`, `ConfigMemory.assign`: what can be done with them;
* `ConfigMemory.serveAll`: requests one after another.
-/

/-! ### Sources -/

/-- A request for settings: the defaults, those of a file, or the shared ones. -/
inductive ConfigSource
  | defaults
  | file (path : Option String)
  | shared (path : Option String)
  deriving Repr, DecidableEq

/-- What a source has for those who do not share settings. -/
def ConfigSource.load (fallback : String) (store : Store) : ConfigSource → Except ConfigError Config
  | .defaults => .ok {}
  | .file path | .shared path => Config.loadOr fallback store path

/-! ### Objects -/

/-- An object with settings.  It refers to the settings of the decoder, the only ones that are
    assigned to. -/
structure ConfigObject where
  globalSettings : GlobalSettings
  decoder : Nat
  display : DisplaySettings
  deriving Repr, Inhabited

/-- The objects of a process, and which settings it shares once they have been asked for. -/
structure ConfigMemory where
  decoders : List DecoderSettings := []
  objects : List ConfigObject := []
  shared : Option Nat := none
  deriving Repr, Inhabited

namespace ConfigMemory

/-- What an object shows. -/
def view? (memory : ConfigMemory) (number : Nat) : Option Config := do
  let object ← memory.objects[number]?
  let decoder ← memory.decoders[object.decoder]?
  return { globalSettings := object.globalSettings, decoder, display := object.display }

/-- A new object, with decoder settings of its own. -/
def create (memory : ConfigMemory) (config : Config) : Nat × ConfigMemory :=
  let object : ConfigObject :=
    { globalSettings := config.globalSettings, decoder := memory.decoders.length
      display := config.display }
  (memory.objects.length,
    { memory with
      decoders := memory.decoders ++ [config.decoder], objects := memory.objects ++ [object] })

/-- Assigns a chunk size, which is not checked, to the decoder settings of an object. -/
def assign (memory : ConfigMemory) (number : Nat) (size : Value) : ConfigMemory :=
  match memory.objects[number]? with
  | none => memory
  | some object =>
    -- All objects that refer to these decoder settings show the new size.
    { memory with decoders := memory.decoders.set object.decoder { readChunkSize := size } }

/-- A new object with what a source has. -/
def load (fallback : String) (memory : ConfigMemory) (store : Store) (source : ConfigSource) :
    Except ConfigError Nat × ConfigMemory :=
  match source.load fallback store with
  | .ok config => (.ok (memory.create config).1, (memory.create config).2)
  | .error error => (.error error, memory)

/-- The object for a request.  Shared settings are loaded if a path is given or if there are none,
    and from then on they are the shared ones; if that fails the earlier ones stay. -/
def obtain (fallback : String) (memory : ConfigMemory) (store : Store) (source : ConfigSource) :
    Except ConfigError Nat × ConfigMemory :=
  match source, memory.shared with
  -- Settings that are shared already are answered without a look at the store.
  | .shared none, some number => (.ok number, memory)
  | .shared _, _ =>
    match memory.load fallback store source with
    | (.ok number, memory) => (.ok number, { memory with shared := some number })
    | (.error error, memory) => (.error error, memory)
  | _, _ => memory.load fallback store source

end ConfigMemory

/-! ### Any number of requests -/

/-- What is asked of the settings of a process: an object with settings, or another chunk size in
    the settings that an object has. -/
inductive ConfigRequest
  | obtain (store : Store) (source : ConfigSource)
  | assign (number : Nat) (size : Value)

/-- A request that has been served, with the object or error that was answered. -/
inductive ConfigEvent
  | obtained (store : Store) (source : ConfigSource) (answer : Except ConfigError Nat)
  | assigned (number : Nat) (size : Value)

namespace ConfigMemory

/-- Serves a request. -/
def serve (fallback : String) (memory : ConfigMemory) : ConfigRequest → ConfigEvent × ConfigMemory
  | .obtain store source =>
    (.obtained store source (memory.obtain fallback store source).1,
      (memory.obtain fallback store source).2)
  | .assign number size => (.assigned number size, memory.assign number size)

/-- Serves requests: what came of them, and the objects afterwards. -/
def serveAll (fallback : String) (memory : ConfigMemory) :
    List ConfigRequest → List ConfigEvent × ConfigMemory
  | [] => ([], memory)
  | request :: rest =>
    let (event, memory) := memory.serve fallback request
    let (events, memory) := memory.serveAll fallback rest
    (event :: events, memory)

@[simp]
theorem serveAll_nil (fallback : String) (memory : ConfigMemory) :
    memory.serveAll fallback [] = ([], memory) := rfl

theorem serveAll_cons (fallback : String) (memory : ConfigMemory) (request : ConfigRequest)
    (rest : List ConfigRequest) :
    memory.serveAll fallback (request :: rest) =
      ((memory.serve fallback request).1 ::
          ((memory.serve fallback request).2.serveAll fallback rest).1,
        ((memory.serve fallback request).2.serveAll fallback rest).2) := rfl

end ConfigMemory

end ElfInspect
