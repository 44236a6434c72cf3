import ElfInspect.DecodeError
import ElfInspect.Store.Path

namespace ElfInspect

/-!
# The file store

The files that a command reads and writes, as a value: a tree of directories, one of which is the
current one.

* `Store.find`: what a path leads to;
* `Store.read`, `Store.write`, `Store.append`: the contents of files;
* `Store.remove`, `Store.rename`: the places of files;
* `Store.makeDirectories`: a directory and all that it lies in;
* `PathFault`: a refused operation with the path that it concerns.
-/

/-- A directory tree.  A location is the list of names from the root down; `here` is that of the
    current directory, which exists together with all directories that it lies in. -/
structure Store where
  files : List (List String × Bytes) := []
  directories : List (List String) := []
  here : List String := []
  deriving Repr, DecidableEq, Inhabited

/-- A refused operation of the file system with the path that it concerns. -/
structure PathFault where
  path : String
  fault : FileFault
  deriving Repr, DecidableEq

/-- The wording of a refused operation. -/
def PathFault.message (f : PathFault) : String :=
  f.fault.message f.path

namespace Store

/-- What stands at a location. -/
inductive Entry
  | file (content : Bytes)
  | directory
  | absent
  deriving Repr, DecidableEq

/-- What stands at a location. -/
def entry (store : Store) (location : List String) : Entry :=
  match store.files.find? fun f => f.1 = location with
  | some (_, content) => .file content
  | none =>
    if location.isPrefixOf store.here ∨ location ∈ store.directories then .directory else .absent

/-- The location that a path starts from. -/
def start (store : Store) (path : String) : List String :=
  if Path.isAbsolute path then [] else store.here

/-- Follows the parts of a path from a location.  A part can only be followed from a directory. -/
def follow (store : Store) (location : List String) :
    List String → Except FileFault (List String)
  | [] => .ok location
  | part :: rest =>
    match store.entry location with
    | .absent => .error .missing
    | .file _ => .error .notDirectory
    | .directory =>
      -- At the root this stays where it is.
      if part = ".." then follow store location.dropLast rest
      else if Path.longestName < part.utf8ByteSize then .error .nameTooLong
      else follow store (location ++ [part]) rest

/-- The location that a path leads to, which may be vacant, and what stands there. -/
def find (store : Store) (path : String) : Except FileFault (List String × Entry) :=
  if path.toList.contains '\x00' then .error .nulInPath
  else if path = "" then .error .missing
  else if Path.longestPath < path.utf8ByteSize then .error .nameTooLong
  else
    match store.follow (store.start path) (Path.parts path) with
    | .error fault => .error fault
    | .ok location =>
      match store.entry location with
      | .file content =>
        -- A path that ends like that of a directory does not lead to a file.
        if Path.namesDirectory path then .error .notDirectory else .ok (location, .file content)
      | found => .ok (location, found)

/-- Whether a path leads to a directory. -/
def isDirectory (store : Store) (path : String) : Bool :=
  match store.find path with
  | .ok (_, .directory) => true
  | _ => false

/-- The content of the file that a path leads to. -/
def read (store : Store) (path : String) : Except FileFault Bytes :=
  match store.find path with
  | .error fault => .error fault
  | .ok (_, .file content) => .ok content
  | .ok (_, .directory) => .error .isDirectory
  | .ok (_, .absent) => .error .missing

/-- Puts a file at a location, in place of one that stands there. -/
def put (store : Store) (location : List String) (content : Bytes) : Store :=
  if store.files.any fun f => f.1 = location then
    { store with files := store.files.map fun f =>
        if f.1 = location then (location, content) else f }
  else { store with files := store.files ++ [(location, content)] }

/-- Changes the content of the file that a path leads to; a vacant location counts as empty. -/
def update (store : Store) (path : String) (change : Bytes → Bytes) : Except FileFault Store :=
  match store.find path with
  | .error fault => .error fault
  | .ok (_, .directory) => .error .isDirectory
  | .ok (location, .file content) => .ok (store.put location (change content))
  | .ok (location, .absent) =>
    -- A new file needs a name of its own and a directory to stand in.
    if Path.namesDirectory path then .error .isDirectory
    else
      match store.entry location.dropLast with
      | .directory => .ok (store.put location (change #[]))
      | .file _ => .error .notDirectory
      | .absent => .error .missing

/-- Writes a file, in place of one that stands there. -/
def write (store : Store) (path : String) (content : Bytes) : Except FileFault Store :=
  store.update path fun _ => content

/-- Adds to the end of a file, which is created if need be. -/
def append (store : Store) (path : String) (content : Bytes) : Except FileFault Store :=
  store.update path (· ++ content)

/-- Whether anything stands where a path leads. -/
def holds (store : Store) (path : String) : Bool :=
  match store.find path with
  | .error _ | .ok (_, .absent) => false
  | .ok _ => true

/-- Removes a file. -/
def remove (store : Store) (path : String) : Except FileFault Store :=
  match store.find path with
  | .error fault => .error fault
  | .ok (location, .file _) =>
    .ok { store with files := store.files.filter fun f => f.1 ≠ location }
  | .ok (_, .directory) => .error .isDirectory
  | .ok (_, .absent) => .error .missing

/-- Where a location goes when everything below `source` comes to stand below `target`. -/
def relocated (source target location : List String) : List String :=
  if source.isPrefixOf location then target ++ location.drop source.length else location

/-- Gives another path to what stands at one, with all that lies in it.  Nothing may stand there
    yet. -/
def rename (store : Store) (path target : String) : Except FileFault Store :=
  match store.find path, store.find target with
  | .error fault, _ => .error fault
  | .ok (_, .absent), _ => .error .missing
  | _, .error fault => .error fault
  | .ok (source, _), .ok (place, .absent) =>
    -- A directory takes along all that lies below it, and the current directory if that is there.
    let move := relocated source place
    .ok { files := store.files.map fun f => (move f.1, f.2)
          directories := store.directories.map move
          here := move store.here }
  | .ok _, .ok _ => .error .exists

/-- Creates one directory, in a directory that exists. -/
def makeDirectory (store : Store) (path : String) : Except FileFault Store :=
  match store.find path with
  | .error fault => .error fault
  | .ok (location, .absent) => .ok { store with directories := store.directories ++ [location] }
  | .ok _ => .error .exists

/-- The outcome of creating a directory: where one stands already, nothing is wrong. -/
def settle (store : Store) (path : String) :
    Except FileFault Store → Option PathFault × Store
  | .ok store => (none, store)
  -- Only after a failure is it asked whether a directory stands there.
  | .error fault => (if store.isDirectory path then none else some ⟨path, fault⟩, store)

/-- Creates the directory with the given parts, last part first.  Only if it lies in a directory
    that is missing, that one is created before it. -/
def makeParts (store : Store) (root : String) : List String → Option PathFault × Store
  | [] =>
    let path := Path.ofParts root []
    store.settle path (store.makeDirectory path)
  | part :: above =>
    let path := Path.ofParts root (part :: above).reverse
    -- The innermost directory is tried first, and the way up only as far as needed.
    match store.makeDirectory path with
    | .error .missing =>
      match store.makeParts root above with
      | (none, store) => store.settle path (store.makeDirectory path)
      | (some fault, store) => (some fault, store)
    | outcome => store.settle path outcome

/-- Creates a directory and all that it lies in; those that exist are kept, and so are those that
    were created before something went wrong. -/
def makeDirectories (store : Store) (path : String) : Option PathFault × Store :=
  store.makeParts (Path.root path) (Path.parts path).reverse

/-- A store with the given files and directories, whose parents are created as well, and a current
    directory. -/
def ofList (here : List String) (files : List (String × Bytes)) (directories : List String) :
    Store :=
  let store := directories.foldl (fun store d => (store.makeDirectories d).2) { here }
  files.foldl (fun store (path, content) =>
    let store := (store.makeDirectories (Path.parent path)).2
    match store.write path content with
    | .ok store => store
    | .error _ => store) store

/-- The path of a location, relative to the current directory if it lies there. -/
def pathOf (store : Store) (location : List String) : String :=
  if store.here.isPrefixOf location then "/".intercalate (location.drop store.here.length)
  else "/" ++ "/".intercalate location

/-- The files with their paths. -/
def toList (store : Store) : List (String × Bytes) :=
  store.files.map fun (location, content) => (store.pathOf location, content)

end Store

/-- Opens a file for decoding.  A path with a NUL in it is a misuse, whatever the store holds. -/
def openFile (room : Room) (store : Store) (path : String) : Except LoadFailure Device :=
  match store.read path with
  | .error .nulInPath => .error (DecodeError.unphased (.misuse .nulInPath))
  | .error fault => .error (DecodeError.unphased (.cannotOpen path fault))
  | .ok content => .ok (.ofFile room content)

end ElfInspect
