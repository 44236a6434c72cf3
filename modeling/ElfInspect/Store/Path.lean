import ElfInspect.Text.Blank

namespace ElfInspect

/-!
# Paths

A path is a text whose parts are separated by slashes.

* `Path.parts`: the parts that name something, in order;
* `Path.normalize`: the path without empty and without `.` parts;
* `Path.parent`: the path of the directory that a path lies in.
-/

namespace Path

/-- All pieces of a path between slashes, empty ones included. -/
def pieces (path : String) : List String :=
  (splitAtChar '/' path.toList).map String.ofList

/-- The parts of a path that are neither empty nor the current directory. -/
def parts (path : String) : List String :=
  (pieces path).filter fun part => part ≠ "" && part ≠ "."

/-- What a path starts from: nothing for a relative one.  Exactly two slashes at the start are
    kept, any other number counts as one. -/
def root (path : String) : String :=
  match path.toList with
  | '/' :: '/' :: '/' :: _ => "/"
  | '/' :: '/' :: _ => "//"
  | '/' :: _ => "/"
  | _ => ""

/-- A path from its root and its parts. -/
def ofParts (root : String) (parts : List String) : String :=
  if root = "" ∧ parts.isEmpty then "." else root ++ "/".intercalate parts

/-- The path without empty parts and without parts that stay where they are. -/
def normalize (path : String) : String :=
  ofParts (root path) (parts path)

/-- The path of the directory that a path lies in. -/
def parent (path : String) : String :=
  ofParts (root path) (parts path).dropLast

/-- Whether the path starts at the root of the file system. -/
def isAbsolute (path : String) : Bool :=
  path.startsWith "/"

/-- Whether the path ends in a slash or in a part that stays where it is, so that it can only name
    a directory. -/
def namesDirectory (path : String) : Bool :=
  match (pieces path).getLast? with
  -- The last piece is empty behind a slash.
  | some last => last = "" || last = "." || last = ".."
  | none => false

/-- The longest name of a file or directory, in bytes. -/
def longestName : Nat := 255

/-- The longest path, in bytes. -/
def longestPath : Nat := 4095

end Path

end ElfInspect
