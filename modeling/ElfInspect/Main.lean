import ElfInspect.Command
import Std.Time

/-!
# The program

Takes a picture of the files that a command line may concern, runs the command on it, and puts the
changes into effect.
-/

namespace ElfInspect

/-- The paths that the words of a command line name. -/
def pathsOf (arguments : List String) : List String :=
  match readWords {} arguments with
  | .error _ => []
  | .ok given => given.positional ++ (given.value? .config).toList ++ (given.value? .output).toList

/-- The log file that the settings of a command line name, with its backups. -/
def logFilesOf (fallback : String) (store : Store) (arguments : List String) : List String :=
  match readWords {} arguments with
  | .error _ => []
  | .ok given =>
    match Config.loadOr fallback store (given.value? .config) with
    | .ok { globalSettings := { logFile := .text file, .. }, .. } =>
      let rotation : Rotation := {}
      file :: (List.range rotation.backups).map fun i => backupPath file (i + 1)
    | _ => []

/-- A path and the paths of all directories that it lies in, outermost first. -/
def pathsTo (path : String) : List String :=
  let parts := Path.parts path
  (List.range parts.length).map fun i => Path.ofParts (Path.root path) (parts.take (i + 1))

/-- Adds what stands at a path of the file system to a picture of it. -/
def addPath (store : Store) (path : String) : IO Store := do
  try
    let real ← IO.FS.realPath path
    if ← real.isDir then
      return (store.makeDirectories path).2
    else
      match store.write path (← IO.FS.readBinFile path).data with
      | .ok store => return store
      | .error _ => return store
  catch _ => return store

/-- Adds what stands at some paths and above them. -/
def addPaths (store : Store) (paths : List String) : IO Store :=
  (paths.flatMap pathsTo).foldlM addPath store

/-- The picture of the files that a command line concerns. -/
def takePicture (fallback : String) (arguments : List String) : IO Store := do
  let here := Path.parts (← IO.currentDir).toString
  let store ← addPaths { here } (fallback :: pathsOf arguments)
  addPaths store (logFilesOf fallback store arguments)

/-- Puts the files of a store that differ from an earlier picture into the file system, and takes
    those away that are gone. -/
def putIntoEffect (before after : Store) : IO Unit := do
  for (path, _) in before.toList do
    if (after.toList.lookup path).isNone then IO.FS.removeFile path
  for (path, content) in after.toList do
    if before.toList.lookup path ≠ some content then
      IO.FS.createDirAll (Path.parent path)
      IO.FS.writeBinFile path ⟨content⟩

/-- What the clock shows when a run starts. -/
def readClock : IO Clock := do
  let now := Std.Time.DateTime.ofTimestampWithZone (← Std.Time.Timestamp.now) Std.Time.TimeZone.UTC
  return { precise := now.format "uuuu-MM-dd'T'HH:mm:ss.SSSSSSxxx"
           short := now.format "uuuu-MM-dd'T'HH:mm:ssxx", elapsed := "0.000" }

/-- What the machine is taken to be able to do: it holds some gigabytes, and its stack bears about a
    thousand calls. -/
def usualMachine : Machine :=
  { room := ⟨34359738368, by decide⟩, textDepth := 1000, jsonDepth := 1000 }

/-- Where the settings are if the command line names no file: beside the program. -/
def readSettingsPath : IO String := do
  return (← IO.appDir).toString ++ "/config.toml"

/-- The width of the console. -/
def readColumns : IO Nat := do
  return ((← IO.getEnv "COLUMNS").bind String.toNat?).getD 80

/-- What is said on the error stream about the end of a run. -/
def complaint : Ending → String
  | .stopped (.usage error) => "Usage: elfscope [OPTIONS] PATH\n\nError: " ++ error.message ++ "\n"
  | .stopped (.crash cause) => cause.message ++ "\n"
  | _ => ""

end ElfInspect

open ElfInspect

/-- Runs the command and answers its exit code. -/
def main (arguments : List String) : IO UInt32 := do
  let settingsPath ← readSettingsPath
  let store ← takePicture settingsPath arguments
  let occasion : Occasion := { toClock := ← readClock, machine := usualMachine }
  let surroundings : Surroundings := { columns := ← readColumns, occasion, settingsPath }
  let outcome := Command.run surroundings store arguments
  (← IO.getStdout).putStr outcome.state.shown
  (← IO.getStderr).putStr (outcome.state.logs.console ++ complaint outcome.ending)
  putIntoEffect store outcome.state.logs.store
  return outcome.ending.exitCode.toUInt32
