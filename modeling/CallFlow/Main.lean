import CallFlow.Cli.Command
import Std.Time.DateTime.Timestamp

/-!
# The program

Reads the files that the command may look at, runs the command on them, prints what it prints and
writes what it has changed.
-/

namespace CallFlow.Cli

/-- The variables of the environment that settings are taken from. -/
def readVariables : IO (List (String × String)) := do
  let names := Settings.fields.names.map (Settings.variableStart ++ ·)
  let found ← (names ++ names.map String.toUpper).mapM fun name => do
    return (← IO.getEnv name).map (name, ·)
  return found.filterMap id

/-- Reads a directory entry with all that is below it. Links are kept as links to where they
lead. -/
partial def readEntry (e : IO.FS.DirEntry) : IO Entry := do
  match (← e.path.symlinkMetadata).type with
  | .dir =>
    let entries ← (← e.path.readDir).toList.mapM fun inner => do
      return (inner.fileName, ← readEntry inner)
    return .directory entries
  | .file => return .file (← IO.FS.readBinFile e.path).toList
  | _ => return .link (← IO.FS.realPath e.path).toString

/-- Reads a directory entry without what is below it. -/
def readShallow (e : IO.FS.DirEntry) : IO Entry := do
  if ← e.path.isDir then return .empty
  else return .file []

/-- The names that a path leads along from the top, seen from the directory `here`. -/
def namesFrom (here : List String) (p : Path) : List String :=
  p.parts.foldl (fun names part => if part == ".." then names.dropLast else names ++ [part])
    (if p.slashes = 0 then here else [])

/-- Adds what a path leads to, if there is anything. -/
def addPath (here : List String) (read : IO.FS.DirEntry → IO Entry) (top : Entry) (text : String) :
    IO Entry := do
  let place : IO.FS.DirEntry := { root := ← IO.currentDir, fileName := text }
  if ← place.path.pathExists then
    let target : IO.FS.DirEntry :=
      { root := ← IO.currentDir, fileName := (← IO.FS.realPath place.path).toString }
    return top.put (namesFrom here (Path.ofString text)) (← read target)
  else return top

/-- The files that the arguments ask for. -/
def readWorkspace (a : Arguments) : IO Workspace := do
  let here := (Path.ofString (← IO.currentDir).toString).parts
  let mut top := Entry.empty.put here .empty
  let parents := a.values.map fun v => (Path.ofString v.2 |>.join (Path.ofString "..")).toString
  for text in parents ++ a.values.map (·.2) do
    top ← addPath here readShallow top text
  for text in ".env" :: (if a.positional.isEmpty then ["."] else a.positional) do
    top ← addPath here readEntry top text
  return { top := top, here := here.reverse }

/-- The present time. -/
def presentTime : IO Timestamp := do
  return Timestamp.ofCount (← Std.Time.Timestamp.now).toSecondsSinceUnixEpoch.val

/-- Prints what a run has printed and writes what it has changed. -/
def finish (before : Workspace) (o : Outcome) : IO UInt32 := do
  IO.print o.stdout
  IO.eprint o.stderr
  for (names, content) in before.top.changes o.workspace.top do
    IO.FS.writeBinFile ("/" ++ "/".intercalate names) ⟨content.toArray⟩
  return o.exitCode.toUInt32

end CallFlow.Cli

open CallFlow.Cli in
/-- Runs the command with the given arguments. -/
def main (args : List String) : IO UInt32 := do
  let tools := Tools.standard (← readVariables)
  let w ← readWorkspace ((tools.readArguments args).getD {})
  match run tools args (← presentTime) w with
  | .ok o => finish w o
  | .error .usage =>
    IO.eprintln usage
    return 2
  | .error (.settings e) =>
    IO.eprintln ("Error: " ++ e.message)
    return 1
