import ArchLint.CommandLine

/-!
# The program

Loads what the path on the command line leads to, and shows what a run on it shows.
-/

namespace ArchLint

/-- The bytes of a file.  What cannot be read counts as an empty directory. -/
def loadFile (path : String) : IO Disk.Entry := do
  try return .file (← IO.FS.readBinFile path)
  catch _ => return .directory []

/-- What a path leads to: the bytes of a file, or a directory with its source files. -/
def loadEntry (path : String) : IO (Option Disk.Entry) := do
  let place := (← IO.currentDir) / path
  if ← place.isDir then
    let found ← try place.readDir catch _ => pure #[]
    let sources := found.toList.filter (·.fileName.endsWith Disk.ending)
    return some (.directory (← sources.mapM fun source =>
      return (source.fileName, ← loadFile source.path.toString)))
  else if ← place.pathExists then return some (← loadFile path)
  else return none

/-- A disk that holds what a path leads to, and the directories on the way. -/
def loadDisk (path : String) : IO Disk := do
  let start ← IO.currentDir
  let given := Disk.Path.ofString path
  let empty := Disk.empty (Disk.Path.ofString start.toString).parts
  let mut disk := match ← loadEntry given.toString with
    | some entry => empty.put (empty.settle given) entry
    | none => empty
  for steps in List.range given.parts.length do
    let front : Disk.Path := { given with parts := given.parts.take steps }
    if ← (start / front.toString).isDir then
      disk := disk.makeDirectory (disk.settle front)
  return disk

end ArchLint

def main (arguments : List String) : IO UInt32 := do
  let disk ← ArchLint.loadDisk (arguments.head?.getD "")
  match ArchLint.run disk ((← IO.appPath).toString :: arguments) with
  | .ok shown =>
    IO.print shown
    return 0
  | .error e =>
    IO.eprintln e.message
    return 1
