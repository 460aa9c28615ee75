import ArchLint.Catalogue
import ArchLint.Disk.Tree

/-!
# Selecting files

Which files are analysed for a path: a file of the right suffix by itself, a directory by the
entries of the right ending, in the order in which the directory has them, and nothing else.
-/

namespace ArchLint

namespace Disk

def ending : String := ".py"

def sourceNames (e : Entry) : List String :=
  (e.entries.map (·.1)).filter fun name => ending.toList.isSuffixOf name.toList

/-- The paths of the entries of a directory with the right ending; none when it is no directory. -/
def sourcesIn (disk : Disk) (directory : Path) : List String :=
  match disk.lookUp directory with
  | .ok (.directory entries) =>
    (sourceNames (.directory entries)).map fun name =>
      (directory.join ⟨.none, [name]⟩).toString
  | _ => []

end Disk

inductive PathKind where
  | pythonFile | directory | other
  deriving DecidableEq, Repr, Inhabited

namespace PathKind

def label : PathKind → String
  | .pythonFile => "python_file"
  | .directory => "directory"
  | .other => "other"

def catalogue : Catalogue PathKind :=
  .ofList "PathType" label [.pythonFile, .directory, .other]

def ofPath (disk : Disk) (path : Disk.Path) : PathKind :=
  if disk.isFile path then if path.suffix = Disk.ending then .pythonFile else .other
  else if disk.isDirectory path then .directory
  else .other

/-- What a text leads to on a disk, unless it is too long. -/
def ofText (disk : Disk) (text : String) : Except Disk.TooLong PathKind :=
  let path := Disk.Path.ofString text
  disk.checked path (ofPath disk path)

def files (kind : PathKind) (disk : Disk) (text : String) : List String :=
  let path := Disk.Path.ofString text
  match kind with
  | .pythonFile => [path.toString]
  | .directory => disk.sourcesIn path
  | .other => []

end PathKind

namespace Disk

def selected (disk : Disk) (text : String) : Except TooLong (List String) :=
  (PathKind.ofText disk text).map fun kind => kind.files disk text

/-- The files at a path, whatever the suffix of a single file. -/
def filesAt (disk : Disk) (path : Path) : List String :=
  if disk.isFile path then [path.toString]
  else if disk.isDirectory path then disk.sourcesIn path
  else []

/-- The place of a package: beside a target that has a suffix, else below it. -/
def packagePath (target package : String) : Path :=
  let path := Path.ofString target
  (if path.suffix.isEmpty then path else path.parent).join (Path.ofString package)

structure NotBelow where
  path : Path
  directory : Path
  deriving DecidableEq, Repr

def NotBelow.message (e : NotBelow) : String :=
  Text.quote e.path.toString ++ " is not in the subpath of " ++ Text.quote e.directory.toString ++
    " OR one path is relative and the other is absolute."

/-- The place of a package, as seen from a directory: it is written, read again and cut. -/
def packageFrom (directory : Path) (target package : String) : Except NotBelow String :=
  let path := Path.ofString (packagePath target package).toString
  match path.relativeTo? directory with
  | some below => .ok below.toString
  | none => .error ⟨path, directory⟩

def relativePackage (disk : Disk) (target package : String) : Except NotBelow String :=
  packageFrom disk.currentPath target package

end Disk
end ArchLint
