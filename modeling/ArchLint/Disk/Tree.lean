import ArchLint.Disk.Path
import ArchLint.Text.Quoted

/-!
# File trees

A disk as a value: directories with named entries, files with bytes, and a current directory.  A way
through the tree is followed step by step; a step up or a dot is possible from a directory only, and
the directory above the top is the top.  Names and paths have a greatest length.

* `Disk.lookUp` is the entry at a path, `Disk.open?` the one that a text names.
* `Disk.read?` is the text of a file, with one kind of line end.
-/

namespace ArchLint.Disk

inductive Entry where
  | file (bytes : ByteArray)
  | directory (entries : List (String × Entry))

namespace Entry

def isFile : Entry → Bool
  | .file _ => true
  | .directory _ => false

def isDirectory : Entry → Bool
  | .file _ => false
  | .directory _ => true

/-- The entries of a directory; a file has none. -/
def entries : Entry → List (String × Entry)
  | .file _ => []
  | .directory entries => entries

/-- Replaces the entry of a name, or adds it where it comes in the order of names. -/
def put (name : String) (e : Entry) : List (String × Entry) → List (String × Entry)
  | [] => [(name, e)]
  | (n, old) :: rest =>
    if name < n then (name, e) :: (n, old) :: rest
    else if n = name then (n, e) :: rest
    else (n, old) :: put name e rest

/-- The tree with an entry put at a place; directories on the way are made when they are missing. -/
def insert (tree e : Entry) : List String → Entry
  | [] => e
  | name :: rest =>
    let inner := (tree.entries.lookup name).getD (.directory [])
    .directory (put name (inner.insert e rest) tree.entries)

end Entry

inductive Obstacle where
  /-- A step leads nowhere. -/
  | missing
  /-- A name or the whole path is longer than any can be. -/
  | tooLong
  deriving DecidableEq, Repr

def maxNameBytes : Nat := 255

def maxPathBytes : Nat := 4095

/-- Follows steps from the first of a list of directories, each of which is inside the next. -/
def follow : List Entry → List String → Except Obstacle Entry
  | [], _ => .error .missing
  | here :: _, [] => .ok here
  | here :: above, step :: rest =>
    match here with
    | .file _ => .error .missing
    | .directory entries =>
      if step = "." then follow (here :: above) rest
      else if step = ".." then
        match above with
        | [] => follow [here] rest
        | up :: top => follow (up :: top) rest
      else if maxNameBytes < step.utf8ByteSize then .error .tooLong
      else
        match entries.lookup step with
        | some inner => follow (inner :: here :: above) rest
        | none => .error .missing

end Disk

/-- A tree of files and the directory from which relative paths start. -/
structure Disk where
  top : Disk.Entry := .directory []
  current : List String := []

namespace Disk

def empty (current : List String) : Disk :=
  { top := (Entry.directory []).insert (.directory []) current, current }

def currentPath (disk : Disk) : Path :=
  ⟨.slash, disk.current⟩

/-- Puts an entry at a path below the current directory. -/
def put (disk : Disk) (path : Path) (e : Entry) : Disk :=
  { disk with top := disk.top.insert e (disk.currentPath.join path).parts }

/-- Makes a directory, unless it is there. -/
def makeDirectory (disk : Disk) (path : Path) : Disk :=
  match follow [disk.top] (disk.currentPath.join path).parts with
  | .ok _ => disk
  | .error _ => disk.put path (.directory [])

/-- The path from the top that a path means, with every step up taken. -/
def settle (disk : Disk) (path : Path) : Path :=
  let full := disk.currentPath.join path
  { full with parts := full.parts.foldl (fun place step =>
      if step = ".." then place.dropLast else place ++ [step]) [] }

/-- The entry at the end of the steps that a text asks for, from the top or from the current
directory. -/
def find (disk : Disk) (text : String) (absolute : Bool) (steps : List String) :
    Except Obstacle Entry :=
  if text.toList.contains '\x00' then .error .missing
  else if maxPathBytes < text.utf8ByteSize then .error .tooLong
  else follow [disk.top] (if absolute then steps else disk.current ++ steps)

def lookUp (disk : Disk) (path : Path) : Except Obstacle Entry :=
  disk.find path.toString path.isAbsolute path.parts

def isFile (disk : Disk) (path : Path) : Bool :=
  (disk.lookUp path).toOption.any Entry.isFile

def isDirectory (disk : Disk) (path : Path) : Bool :=
  (disk.lookUp path).toOption.any Entry.isDirectory

structure TooLong where
  path : Path
  deriving DecidableEq, Repr

def TooLong.message (e : TooLong) : String :=
  "[Errno 36] File name too long: " ++ Text.quote e.path.toString

/-- Goes on with a path, unless it is too long to be looked up. -/
def checked {α : Type} (disk : Disk) (path : Path) (result : α) : Except TooLong α :=
  match disk.lookUp path with
  | .error .tooLong => .error ⟨path⟩
  | _ => .ok result

/-- The steps that a text asks for: a slash at the end asks for a directory. -/
def steps (text : List Char) : List String :=
  let named := ((Text.pieces '/' text).filter (!·.isEmpty)).map String.ofList
  if text.getLast? = some '/' then named ++ ["."] else named

/-- The entry that a text names; the empty text names none. -/
def open? (disk : Disk) (text : String) : Option Entry :=
  if text.isEmpty then none
  else (disk.find text (Path.rootOf text.toList != .none) (steps text.toList)).toOption

/-- The text with every line end written as a line feed. -/
def unifyLineEnds : List Char → List Char
  | '\r' :: '\n' :: rest => '\n' :: unifyLineEnds rest
  | '\r' :: rest => '\n' :: unifyLineEnds rest
  | c :: rest => c :: unifyLineEnds rest
  | [] => []

/-- The text of the file that a text names, when it is a file of well-formed text. -/
def read? (disk : Disk) (text : String) : Option String :=
  match disk.open? text with
  | some (.file bytes) => (String.fromUTF8? bytes).map fun s => .ofList (unifyLineEnds s.toList)
  | _ => none

end Disk
end ArchLint
