import ArchLint.Text.Pieces

/-!
# Paths

A path is a root and a list of parts.  Reading a path drops empty parts and single dots and keeps
double dots; two slashes in front are a root of their own.

* `Path.join_relativeTo?`: what is left of a path below a directory leads back to it.
-/

namespace ArchLint.Disk

inductive Root where
  | none | slash | doubleSlash
  deriving DecidableEq, Repr, Inhabited

def Root.text : Root → String
  | .none => ""
  | .slash => "/"
  | .doubleSlash => "//"

structure Path where
  root : Root
  parts : List String
  deriving DecidableEq, Repr, Inhabited

namespace Path

def rootOf : List Char → Root
  | '/' :: '/' :: '/' :: _ => .slash
  | '/' :: '/' :: _ => .doubleSlash
  | '/' :: _ => .slash
  | _ => .none

def ofString (text : String) : Path :=
  let kept := (Text.pieces '/' text.toList).filter fun piece => !piece.isEmpty && piece != ['.']
  ⟨rootOf text.toList, kept.map String.ofList⟩

/-- The text of a path; the empty path is a dot. -/
def toString (p : Path) : String :=
  if p.root = .none ∧ p.parts = [] then "."
  else p.root.text ++ "/".intercalate p.parts

def isAbsolute (p : Path) : Bool :=
  p.root != .none

/-- The path `q` as seen from `p`: an absolute one stands for itself. -/
def join (p q : Path) : Path :=
  if q.isAbsolute then q else { p with parts := p.parts ++ q.parts }

def parent (p : Path) : Path :=
  { p with parts := p.parts.dropLast }

/-- The last part of the path, empty when it has none. -/
def name (p : Path) : String :=
  p.parts.getLast?.getD ""

/-- A name cut before its last dot, unless that dot is its first or its last character. -/
def splitName (name : List Char) : List Char × List Char :=
  let tail := name.reverse.takeWhile (· != '.')
  let head := (name.reverse.drop (tail.length + 1)).reverse
  if tail.length = name.length || tail.isEmpty || head.isEmpty then (name, [])
  else (head, '.' :: tail.reverse)

/-- The last dot of the name and what follows it. -/
def suffix (p : Path) : String :=
  String.ofList (splitName p.name.toList).2

def stem (p : Path) : String :=
  String.ofList (splitName p.name.toList).1

/-- The path below a directory, when it lies there. -/
def relativeTo? (p directory : Path) : Option Path :=
  if p.root = directory.root ∧ directory.parts <+: p.parts then
    some ⟨.none, p.parts.drop directory.parts.length⟩
  else none

theorem join_relativeTo? {p directory r : Path} (h : p.relativeTo? directory = some r) :
    directory.join r = p := by
  unfold relativeTo? at h
  split at h
  · rename_i hp
    obtain ⟨rest, hrest⟩ := hp.2
    obtain rfl := Option.some.inj h
    obtain ⟨root, parts⟩ := p
    subst hrest
    simp [join, isAbsolute, ← hp.1]
  · simp at h

end Path
end ArchLint.Disk
