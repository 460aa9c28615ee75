import ArchLint.Queue
import ArchLint.Syntax.Node

/-!
# Walking a tree

The nodes of a tree level by level, from a queue: take the front, put its children at the end.
Every node comes with its position, the way down to it from the root.
-/

namespace ArchLint.Syntax

/-- The way from the root of a tree down to a node: at each step, which child is next. -/
abbrev Position := List Nat

def Node.at? : Node → Position → Option Node
  | n, [] => some n
  | n, i :: rest => n.children[i]?.bind (·.at? rest)

def Node.childrenAt (n : Node) (position : Position) : List (Position × Node) :=
  n.children.zipIdx.map fun (child, i) => (position ++ [i], child)

/-- Works off a queue of nodes, at most as many as the first argument says. -/
def walkFrom : Nat → Queue (Position × Node) → List (Position × Node)
  | 0, _ => []
  | fuel + 1, queue =>
    match queue.take? with
    | none => []
    | some ((position, n), rest) =>
      (position, n) :: walkFrom fuel (rest.putAll (n.childrenAt position))

/-- The nodes of a tree with their positions, breadth first. -/
def Node.walk (tree : Node) : List (Position × Node) :=
  walkFrom tree.count ⟨[([], tree)], []⟩

end ArchLint.Syntax
