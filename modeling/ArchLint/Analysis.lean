import ArchLint.Rule.Literal
import ArchLint.ScopeMap
import ArchLint.Syntax.Printer

/-!
# The analysis of a tree

Three passes over a tree.  The first notes the scopes around every node; the second goes through the
nodes level by level and judges each in its own context; the third looks for repeated literals.
-/

namespace ArchLint

open ArchLint.Syntax (Node Value Position Fault)

/-- The context of the node at a position: that of the file, with the scopes around the node. -/
def nodeContext (scopes : ScopeMap) (context : Context) (position : Position) : Context :=
  { context with scopes := (scopes.get? position).getD [] }

/-- Joins lists of findings; the first fault wins. -/
def joinFindings : List (Except Fault (List Finding)) → Except Fault (List Finding)
  | [] => .ok []
  | .error fault :: _ => .error fault
  | .ok found :: rest => (joinFindings rest).map (found ++ ·)

/-- The findings of the nodes of a tree, level by level, where `render` prints tests. -/
def nodeFindings (render : Value → Except Fault String) (tree : Node) (context : Context) :
    Except Fault (List Finding) :=
  let scopes := ScopeMap.ofTree tree
  joinFindings (tree.walk.map fun (position, n) =>
    n.kind.role.findings render n (nodeContext scopes context position))

def analyzeWith (render : Value → Except Fault String) (tree : Node) (context : Context) :
    Except Fault (List Finding) :=
  (nodeFindings render tree context).map (· ++ Rule.Literals.analyze tree context.file)

def analyze (tree : Node) (context : Context) : Except Fault (List Finding) :=
  analyzeWith Value.print tree context

end ArchLint
