import ArchLint.Syntax.Node

/-!
# Targets

The expressions to which a value can be bound: names, attributes, subscripts, and tuples and lists of
targets.  Inside a tuple or a list one may be starred, unless it is to be deleted.
-/

namespace ArchLint.Source

open ArchLint.Syntax

mutual

/-- Whether a value can be bound to the expression. -/
def isTarget (starred : Bool) : Node → Bool
  | .mk kind _ fields =>
    match kind with
    | .name | .attribute | .subscript => true
    | .tuple | .list => fieldsAreTargets starred fields
    | _ => false

def fieldsAreTargets (starred : Bool) : List (Field × Value) → Bool
  | [] => true
  | (_, .list items) :: rest => itemsAreTargets starred items && fieldsAreTargets starred rest
  | (_, _) :: rest => fieldsAreTargets starred rest

def itemsAreTargets (starred : Bool) : List Value → Bool
  | [] => true
  | .node (.mk .starred _ [(_, .node n)]) :: rest =>
    starred && isTarget starred n && itemsAreTargets starred rest
  | .node n :: rest => isTarget starred n && itemsAreTargets starred rest
  | _ :: _ => false

end

/-- Whether a value can be bound to the expression, which may be starred itself. -/
def isStarTarget : Node → Bool
  | .mk .starred _ [(_, .node n)] => isTarget true n
  | n => isTarget true n

/-- Whether the expression is a target that is no sequence. -/
def isSingleTarget (n : Node) : Bool :=
  n.kind = .name || n.kind = .attribute || n.kind = .subscript

end ArchLint.Source
