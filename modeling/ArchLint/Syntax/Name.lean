import ArchLint.Syntax.Fault
import ArchLint.Text.Lower

/-!
# Names of nodes

The name that stands for a node: of a definition its own, of a name or an attribute the identifier,
of a call what it calls, of a conditional what it tests.  Other nodes are named for their class.  A
name is text in every tree that was read from source; elsewhere it is what the field holds.
-/

namespace ArchLint.Syntax

def required (kind : Kind) (field : Field) (fields : List (Field × Value)) : Except Fault Value :=
  match fields.lookup field with
  | some value => .ok value
  | none => .error (.missingField kind field)

/-- The name for something of a class that has no names. -/
def unknownName (label : String) : Value :=
  .text ("unknown_" ++ Text.lower label)

mutual

/-- The name of a node, or the field that it lacks. -/
def Node.name : Node → Except Fault Value
  | .mk kind _ fields =>
    match kind with
    | .functionDef | .asyncFunctionDef | .classDef => required kind .name fields
    | .name => required kind .id fields
    | .attribute => required kind .attr fields
    | .call => nameThrough kind .func "unknown_call" fields
    | .ifStmt => nameThrough kind .test "condition" fields
    | _ => .ok (unknownName kind.label)

/-- The name of what a required field holds; `blank` when it holds nothing. -/
def nameThrough (kind : Kind) (field : Field) (blank : String) :
    List (Field × Value) → Except Fault Value
  | [] => .error (.missingField kind field)
  | (f, value) :: rest =>
    if f = field then value.nameOr blank else nameThrough kind field blank rest

/-- The name of a value; `blank` when it counts as not given. -/
def Value.nameOr (blank : String) : Value → Except Fault Value
  | .node n => n.name
  | .list items => .ok (if items.isEmpty then .text blank else unknownName "list")
  | .constant c => .ok (if c.isSet then unknownName c.label else .text blank)

end

end ArchLint.Syntax
