import ArchLint.Context
import ArchLint.Finding
import ArchLint.Syntax.Spelling

/-!
# Calls

What a call does, told from the name of the function that it calls.  The name is text in every tree
that was read from source; elsewhere it is what the field of the node holds.

* `CallKind.ofSigns_eq`, `Call.kind_eq`: the table of kinds, told as cases.
-/

namespace ArchLint.Rule

open ArchLint.Syntax (Fault Node Value)

inductive CallKind where
  | typeCheck | jsonOperation | pydanticOperation | computedField
  deriving DecidableEq, Repr, Inhabited

namespace CallKind

def label : CallKind → String
  | .typeCheck => "type_check"
  | .jsonOperation => "json_operation"
  | .pydanticOperation => "pydantic_operation"
  | .computedField => "computed_field"

def catalogue : Catalogue CallKind :=
  .ofList "CallPattern" label [.typeCheck, .jsonOperation, .pydanticOperation, .computedField]

/-- The kind for three memberships: among the functions that ask for types, those of JSON, and those
of models.  No function is in two lists, but the table has an answer for that too. -/
def ofSigns : Bool → Bool → Bool → CallKind
  | true, false, false => .typeCheck
  | false, true, false => .jsonOperation
  | false, false, true => .pydanticOperation
  | false, false, false => .computedField
  | true, true, false => .typeCheck
  | true, false, true => .typeCheck
  | false, true, true => .jsonOperation
  | true, true, true => .typeCheck

theorem ofSigns_eq (types json models : Bool) :
    ofSigns types json models =
      if types then .typeCheck
      else if json then .jsonOperation
      else if models then .pydanticOperation
      else .computedField := by
  cases types <;> cases json <;> cases models <;> rfl

def mark : CallKind → Mark
  | .typeCheck => .violation .isinstanceUsage
  | .jsonOperation => .violation .manualJsonSerialization
  | .pydanticOperation => .pattern .pydanticSerialization
  | .computedField => .pattern .computedFields

end CallKind

structure Call where
  function : Value
  line : Int
  deriving DecidableEq, Repr, Inhabited

namespace Call

def typeCheckFunctions : List String :=
  ["isinstance", "type", "hasattr", "getattr", "cast", "Any"]

def jsonFunctions : List String :=
  ["dumps", "loads", "dump", "load"]

def modelFunctions : List String :=
  ["model_dump", "model_validate", "model_copy", "Field"]

def calls (c : Call) (names : List String) : Bool :=
  names.any fun name => c.function == .text name

def kind (c : Call) : CallKind :=
  .ofSigns (c.calls typeCheckFunctions) (c.calls jsonFunctions) (c.calls modelFunctions)

theorem kind_eq (c : Call) :
    c.kind =
      if c.calls typeCheckFunctions then .typeCheck
      else if c.calls jsonFunctions then .jsonOperation
      else if c.calls modelFunctions then .pydanticOperation
      else .computedField :=
  CallKind.ofSigns_eq _ _ _

def findings (c : Call) (file : String) : List Finding :=
  [.ofMark c.kind.mark file c.line c.function.shown]

/-- The name of the function that a value stands for: an identifier, or the last one of a chain. -/
def functionName : Option Value → Value
  | some (.node f) =>
    match f.kind with
    | .name => (f.get? .id).getD (.text "unknown")
    | .attribute => (f.get? .attr).getD (.text "unknown")
    | _ => .text "unknown_function"
  | _ => .text "unknown_function"

/-- A node as a call; a list is no name of a function. -/
def ofNode (n : Node) : Except Fault Call :=
  match functionName (n.get? .func) with
  | .list _ => .error (.unhashable "list")
  | name => .ok ⟨name, n.lineNumber⟩

def analyze (n : Node) (context : Context) : Except Fault (List Finding) :=
  (ofNode n).map (·.findings context.file)

end Call
end ArchLint.Rule
