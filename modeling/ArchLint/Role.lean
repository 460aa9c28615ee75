import ArchLint.Rule.Attribute
import ArchLint.Rule.Call
import ArchLint.Rule.Conditional

/-!
# Roles of nodes

What a node is to the analysis: a definition, a conditional, a call, an access, or nothing.  The
role decides which scope a node opens and by which rule it is judged.  A node without a line opens a
scope on line 0; the bounds on lines are not checked, neither here nor when a finding is made.

* `Role.around_snd`: a visit inside a node that leaves the scopes as it finds them leaves the scopes
  around the node as they were.
-/

namespace ArchLint

open ArchLint.Syntax (Kind Node Field Value Fault)

inductive Role where
  | functionDef | classDef | conditional | matchCase | call | attribute | unknown
  deriving DecidableEq, Repr, Inhabited

def Syntax.Kind.role : Kind → Role
  | .functionDef | .asyncFunctionDef => .functionDef
  | .classDef => .classDef
  | .ifStmt => .conditional
  | .matchStmt => .matchCase
  | .call => .call
  | .attribute => .attribute
  | _ => .unknown

namespace Role

def label : Role → String
  | .functionDef => "function_def"
  | .classDef => "class_def"
  | .conditional => "conditional"
  | .matchCase => "match_case"
  | .call => "call"
  | .attribute => "attribute"
  | .unknown => "unknown"

def catalogue : Catalogue Role :=
  .ofList "ASTNodeType" label
    [.functionDef, .classDef, .conditional, .matchCase, .call, .attribute, .unknown]

/-- Whether nodes of the role open a scope for what is inside them. -/
def createsScope : Role → Bool
  | .functionDef | .classDef | .conditional | .matchCase => true
  | .call | .attribute | .unknown => false

def ownName (n : Node) (default : String) : Value :=
  (n.attribute? .name).getD (.text default)

def scope (role : Role) (n : Node) : Scope :=
  match role with
  | .functionDef => ⟨.function, ownName n "unknown_function", n.lineNumber⟩
  | .classDef => ⟨.classBody, ownName n "unknown_class", n.lineNumber⟩
  | .conditional => ⟨.conditional, .text "conditional", n.lineNumber⟩
  | .matchCase => ⟨.conditional, .text "match_case", n.lineNumber⟩
  | .call => ⟨.function, .text "call", n.lineNumber⟩
  | .attribute => ⟨.function, .text "attribute", n.lineNumber⟩
  | .unknown => ⟨.module, .text "unknown", n.lineNumber⟩

/-- Visits what is inside a node: its scope is put last for the visit, and dropped after it. -/
def around {α : Type} (role : Role) (n : Node) (visit : List Scope → α × List Scope)
    (scopes : List Scope) : α × List Scope :=
  if role.createsScope then
    let (result, after) := visit (scopes ++ [role.scope n])
    (result, after.dropLast)
  else visit scopes

theorem around_snd {α : Type} (role : Role) (n : Node) (visit : List Scope → α × List Scope)
    (scopes : List Scope) (h : ∀ s, (visit s).2 = s) : (role.around n visit scopes).2 = scopes := by
  unfold around
  split <;> simp [h]

def findings (role : Role) (render : Value → Except Fault String) (n : Node) (context : Context) :
    Except Fault (List Finding) :=
  match role with
  | .conditional | .matchCase => Rule.Conditional.analyze render n context
  | .call => Rule.Call.analyze n context
  | .attribute => Rule.Attribute.analyze n context
  | .functionDef | .classDef | .unknown => .ok []

end Role
end ArchLint
