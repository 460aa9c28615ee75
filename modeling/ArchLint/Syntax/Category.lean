import ArchLint.Catalogue
import ArchLint.Syntax.Name

/-!
# Categories of nodes

What a node contributes to a program, told from its class alone, and the summary of a node: its
category, its line, which may be any number, and its name.
-/

namespace ArchLint.Syntax

inductive Category where
  | structural | behavioral | controlFlow | data
  deriving DecidableEq, Repr, Inhabited

namespace Category

def label : Category → String
  | .structural => "structural"
  | .behavioral => "behavioral"
  | .controlFlow => "control_flow"
  | .data => "data"

def catalogue : Catalogue Category :=
  .ofList "ASTNodeCategory" label [.structural, .behavioral, .controlFlow, .data]

def priority : Category → Nat
  | .structural => 1
  | .controlFlow => 2
  | .behavioral => 3
  | .data => 4

def createsScope (c : Category) : Bool :=
  c = .structural

def needsFlowAnalysis (c : Category) : Bool :=
  c = .controlFlow || c = .behavioral

def canContainPatterns (c : Category) : Bool :=
  c != .data

end Category

def Kind.category : Kind → Category
  | .functionDef | .asyncFunctionDef | .classDef | .moduleBody => .structural
  | .ifStmt | .forStmt | .whileStmt | .tryStmt | .exceptHandler => .controlFlow
  | .call | .attribute | .binOp | .unaryOp | .compare => .behavioral
  | _ => .data

/-- What is told of a node before it is judged. -/
structure Summary where
  category : Category
  line : Int
  name : Value
  deriving DecidableEq, Repr, Inhabited

/-- The summary of a node, or the field that its name lacks. -/
def Node.summary (n : Node) : Except Fault Summary :=
  n.name.map fun name => ⟨n.kind.category, n.lineNumber, name⟩

end ArchLint.Syntax
