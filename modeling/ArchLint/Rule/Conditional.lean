import ArchLint.Context
import ArchLint.Finding
import ArchLint.Syntax.Category

/-!
# Conditionals

What a conditional is for, told from the text of its test and from the name of the scope around it.
There are four signs, and a table has the answer for every combination of them.

* `ConditionalKind.ofSigns_eq`, `Conditional.kind_eq`: the table, told as cases: **the signs have an
  order, and the first that holds decides**.
-/

namespace ArchLint.Rule

open ArchLint.Syntax (Summary Fault Node Value)

inductive ConditionalKind where
  | typeGuard | validationCheck | boundaryCondition | lazyInitialization | businessLogic
  deriving DecidableEq, Repr, Inhabited

namespace ConditionalKind

def label : ConditionalKind → String
  | .typeGuard => "type_guard"
  | .validationCheck => "validation_check"
  | .boundaryCondition => "boundary_condition"
  | .lazyInitialization => "lazy_initialization"
  | .businessLogic => "business_logic"

def catalogue : Catalogue ConditionalKind :=
  .ofList "ConditionalPattern" label
    [.typeGuard, .validationCheck, .boundaryCondition, .lazyInitialization, .businessLogic]

/-- The kind for the four signs: the guard of type checkers, a scope that validates, lazy
initialization, and a boundary. -/
def ofSigns : Bool → Bool → Bool → Bool → ConditionalKind
  | true, false, false, false => .typeGuard
  | true, false, false, true => .typeGuard
  | true, false, true, false => .typeGuard
  | true, false, true, true => .typeGuard
  | true, true, false, false => .typeGuard
  | true, true, false, true => .typeGuard
  | true, true, true, false => .typeGuard
  | true, true, true, true => .typeGuard
  | false, true, false, false => .validationCheck
  | false, true, false, true => .validationCheck
  | false, true, true, false => .validationCheck
  | false, true, true, true => .validationCheck
  | false, false, true, false => .lazyInitialization
  | false, false, true, true => .lazyInitialization
  | false, false, false, true => .boundaryCondition
  | false, false, false, false => .businessLogic

theorem ofSigns_eq (guard validation lazy boundary : Bool) :
    ofSigns guard validation lazy boundary =
      if guard then .typeGuard
      else if validation then .validationCheck
      else if lazy then .lazyInitialization
      else if boundary then .boundaryCondition
      else .businessLogic := by
  cases guard <;> cases validation <;> cases lazy <;> cases boundary <;> rfl

/-- What a conditional of the kind says of the architecture. -/
def mark : ConditionalKind → Mark
  | .typeGuard => .pattern .typeCheckingImports
  | .validationCheck => .pattern .boundaryConditions
  | .boundaryCondition => .pattern .boundaryConditions
  | .lazyInitialization => .violation .businessConditionals
  | .businessLogic => .violation .businessConditionals

end ConditionalKind

/-- A conditional: the text of its test, and where it stands. -/
structure Conditional where
  test : String
  summary : Summary
  /-- The name of the scope around, if there is one. -/
  parentScope : Option String := none
  depth : Int := 0
  deriving DecidableEq, Repr, Inhabited

namespace Conditional

def isTypeChecking (c : Conditional) : Bool :=
  c.test == "TYPE_CHECKING"

/-- Whether the test speaks of errors or of things that may be missing. -/
def suggestsBoundary (c : Conditional) : Bool :=
  Text.holdsAny (Text.lower c.test) ["error", "exception", "none", "empty", "exists"]

/-- Whether the test asks if something private was set already. -/
def isLazyInitialization (c : Conditional) : Bool :=
  Text.holdsAny c.test ["_cache is None", "_initialized", "not self._", "self._ is None"]

def inValidation (c : Conditional) : Bool :=
  match c.parentScope with
  | some name => Text.holds (Text.lower name) "validate"
  | none => false

def kind (c : Conditional) : ConditionalKind :=
  .ofSigns c.isTypeChecking c.inValidation c.isLazyInitialization c.suggestsBoundary

theorem kind_eq (c : Conditional) :
    c.kind =
      if c.isTypeChecking then .typeGuard
      else if c.inValidation then .validationCheck
      else if c.isLazyInitialization then .lazyInitialization
      else if c.suggestsBoundary then .boundaryCondition
      else .businessLogic :=
  ConditionalKind.ofSigns_eq _ _ _ _

def findings (c : Conditional) (file : String) : List Finding :=
  [.ofMark c.kind.mark file c.summary.line c.test]

/-- The text of a node's test; a node without one has an unknown test. -/
def testText (render : Value → Except Fault String) (n : Node) : Except Fault String :=
  match n.get? .test with
  | some v => if v.isSet then render v else .ok "unknown"
  | none => .ok "unknown"

/-- A node as a conditional.  Its test is printed before it is named. -/
def ofNode (render : Value → Except Fault String) (n : Node) (parentScope : Option String)
    (depth : Int) : Except Fault Conditional :=
  match testText render n with
  | .error fault => .error fault
  | .ok test =>
    match n.summary with
    | .error fault => .error fault
    | .ok summary => .ok ⟨test, summary, parentScope, depth⟩

/-- The name of the scope around, which has to be text if it is given at all. -/
def parentOf (context : Context) : Except Fault (Option String) :=
  match context.current? with
  | none => .ok none
  | some scope =>
    match scope.name.text? with
    | some name => .ok (some name)
    | none =>
      if scope.name.isSet then .error (.lacks scope.name.label "lower") else .ok none

def analyze (render : Value → Except Fault String) (n : Node) (context : Context) :
    Except Fault (List Finding) :=
  match ofNode render n none context.depth with
  | .error fault => .error fault
  | .ok c =>
    (parentOf context).map fun parent => { c with parentScope := parent }.findings context.file

end Conditional
end ArchLint.Rule
