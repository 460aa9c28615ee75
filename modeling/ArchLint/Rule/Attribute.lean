import ArchLint.Context
import ArchLint.Finding
import ArchLint.Syntax.Category

/-!
# Attributes

What an access to an attribute does, told from the name of the attribute.

* `AttributeKind.ofSigns_eq`, `Attribute.kind_eq`: the table of kinds, told as cases.
-/

namespace ArchLint.Rule

open ArchLint.Syntax (Summary Fault Node)

inductive AttributeKind where
  | enumUnwrapping | computedFieldCandidate | normalAccess
  deriving DecidableEq, Repr, Inhabited

namespace AttributeKind

def label : AttributeKind → String
  | .enumUnwrapping => "enum_unwrapping"
  | .computedFieldCandidate => "computed_field_candidate"
  | .normalAccess => "normal_access"

def catalogue : Catalogue AttributeKind :=
  .ofList "AttributePattern" label [.enumUnwrapping, .computedFieldCandidate, .normalAccess]

/-- The kind for two signs: the value of an enumeration, and something computed. -/
def ofSigns : Bool → Bool → AttributeKind
  | true, true => .enumUnwrapping
  | true, false => .enumUnwrapping
  | false, true => .computedFieldCandidate
  | false, false => .normalAccess

theorem ofSigns_eq (value computed : Bool) :
    ofSigns value computed =
      if value then .enumUnwrapping
      else if computed then .computedFieldCandidate
      else .normalAccess := by
  cases value <;> cases computed <;> rfl

/-- What an access of the kind says of the architecture; a normal one says nothing. -/
def mark? : AttributeKind → Option Mark
  | .enumUnwrapping => some (.violation .enumValueAccess)
  | .computedFieldCandidate => some (.pattern .computedFields)
  | .normalAccess => none

def findings (kind : AttributeKind) (file : String) (line : Int) (text : String) : List Finding :=
  (kind.mark?.map fun mark => Finding.ofMark mark file line text).toList

end AttributeKind

structure Attribute where
  name : String
  line : Int
  deriving DecidableEq, Repr, Inhabited

namespace Attribute

def isEnumUnwrapping (a : Attribute) : Bool :=
  a.name == "value"

def suggestsComputedField (a : Attribute) : Bool :=
  Text.holdsAny (Text.lower a.name) ["total", "count", "sum", "avg", "max", "min"]

def kind (a : Attribute) : AttributeKind :=
  .ofSigns a.isEnumUnwrapping a.suggestsComputedField

theorem kind_eq (a : Attribute) :
    a.kind =
      if a.isEnumUnwrapping then .enumUnwrapping
      else if a.suggestsComputedField then .computedFieldCandidate
      else .normalAccess :=
  AttributeKind.ofSigns_eq _ _

def findings (a : Attribute) (file : String) : List Finding :=
  a.kind.findings file a.line a.name

/-- The name of the attribute that a node gives, which has to be text. -/
def nameOf (n : Node) : Except Fault String :=
  match n.get? .attr with
  | none => .ok "unknown"
  | some value =>
    match value.text? with
    | some s => .ok s
    | none => .error (.lacks value.label "lower")

/-- A node as an access to an attribute.  The node is named before its attribute is looked at. -/
def ofNode (n : Node) : Except Fault Attribute :=
  match n.summary with
  | .error fault => .error fault
  | .ok summary => (nameOf n).map fun name => ⟨name, summary.line⟩

def analyze (n : Node) (context : Context) : Except Fault (List Finding) :=
  (ofNode n).map (·.findings context.file)

end Attribute
end ArchLint.Rule
