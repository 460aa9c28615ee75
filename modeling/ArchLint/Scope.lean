import ArchLint.Catalogue
import ArchLint.Syntax.Node
import ArchLint.Text.Lower
import ArchLint.Text.Search

/-!
# Scopes

A scope is a stretch of code with a kind, a name and a line.  What a scope is for is read off its
kind and off the words that its name holds.  A name is text in every tree that was read from source;
elsewhere it is what the field of the node holds, and holds no words then.

The line is taken as it is given: the bound on this field, a line of at least 1, is left out here.
-/

namespace ArchLint

inductive ScopeKind where
  | module | classBody | function | conditional | tryBlock
  deriving DecidableEq, Repr, Inhabited

namespace ScopeKind

def label : ScopeKind → String
  | .module => "module"
  | .classBody => "class"
  | .function => "function"
  | .conditional => "conditional"
  | .tryBlock => "try_block"

def catalogue : Catalogue ScopeKind :=
  .ofList "ScopeType" label [.module, .classBody, .function, .conditional, .tryBlock]

/-- How early scopes of the kind are looked at. -/
def priority : ScopeKind → Nat
  | .classBody => 1
  | .function => 2
  | .conditional => 3
  | .tryBlock => 4
  | .module => 5

/-- Whether names live in scopes of the kind. -/
def createsNaming : ScopeKind → Bool
  | .classBody | .function | .module => true
  | .conditional | .tryBlock => false

def suggestsBusiness : ScopeKind → Bool
  | .classBody | .function => true
  | _ => false

def suggestsInfrastructure : ScopeKind → Bool
  | .tryBlock | .module => true
  | _ => false

end ScopeKind

structure Scope where
  kind : ScopeKind
  name : Syntax.Value
  line : Int
  deriving DecidableEq, Repr, Inhabited

namespace Scope

def nameText (s : Scope) : String :=
  s.name.text?.getD ""

/-- Whether the name of the scope holds one of the words, in lower case. -/
def nameHolds (s : Scope) (words : List String) : Bool :=
  Text.holdsAny (Text.lower s.nameText) words

def isSerialization (s : Scope) : Bool :=
  s.nameHolds ["json", "dump", "serialize", "export", "save"]

def isValidation (s : Scope) : Bool :=
  s.nameHolds ["validate", "check", "verify", "ensure", "assert"]

def isBoundary (s : Scope) : Bool :=
  s.kind.suggestsInfrastructure ||
    s.nameHolds ["client", "adapter", "wrapper", "handler", "connector"]

def isBusiness (s : Scope) : Bool :=
  s.kind.suggestsBusiness && !s.isBoundary && !s.isValidation

end Scope

/-- Names for scopes that have none of their own. -/
inductive ScopeNaming where
  | conditional | call | attribute | unknown
  deriving DecidableEq, Repr, Inhabited

namespace ScopeNaming

/-- The label of a naming, which is the name of the scope. -/
def label : ScopeNaming → String
  | .conditional => "conditional"
  | .call => "call"
  | .attribute => "attribute"
  | .unknown => "unknown"

def catalogue : Catalogue ScopeNaming :=
  .ofList "ScopeNaming" label [.conditional, .call, .attribute, .unknown]

def isAnalyzable : ScopeNaming → Bool
  | .unknown => false
  | _ => true

/-- The name for readers. -/
def display : ScopeNaming → String
  | .conditional => "Conditional Block"
  | .call => "Function Call"
  | .attribute => "Attribute Access"
  | .unknown => "Unknown Scope"

/-- A name for one scope among several. -/
def identifier (naming : ScopeNaming) (name : String) : String :=
  match naming with
  | .conditional => "condition_" ++ name
  | .call => "call_" ++ name
  | .attribute => "attr_" ++ name
  | .unknown => "unknown_" ++ name

end ScopeNaming
end ArchLint
