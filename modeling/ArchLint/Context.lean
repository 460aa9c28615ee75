import ArchLint.Disk.Path
import ArchLint.ModuleType
import ArchLint.Scope

/-!
# Contexts

Where the analysis is: the file, the type of its module, and the scopes around, outermost first.
Entering a scope puts it last, leaving drops the last; a context is never changed, so that an
earlier one can be taken up again.
-/

namespace ArchLint

structure Context where
  file : String
  moduleType : ModuleType
  /-- The scopes around, outermost first. -/
  scopes : List Scope := []
  deriving DecidableEq, Repr, Inhabited

namespace Context

def ofFile (file : String) (moduleType : ModuleType) : Context :=
  ⟨file, moduleType, []⟩

/-- The innermost scope. -/
def current? (c : Context) : Option Scope :=
  c.scopes.getLast?

def depth (c : Context) : Nat :=
  c.scopes.length

def enter (c : Context) (s : Scope) : Context :=
  { c with scopes := c.scopes ++ [s] }

/-- Leaves the innermost scope; outside every scope nothing changes. -/
def leave (c : Context) : Context :=
  { c with scopes := c.scopes.dropLast }

@[simp] theorem leave_enter (c : Context) (s : Scope) : (c.enter s).leave = c := by
  simp [enter, leave]

def inSerialization (c : Context) : Bool :=
  c.scopes.any Scope.isSerialization

def inValidation (c : Context) : Bool :=
  c.scopes.any Scope.isValidation

def fileSuggestsBoundary (c : Context) : Bool :=
  Text.holdsAny (Text.lower (Disk.Path.ofString c.file).name)
    ["client", "adapter", "wrapper", "config", "settings"]

def moduleSuggestsBoundary (c : Context) : Bool :=
  c.moduleType = .infrastructure || c.moduleType = .framework

def inBoundary (c : Context) : Bool :=
  c.fileSuggestsBoundary || c.scopes.any Scope.isBoundary || c.moduleSuggestsBoundary

def inBusinessLogic (c : Context) : Bool :=
  c.scopes.any Scope.isBusiness && !c.inBoundary

/-- Whether a scope around is the one of type checkers. -/
def inTypeChecking (c : Context) : Bool :=
  c.scopes.any fun s => s.name == .text "TYPE_CHECKING"

/-- The name of the innermost scope of a kind, empty when there is none. -/
def currentName (c : Context) (kind : ScopeKind) : Syntax.Value :=
  ((c.scopes.filter fun s => s.kind = kind).getLast?.map Scope.name).getD (.text "")

end Context
end ArchLint
