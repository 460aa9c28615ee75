import ArchLint.Text.Quoted

/-!
# Catalogues

A closed set of alternatives that are known by labels: kinds of scopes, of violations, of grades.
A catalogue lists them in a fixed order; a label that it does not list is an error that names both.
-/

namespace ArchLint

/-- The alternatives of a type, in order, with their labels. -/
structure Catalogue (α : Type) where
  name : String
  entries : List (String × α)

structure UnknownLabel where
  label : String
  catalogue : String
  deriving DecidableEq, Repr

def UnknownLabel.message (e : UnknownLabel) : String :=
  Text.quote e.label ++ " is not a valid " ++ e.catalogue

namespace Catalogue

def ofList {α : Type} (name : String) (label : α → String) (all : List α) : Catalogue α :=
  ⟨name, all.map fun a => (label a, a)⟩

def find {α : Type} (c : Catalogue α) (label : String) : Except UnknownLabel α :=
  match c.entries.lookup label with
  | some a => .ok a
  | none => .error ⟨label, c.name⟩

def place {α : Type} (c : Catalogue α) (label : String) : Except UnknownLabel Nat :=
  match c.entries.findIdx? (·.1 == label) with
  | some i => .ok i
  | none => .error ⟨label, c.name⟩

end Catalogue
end ArchLint
