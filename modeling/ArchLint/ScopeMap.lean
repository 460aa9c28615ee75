import ArchLint.Role
import ArchLint.Syntax.Walk

/-!
# Scope maps

The scopes around every node of a tree.  One pass goes down the tree with the list of open scopes,
puts the scope of a node last before it visits what is inside, and drops it afterwards.  The result
has the shape of the tree and is looked up by position.

* `visitNode_snd`: the list of open scopes is after every visit what it was before.
-/

namespace ArchLint

open ArchLint.Syntax (Node Field Value Position)

/-- The scopes around the nodes of a tree, in the shape of the tree. -/
inductive ScopeMap where
  | mk (scopes : List Scope) (parts : Array ScopeMap)

namespace ScopeMap

/-- The scopes around the root. -/
def scopes : ScopeMap → List Scope
  | .mk scopes _ => scopes

/-- The maps of the trees below the root. -/
def parts : ScopeMap → Array ScopeMap
  | .mk _ parts => parts

def get? : ScopeMap → Position → Option (List Scope)
  | m, [] => some m.scopes
  | m, i :: rest => m.parts[i]?.bind (·.get? rest)

end ScopeMap

mutual

/-- Notes the open scopes of a node and visits what is inside it. -/
def visitNode : Node → List Scope → ScopeMap × List Scope
  | .mk kind line fields, scopes =>
    let (parts, after) :=
      kind.role.around (.mk kind line fields) (fun inside => visitFields fields inside) scopes
    (.mk scopes parts.toArray, after)

def visitFields : List (Field × Value) → List Scope → List ScopeMap × List Scope
  | [], scopes => ([], scopes)
  | (_, value) :: rest, scopes =>
    let (maps, after) := visitValue value scopes
    let (more, last) := visitFields rest after
    (maps ++ more, last)

def visitValue : Value → List Scope → List ScopeMap × List Scope
  | .node n, scopes =>
    let (m, after) := visitNode n scopes
    ([m], after)
  | .list items, scopes => visitItems items scopes
  | _, scopes => ([], scopes)

def visitItems : List Value → List Scope → List ScopeMap × List Scope
  | [], scopes => ([], scopes)
  | .node n :: rest, scopes =>
    let (m, after) := visitNode n scopes
    let (more, last) := visitItems rest after
    (m :: more, last)
  | _ :: rest, scopes => visitItems rest scopes

end

mutual

theorem visitNode_snd (n : Node) (scopes : List Scope) : (visitNode n scopes).2 = scopes := by
  obtain ⟨kind, line, fields⟩ := n
  simpa [visitNode] using Role.around_snd _ _ _ scopes (visitFields_snd fields)

theorem visitFields_snd (fields : List (Field × Value)) (scopes : List Scope) :
    (visitFields fields scopes).2 = scopes := by
  cases fields with
  | nil => rfl
  | cons head rest =>
    obtain ⟨f, value⟩ := head
    simp [visitFields, visitValue_snd value, visitFields_snd rest]

theorem visitValue_snd (value : Value) (scopes : List Scope) :
    (visitValue value scopes).2 = scopes := by
  cases value with
  | node n => simp [visitValue, visitNode_snd n]
  | list items => simp [visitValue, visitItems_snd items]
  | _ => simp [visitValue]

theorem visitItems_snd (items : List Value) (scopes : List Scope) :
    (visitItems items scopes).2 = scopes := by
  cases items with
  | nil => rfl
  | cons v rest =>
    cases v <;> simp [visitItems, visitItems_snd rest]
    exact visitNode_snd _ scopes

end

/-- The scope map of a tree; around its root no scope is open. -/
def ScopeMap.ofTree (tree : Node) : ScopeMap :=
  (visitNode tree []).1

end ArchLint
