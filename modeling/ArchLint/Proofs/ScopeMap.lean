import ArchLint.Analysis
import ArchLint.Proofs.LevelOrder

/-!
# The scopes around a node

`ScopeMap.ofTree` goes down a tree with one list of open scopes and notes the list at every node.
Here the list is read off the tree alone: the scopes around a node are those of its proper ancestors
that open one, the outermost first.

* `Node.createsScope_role`: functions, classes, conditionals and matches open scopes.
* `visitNode_fst`: a visit notes the list and visits every child with the same one.
* `ScopeMap.get?_ofTree`: **what is noted at a node is the scopes of its ancestors**.
* `nodeContext_eq_foldl`: the context of a node is entered scope by scope on the way down.

The induction is on the position and takes every list of open scopes, so that it passes to the
children of a node that opens one itself.
-/

namespace ArchLint

open ArchLint.Syntax (Kind Node Field Value Position)

/-! ## Scopes that nodes open -/

def Syntax.Node.opensScope (n : Node) : Bool :=
  n.kind ∈ [.functionDef, .asyncFunctionDef, .classDef, .ifStmt, .matchStmt]

def Syntax.Node.ownScope (n : Node) : Scope :=
  n.kind.role.scope n

theorem Syntax.Node.createsScope_role (n : Node) : n.kind.role.createsScope = n.opensScope := by
  obtain ⟨kind, line, fields⟩ := n
  cases kind <;> rfl

def scopesOf (nodes : List Node) : List Scope :=
  (nodes.filter Node.opensScope).map Node.ownScope

/-- The scopes inside a node, given those around it. -/
def Syntax.Node.inside (n : Node) (scopes : List Scope) : List Scope :=
  scopes ++ scopesOf [n]

theorem scopesOf_append (xs ys : List Node) : scopesOf (xs ++ ys) = scopesOf xs ++ scopesOf ys := by
  rw [scopesOf, List.filter_append, List.map_append]
  rfl

theorem Syntax.Node.inside_eq (n : Node) (scopes : List Scope) :
    n.inside scopes = if n.opensScope then scopes ++ [n.ownScope] else scopes := by
  rw [Node.inside, scopesOf]
  cases h : n.opensScope <;> simp [h]

/-! ## One visit -/

/-- The map of a node, visited with the given scopes open. -/
def mapOf (scopes : List Scope) (n : Node) : ScopeMap :=
  (visitNode n scopes).1

theorem visitItems_fst (items : List Value) (scopes : List Scope) :
    (visitItems items scopes).1 = (items.filterMap Value.node?).map (mapOf scopes) := by
  induction items with
  | nil => rfl
  | cons v rest ih =>
    cases v with
    | node n =>
      rw [visitItems]
      simp only [visitNode_snd, ih]
      rfl
    | list _ =>
      rw [List.filterMap_cons_none rfl, ← ih]
      simp only [visitItems]
    | constant _ =>
      rw [List.filterMap_cons_none rfl, ← ih]
      simp only [visitItems]

theorem visitValue_fst (value : Value) (scopes : List Scope) :
    (visitValue value scopes).1 = value.nodes.map (mapOf scopes) := by
  cases value with
  | node n => rfl
  | list items => rw [visitValue, visitItems_fst]; rfl
  | constant _ => rfl

theorem visitFields_fst (fields : List (Field × Value)) (scopes : List Scope) :
    (visitFields fields scopes).1 =
      (fields.flatMap fun (_, value) => value.nodes).map (mapOf scopes) := by
  induction fields with
  | nil => rfl
  | cons head rest ih =>
    obtain ⟨field, value⟩ := head
    rw [visitFields]
    simp only [visitValue_snd, visitValue_fst, ih, List.flatMap_cons, List.map_append]

/-- **One visit**: the open scopes are noted, and every child is visited with those inside. -/
theorem visitNode_fst (n : Node) (scopes : List Scope) :
    (visitNode n scopes).1 = .mk scopes (n.children.map (mapOf (n.inside scopes))).toArray := by
  have hinside := n.inside_eq scopes
  rw [← n.createsScope_role] at hinside
  obtain ⟨kind, line, fields⟩ := n
  have hchildren : (Node.mk kind line fields).children =
      fields.flatMap fun (_, value) => value.nodes := rfl
  rw [visitNode, hchildren, hinside]
  change ScopeMap.mk scopes (Role.around kind.role (.mk kind line fields)
    (fun inside => visitFields fields inside) scopes).1.toArray = _
  simp only [Role.around, Syntax.Node.kind, Syntax.Node.ownScope]
  by_cases h : kind.role.createsScope = true
  · simp only [h, if_true, visitFields_fst]
  · simp only [h, Bool.false_eq_true, if_false, visitFields_fst]

/-! ## The whole tree -/

theorem get?_mapOf {n m : Node} {p : Position} (h : n.at? p = some m) (scopes : List Scope) :
    (mapOf scopes n).get? p = some (scopes ++ scopesOf (n.ancestors p)) := by
  induction p generalizing n scopes with
  | nil =>
    rw [mapOf, visitNode_fst, ScopeMap.get?, Node.ancestors]
    exact congrArg some (List.append_nil scopes).symm
  | cons i rest ih =>
    rw [Node.at?] at h
    obtain ⟨c, hc, hm⟩ := Option.bind_eq_some_iff.mp h
    have hpart : (ScopeMap.parts (.mk scopes (n.children.map (mapOf (n.inside scopes))).toArray))[i]?
        = some (mapOf (n.inside scopes) c) := by
      rw [ScopeMap.parts, List.getElem?_toArray, List.getElem?_map, hc, Option.map_some]
    rw [mapOf, visitNode_fst, ScopeMap.get?, hpart, Option.bind_some, ih hm, Node.inside,
      List.append_assoc, ← scopesOf_append]
    simp only [Node.ancestors, hc, List.singleton_append]

/-- **What is noted at a node is the scopes of its proper ancestors**, the outermost first. -/
theorem ScopeMap.get?_ofTree {tree n : Node} {p : Position} (h : tree.at? p = some n) :
    (ScopeMap.ofTree tree).get? p = some (scopesOf (tree.ancestors p)) :=
  get?_mapOf h []

theorem nodeContext_eq {tree n : Node} {p : Position} (h : tree.at? p = some n)
    (context : Context) :
    nodeContext (.ofTree tree) context p =
      { context with scopes := scopesOf (tree.ancestors p) } := by
  rw [nodeContext, ScopeMap.get?_ofTree h, Option.getD_some]

theorem foldl_enter (scopes : List Scope) (context : Context) :
    scopes.foldl Context.enter context = { context with scopes := context.scopes ++ scopes } := by
  induction scopes generalizing context with
  | nil => rw [List.foldl_nil, List.append_nil]
  | cons s rest ih =>
    rw [List.foldl_cons, ih, Context.enter, List.append_assoc, List.singleton_append]

/-- **The context of a node is entered scope by scope** on the way down from the root. -/
theorem nodeContext_eq_foldl {tree n : Node} {p : Position} (h : tree.at? p = some n)
    (context : Context) :
    nodeContext (.ofTree tree) context p =
      ((tree.ancestors p).filter Node.opensScope).foldl (fun c a => c.enter a.ownScope)
        { context with scopes := [] } := by
  rw [nodeContext_eq h, ← List.foldl_map, foldl_enter, List.nil_append]
  rfl

/-- **The scope map is exact.**  The walk comes to the nodes of the tree and to nothing else.  What
the map holds for a node is the scopes of its proper ancestors that open one, the outermost first,
and its context is reached by entering them one after the other.  A child has the scopes of its
parent and the one that the parent opens, whichever child it is.  After every visit the open scopes
are those before it. -/
theorem scopeMap_exact (tree : Node) (context : Context) :
    (∀ p n, (p, n) ∈ tree.walk ↔ tree.at? p = some n) ∧
    (∀ p n, tree.at? p = some n →
      (ScopeMap.ofTree tree).get? p =
        some (((tree.ancestors p).filter Node.opensScope).map Node.ownScope) ∧
      nodeContext (.ofTree tree) context p =
        ((tree.ancestors p).filter Node.opensScope).foldl (fun c a => c.enter a.ownScope)
          { context with scopes := [] } ∧
      ∀ i c, tree.at? (p ++ [i]) = some c →
        (nodeContext (.ofTree tree) context (p ++ [i])).scopes =
          (nodeContext (.ofTree tree) context p).scopes ++
            if n.opensScope then [n.ownScope] else []) ∧
    ∀ n scopes, (visitNode n scopes).2 = scopes := by
  refine ⟨fun p n => Node.mem_walk, ?_, visitNode_snd⟩
  intro p n h
  refine ⟨ScopeMap.get?_ofTree h, nodeContext_eq_foldl h context, ?_⟩
  intro i c hc
  rw [nodeContext_eq hc, nodeContext_eq h, Node.ancestors_concat h, scopesOf_append]
  have hown : scopesOf [n] = if n.opensScope then [n.ownScope] else [] := by
    simpa [Node.inside] using n.inside_eq []
  rw [hown]

/-- The statement inside a conditional inside a function. -/
theorem scopeMap_exact_nested :
    (nodeContext (.ofTree (.mk .functionDef (some 1) [(.name, .text "f"), (.body, .list
        [.node (.mk .ifStmt (some 2) [(.body, .list [.node (.mk .pass (some 3) [])])])])]))
      (.ofFile "m.py" .mixed) [0, 0]).scopes =
      [⟨.function, .text "f", 1⟩, ⟨.conditional, .text "conditional", 2⟩] := by
  have h := (scopeMap_exact (.mk .functionDef (some 1) [(.name, .text "f"), (.body, .list
    [.node (.mk .ifStmt (some 2) [(.body, .list [.node (.mk .pass (some 3) [])])])])])
    (.ofFile "m.py" .mixed)).2.1 [0, 0] _ rfl
  rw [h.2.1]
  rfl

end ArchLint
