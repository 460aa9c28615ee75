import ArchLint.Proofs.Counting
import ArchLint.Proofs.ScopeMap

/-!
# Inside the guard of type checkers

A context takes itself to be inside the guard of type checkers by the names of its scopes.  But a
conditional opens a scope that is named after its class and not after its test, so the name that is
looked for can only be that of a function or a class.

* `Node.isTypeGuard`: a conditional on the bare name of the guard.
* `Node.defines`: a function or a class of a given name.
* `Node.ownScope_name_eq`: which nodes open a scope of the name.
* `inTypeChecking_iff`: **a context is inside functions and classes of that name**, and nothing
  else.
* `inTypeChecking_concat`: **no conditional brings a context inside**, whatever it tests.
-/

namespace ArchLint

open ArchLint.Syntax (Kind Node Field Value Position)

/-! ## Scopes of the name -/

/-- The name that guards what only type checkers read. -/
def typeCheckingName : String := "TYPE_CHECKING"

/-- Whether a node is a conditional on the bare name of the guard. -/
def Syntax.Node.isTypeGuard (n : Node) : Bool :=
  n.kind = .ifStmt && (n.get? .test).any fun test =>
    test.node?.any fun t => t.kind = .name && t.get? .id = some (.text typeCheckingName)

def Syntax.Node.defines (n : Node) (name : String) : Bool :=
  n.kind ∈ [.functionDef, .asyncFunctionDef, .classDef] && n.get? .name = some (.text name)

theorem getD_text_eq {value : Option Value} {default name : String} (h : default ≠ name) :
    value.getD (.text default) = .text name ↔ value = some (.text name) := by
  cases value with
  | none => simp [text_ne h]
  | some given => simp

theorem Syntax.Node.attribute?_name {n : Node}
    (h : n.kind ∈ [.functionDef, .asyncFunctionDef, .classDef]) :
    n.attribute? .name = n.get? .name := by
  have hneeded : ∀ kind ∈ [Kind.functionDef, .asyncFunctionDef, .classDef],
      kind.isOptional .name = false := by decide
  rw [Node.attribute?, hneeded n.kind h]
  cases n.get? .name <;> rfl

theorem Syntax.Node.ownScope_name_of_definition {n : Node}
    (h : n.kind ∈ [.functionDef, .asyncFunctionDef, .classDef]) :
    ∃ default, default ≠ typeCheckingName ∧
      n.ownScope.name = (n.get? .name).getD (.text default) := by
  rw [← Node.attribute?_name h, Node.ownScope]
  simp only [List.mem_cons, List.not_mem_nil, or_false] at h
  rcases h with hkind | hkind | hkind
  · rw [hkind]
    exact ⟨"unknown_function", by decide, rfl⟩
  · rw [hkind]
    exact ⟨"unknown_function", by decide, rfl⟩
  · rw [hkind]
    exact ⟨"unknown_class", by decide, rfl⟩

theorem Syntax.Node.ownScope_name_of_conditional {n : Node} (h : n.kind ∈ [.ifStmt, .matchStmt]) :
    n.ownScope.name ≠ .text typeCheckingName := by
  rw [Node.ownScope]
  simp only [List.mem_cons, List.not_mem_nil, or_false] at h
  rcases h with hkind | hkind
  · rw [hkind]
    exact text_ne (by decide)
  · rw [hkind]
    exact text_ne (by decide)

/-- **Which nodes open a scope of the name**: functions and classes that have it. -/
theorem Syntax.Node.ownScope_name_eq {n : Node} (h : n.opensScope = true) :
    n.ownScope.name = .text typeCheckingName ↔ n.defines typeCheckingName = true := by
  by_cases hdefinition : n.kind ∈ [.functionDef, .asyncFunctionDef, .classDef]
  · obtain ⟨default, hdefault, hname⟩ := Node.ownScope_name_of_definition hdefinition
    rw [hname, getD_text_eq hdefault, Node.defines, decide_eq_true hdefinition, Bool.true_and,
      decide_eq_true_eq]
  · have hconditional : n.kind ∈ [.ifStmt, .matchStmt] := by
      have hopens := of_decide_eq_true h
      simp only [List.mem_cons, List.not_mem_nil, or_false] at hopens hdefinition ⊢
      tauto
    rw [Node.defines, decide_eq_false hdefinition, Bool.false_and]
    exact iff_of_false (Node.ownScope_name_of_conditional hconditional) (by decide)

theorem Syntax.Node.opensScope_of_defines {n : Node} {name : String} (h : n.defines name = true) :
    n.opensScope = true := by
  have hkind := of_decide_eq_true (Bool.and_eq_true_iff.mp h).1
  refine decide_eq_true ?_
  simp only [List.mem_cons, List.not_mem_nil, or_false] at hkind ⊢
  tauto

/-! ## Contexts of nodes -/

section Contexts

variable {tree n : Node} {p : Position}

/-- **A context is inside functions and classes of that name**, and nothing else. -/
theorem inTypeChecking_iff (h : tree.at? p = some n) (context : Context) :
    (nodeContext (.ofTree tree) context p).inTypeChecking = true ↔
      ∃ a ∈ tree.ancestors p, a.defines typeCheckingName = true := by
  rw [nodeContext_eq h, Context.inTypeChecking, List.any_eq_true]
  constructor
  · rintro ⟨scope, hscope, hname⟩
    obtain ⟨a, ha, rfl⟩ := List.mem_map.mp hscope
    obtain ⟨hmem, hopens⟩ := List.mem_filter.mp ha
    exact ⟨a, hmem, (Node.ownScope_name_eq hopens).mp (eq_of_beq hname)⟩
  · rintro ⟨a, hmem, hdefines⟩
    have hopens := Node.opensScope_of_defines hdefines
    refine ⟨a.ownScope, List.mem_map_of_mem (List.mem_filter.mpr ⟨hmem, hopens⟩), ?_⟩
    exact beq_iff_eq.mpr ((Node.ownScope_name_eq hopens).mpr hdefines)

/-- **No conditional brings a context inside**, whatever it tests. -/
theorem inTypeChecking_concat (h : tree.at? p = some n) (hkind : n.kind = .ifStmt) {i : Nat}
    {c : Node} (hc : tree.at? (p ++ [i]) = some c) (context : Context) :
    (nodeContext (.ofTree tree) context (p ++ [i])).inTypeChecking =
      (nodeContext (.ofTree tree) context p).inTypeChecking := by
  have hnone : n.defines typeCheckingName = false := by
    rw [Node.defines, hkind]
    rfl
  rw [Bool.eq_iff_iff, inTypeChecking_iff hc, inTypeChecking_iff h, Node.ancestors_concat h]
  simp only [List.mem_append, List.mem_singleton]
  constructor
  · rintro ⟨a, ha | rfl, hdefines⟩
    · exact ⟨a, ha, hdefines⟩
    · exact absurd hdefines (by rw [hnone]; decide)
  · rintro ⟨a, ha, hdefines⟩
    exact ⟨a, Or.inl ha, hdefines⟩

end Contexts

/-- **When a context is inside the guard of type checkers.**  It is so exactly below a function or a
class of that name.  A conditional makes no difference: what stands in it is inside exactly when the
conditional itself is, and below guards alone nothing is inside. -/
theorem type_checking_by_definition (tree : Node) (context : Context) (p : Position) (n : Node)
    (h : tree.at? p = some n) :
    ((nodeContext (.ofTree tree) context p).inTypeChecking = true ↔
      ∃ a ∈ tree.ancestors p, a.defines typeCheckingName = true) ∧
    (n.kind = .ifStmt → ∀ i c, tree.at? (p ++ [i]) = some c →
      (nodeContext (.ofTree tree) context (p ++ [i])).inTypeChecking =
        (nodeContext (.ofTree tree) context p).inTypeChecking) :=
  ⟨inTypeChecking_iff h context, fun hkind _ _ hc => inTypeChecking_concat h hkind hc context⟩

/-- A module with one statement in a conditional on the name of the guard. -/
def guardedStatement : Node :=
  .mk .moduleBody none [(.body, .list [.node (.mk .ifStmt (some 1)
    [(.test, .node (.mk .name (some 1) [(.id, .text typeCheckingName)])),
     (.body, .list [.node (.mk .pass (some 2) [])]), (.orelse, .list [])])])]

/-- A class of that name with one statement. -/
def namedStatement : Node :=
  .mk .moduleBody none [(.body, .list [.node (.mk .classDef (some 1)
    [(.name, .text typeCheckingName), (.body, .list [.node (.mk .pass (some 2) [])])])])]

theorem type_checking_by_definition_class :
    namedStatement.at? [0, 0] = some (.mk .pass (some 2) []) ∧
      (nodeContext (.ofTree namedStatement) (.ofFile "m.py" .mixed) [0, 0]).inTypeChecking = true ∧
      (nodeContext (.ofTree guardedStatement) (.ofFile "m.py" .mixed) [0, 1]).inTypeChecking =
        (nodeContext (.ofTree guardedStatement) (.ofFile "m.py" .mixed) [0]).inTypeChecking := by
  have hclass := type_checking_by_definition namedStatement (.ofFile "m.py" .mixed) [0, 0] _ rfl
  have hguard := type_checking_by_definition guardedStatement (.ofFile "m.py" .mixed) [0] _ rfl
  refine ⟨rfl, hclass.1.mpr ?_, hguard.2 rfl 1 (.mk .pass (some 2) []) rfl⟩
  exact ⟨.mk .classDef (some 1)
    [(.name, .text typeCheckingName), (.body, .list [.node (.mk .pass (some 2) [])])],
    by simp [namedStatement, Node.ancestors, Node.children, Node.fields, Value.nodes, Value.node?],
    by decide +kernel⟩

/-- **The guard is not noticed, and something else is taken for it.**  The statement in a
conditional on the name of the guard is not inside; that in a class of the same name is, without any guard. -/
theorem type_guard_unnoticed :
    (∃ a ∈ guardedStatement.ancestors [0, 1], a.isTypeGuard = true) ∧
      (nodeContext (.ofTree guardedStatement) (.ofFile "m.py" .mixed) [0, 1]).inTypeChecking =
        false ∧
      (∀ a ∈ namedStatement.ancestors [0, 0], a.isTypeGuard = false) ∧
      (nodeContext (.ofTree namedStatement) (.ofFile "m.py" .mixed) [0, 0]).inTypeChecking =
        true := by
  decide +kernel

end ArchLint
