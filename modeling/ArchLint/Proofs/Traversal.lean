import ArchLint.Proofs.Judgement
import ArchLint.Proofs.ScopeMap
import Mathlib.Data.List.Perm.Basic

/-!
# The analysis as a traversal

The analysis notes scopes in one pass and judges nodes in another, from a queue.  Both passes
together do what is said here without either: the nodes are judged level by level, each inside the
nearest of its ancestors that opens a scope.

* `joinFindings_map_eq_ok`, `joinFindings_map_eq_error`: what joining gives, and when it fails.
* `nodeFindings_eq_ok`: the findings of a tree are those of its nodes in the order of the walk.
* `Node.onePass`: the recursion that takes only the name of the innermost scope down the tree.
* `levels_perm_onePass`: **level order finds what the recursion finds**, in another order.
-/

namespace ArchLint

open ArchLint.Syntax (Kind Node Field Value Position Fault levelFrom)

/-! ## Joining -/

theorem joinFindings_map_eq_ok {α : Type} {xs : List α} {f : α → Except Fault (List Finding)}
    {found : List Finding} :
    joinFindings (xs.map f) = .ok found ↔
      (∀ x ∈ xs, ∃ own, f x = .ok own) ∧ found = xs.flatMap fun x => (f x).toOption.getD [] := by
  induction xs generalizing found with
  | nil => simp [joinFindings, eq_comm]
  | cons x rest ih =>
    rw [List.map_cons]
    cases hx : f x with
    | error fault => simp [joinFindings, hx]
    | ok own =>
      rw [joinFindings, map_eq_ok]
      constructor
      · rintro ⟨more, hmore, rfl⟩
        obtain ⟨hall, rfl⟩ := ih.mp hmore
        refine ⟨?_, by rw [List.flatMap_cons, hx]; rfl⟩
        intro y hy
        rcases List.mem_cons.mp hy with rfl | hy
        · exact ⟨own, hx⟩
        · exact hall y hy
      · rintro ⟨hall, rfl⟩
        refine ⟨_, ih.mpr ⟨fun y hy => hall y (List.mem_cons_of_mem x hy), rfl⟩, ?_⟩
        rw [List.flatMap_cons, hx]
        rfl

/-- **The first fault wins.** -/
theorem joinFindings_map_eq_error {α : Type} {xs : List α} {f : α → Except Fault (List Finding)}
    {fault : Fault} :
    joinFindings (xs.map f) = .error fault ↔
      ∃ before x after, xs = before ++ x :: after ∧ (∀ y ∈ before, ∃ own, f y = .ok own) ∧
        f x = .error fault := by
  induction xs with
  | nil => simp [joinFindings]
  | cons x rest ih =>
    rw [List.map_cons]
    cases hx : f x with
    | error other =>
      rw [joinFindings]
      constructor
      · intro h
        exact ⟨[], x, rest, rfl, by simp, hx.trans (by simpa using h)⟩
      · rintro ⟨before, y, after, heq, hall, hy⟩
        cases before with
        | nil =>
          rw [List.nil_append, List.cons.injEq] at heq
          rw [← heq.1, hx] at hy
          exact hy
        | cons z more =>
          rw [List.cons_append, List.cons.injEq] at heq
          obtain ⟨own, hown⟩ := hall z List.mem_cons_self
          rw [← heq.1, hx] at hown
          exact absurd hown (by simp)
    | ok own =>
      have hmap : joinFindings (.ok own :: rest.map f) = .error fault ↔
          joinFindings (rest.map f) = .error fault := by
        rw [joinFindings]
        cases joinFindings (rest.map f) <;> simp [Except.map]
      rw [hmap, ih]
      constructor
      · rintro ⟨before, y, after, rfl, hall, hy⟩
        refine ⟨x :: before, y, after, rfl, ?_, hy⟩
        intro z hz
        rcases List.mem_cons.mp hz with rfl | hz
        · exact ⟨own, hx⟩
        · exact hall z hz
      · rintro ⟨before, y, after, heq, hall, hy⟩
        cases before with
        | nil =>
          rw [List.nil_append, List.cons.injEq] at heq
          rw [← heq.1, hx] at hy
          exact absurd hy (by simp)
        | cons z more =>
          rw [List.cons_append, List.cons.injEq] at heq
          exact ⟨more, y, after, heq.2, fun w hw => hall w (List.mem_cons_of_mem z hw), hy⟩

/-! ## The scope around a node -/

/-- The name of the nearest proper ancestor that opens a scope. -/
def Syntax.Node.scopeAround (tree : Node) (p : Position) : Option Value :=
  ((tree.ancestors p).filter Node.opensScope).getLast?.map fun a => a.ownScope.name

/-- The name of the innermost scope inside a node, given the one around it. -/
def Syntax.Node.scopeInside (n : Node) (around : Option Value) : Option Value :=
  if n.opensScope then some n.ownScope.name else around

theorem current?_nodeContext {tree n : Node} {p : Position} (h : tree.at? p = some n)
    (context : Context) :
    (nodeContext (.ofTree tree) context p).current?.map Scope.name = tree.scopeAround p := by
  rw [nodeContext_eq h, Context.current?, scopesOf, List.getLast?_map, Option.map_map]
  rfl

theorem Syntax.Node.scopeAround_concat {tree n : Node} {p : Position} (h : tree.at? p = some n)
    (i : Nat) : tree.scopeAround (p ++ [i]) = n.scopeInside (tree.scopeAround p) := by
  rw [Node.scopeAround, Node.ancestors_concat h, List.filter_append, List.filter_singleton,
    Node.scopeInside]
  cases hn : n.opensScope with
  | true => simp
  | false => simp [Node.scopeAround]

/-! ## The findings of the nodes -/

def Syntax.Node.judgeAt (render : Value → Except Fault String) (tree : Node)
    (spot : Position × Node) : Except Fault (Option Judgement) :=
  spot.2.judge render (tree.scopeAround spot.1)

def Syntax.Node.findingsAt (render : Value → Except Fault String) (file : String) (tree : Node)
    (spot : Position × Node) : List Finding :=
  spot.2.ownFindings render file (tree.scopeAround spot.1)

theorem nodeFindings_eq (render : Value → Except Fault String) (tree : Node) (context : Context) :
    nodeFindings render tree context =
      joinFindings (tree.walk.map fun spot => (tree.judgeAt render spot).map fun j =>
        (j.map (Judgement.finding context.file)).toList) := by
  rw [nodeFindings]
  refine congrArg joinFindings (List.map_congr_left ?_)
  rintro ⟨p, n⟩ hmem
  have hat := Node.mem_walk.mp hmem
  have hcurrent := current?_nodeContext hat context
  show n.kind.role.findings render n (nodeContext (.ofTree tree) context p) = _
  rw [Role.findings_eq, hcurrent]
  rfl

/-- **The findings of a tree are those of its nodes**, in the order of the walk. -/
theorem nodeFindings_eq_ok {render : Value → Except Fault String} {tree : Node} {context : Context}
    {found : List Finding} :
    nodeFindings render tree context = .ok found ↔
      (∀ spot ∈ tree.walk, ∃ j, tree.judgeAt render spot = .ok j) ∧
        found = tree.walk.flatMap (tree.findingsAt render context.file) := by
  rw [nodeFindings_eq, joinFindings_map_eq_ok]
  have hown : ∀ spot : Position × Node, (Except.toOption ((tree.judgeAt render spot).map fun j =>
      (j.map (Judgement.finding context.file)).toList)).getD [] =
        tree.findingsAt render context.file spot := by
    intro spot
    rw [Node.findingsAt, Node.ownFindings, ← Node.judgeAt]
    cases tree.judgeAt render spot <;> rfl
  have hok : ∀ spot : Position × Node, (∃ own, ((tree.judgeAt render spot).map fun j =>
      (j.map (Judgement.finding context.file)).toList) = .ok own) ↔
        ∃ j, tree.judgeAt render spot = .ok j := by
    intro spot
    cases tree.judgeAt render spot <;> simp [Except.map]
  simp only [hown, hok]

theorem analyzeWith_eq_ok {render : Value → Except Fault String} {tree : Node} {context : Context}
    {found : List Finding} :
    analyzeWith render tree context = .ok found ↔
      (∀ spot ∈ tree.walk, ∃ j, tree.judgeAt render spot = .ok j) ∧
        found = tree.walk.flatMap (tree.findingsAt render context.file) ++
          Rule.Literals.analyze tree context.file := by
  rw [analyzeWith, map_eq_ok]
  constructor
  · rintro ⟨own, hown, rfl⟩
    obtain ⟨hall, rfl⟩ := nodeFindings_eq_ok.mp hown
    exact ⟨hall, rfl⟩
  · rintro ⟨hall, rfl⟩
    exact ⟨_, nodeFindings_eq_ok.mpr ⟨hall, rfl⟩, rfl⟩

/-! ## One pass -/

/-- The findings of a tree by one recursion, which takes the name of the innermost scope down. -/
def Syntax.Node.onePass (render : Value → Except Fault String) (file : String)
    (around : Option Value) (n : Node) : List Finding :=
  n.ownFindings render file around ++ n.children.attach.flatMap fun ⟨c, _⟩ =>
    c.onePass render file (n.scopeInside around)
termination_by n.count
decreasing_by exact Node.count_lt_of_mem ‹_›

theorem Syntax.Node.onePass_eq (render : Value → Except Fault String) (file : String)
    (around : Option Value) (n : Node) :
    n.onePass render file around = n.ownFindings render file around ++
      n.children.flatMap (Node.onePass render file (n.scopeInside around)) := by
  rw [Node.onePass, List.flatMap_subtype (g := Node.onePass render file (n.scopeInside around))
    (by intro c hc; rfl), List.unattach_attach]

theorem flatMap_comm_perm {α β γ : Type} (xs : List α) (ys : List β) (f : α → β → List γ) :
    (xs.flatMap fun x => ys.flatMap (f x)).Perm (ys.flatMap fun y => xs.flatMap fun x => f x y) := by
  induction xs with
  | nil => simp
  | cons x rest ih =>
    simp only [List.flatMap_cons]
    exact (ih.append_left _).trans (List.flatMap_append_perm ys _ _)

/-- **Level order finds what the recursion finds**, in another order. -/
theorem levels_perm_onePass {render : Value → Except Fault String} {file : String}
    {tree n : Node} {p : Position} (hat : tree.at? p = some n) {depth : Nat}
    (hd : n.count ≤ depth) :
    ((List.range depth).flatMap fun d =>
      (levelFrom d (p, n)).flatMap (tree.findingsAt render file)).Perm
        (n.onePass render file (tree.scopeAround p)) := by
  -- the induction is on the depth: a child has fewer levels than its parent
  induction depth generalizing p n with
  | zero => exact absurd n.count_pos (by omega)
  | succ depth ih =>
    have hfirst : (levelFrom 0 (p, n)).flatMap (tree.findingsAt render file) =
        n.ownFindings render file (tree.scopeAround p) := by
      rw [levelFrom, List.flatMap_singleton]
      rfl
    rw [Node.onePass_eq, List.range_succ_eq_map, List.flatMap_cons, hfirst, List.flatMap_map]
    refine List.Perm.append_left _ ?_
    have hlater : ∀ d, (levelFrom (d + 1) (p, n)).flatMap (tree.findingsAt render file) =
        (n.childrenAt p).flatMap fun spot =>
          (levelFrom d spot).flatMap (tree.findingsAt render file) := by
      intro d
      rw [levelFrom, List.flatMap_assoc]
    simp only [hlater]
    refine (flatMap_comm_perm _ _ _).trans ?_
    have hchildren : n.children = (n.childrenAt p).map Prod.snd := by
      rw [Node.childrenAt, List.map_map]
      exact (List.zipIdx_map_fst 0 n.children).symm
    rw [hchildren, List.flatMap_map]
    refine List.Perm.flatMap_left _ ?_
    rintro ⟨q, c⟩ hmem
    obtain ⟨i, rfl, hc⟩ := Node.mem_childrenAt.mp hmem
    have hcat : tree.at? (p ++ [i]) = some c := (Node.at?_concat hat i).trans hc
    have hlt := Node.count_lt_of_mem (List.mem_of_getElem? hc)
    rw [← Node.scopeAround_concat hat i]
    exact ih hcat (by omega)

theorem length_ownFindings {render : Value → Except Fault String} {around : Option Value}
    {n : Node} {j : Option Judgement} (h : n.judge render around = .ok j) (file : String) :
    (n.ownFindings render file around).length = if n.isJudged then 1 else 0 := by
  rw [Node.ownFindings, h, ← Node.isSome_judge h]
  cases j <;> rfl

/-- **The analysis is a traversal in level order that judges every node once.**  When it gives
findings, they are those of the nodes at depth 0, 1, 2, … from left to right, and then those of the
repeated literals.  No position is left out, and none comes twice.  A node has one finding if it is
a conditional, a match, a call or an access to a remarkable attribute, and else none; it is told
from the node, the file and the name of the nearest scope around.  So the findings of the nodes are
those of the plain recursion, in another order. -/
theorem analysis_level_order (render : Value → Except Fault String) (tree : Node)
    (context : Context) (found : List Finding)
    (h : analyzeWith render tree context = .ok found) (depth : Nat) (hd : tree.count ≤ depth) :
    found = ((List.range depth).flatMap fun d => (tree.level d).flatMap fun (p, n) =>
        n.ownFindings render context.file (tree.scopeAround p)) ++
      Rule.Literals.analyze tree context.file ∧
    (((List.range depth).flatMap tree.level).map Prod.fst).Nodup ∧
    (∀ p n, (p, n) ∈ (List.range depth).flatMap tree.level ↔ tree.at? p = some n) ∧
    (∀ p n, tree.at? p = some n →
      (n.ownFindings render context.file (tree.scopeAround p)).length =
        if n.isJudged then 1 else 0) ∧
    ((List.range depth).flatMap fun d => (tree.level d).flatMap fun (p, n) =>
        n.ownFindings render context.file (tree.scopeAround p)).Perm
      (tree.onePass render context.file none) := by
  obtain ⟨hall, hfound⟩ := analyzeWith_eq_ok.mp h
  have hwalk := tree.walk_eq_levels hd
  refine ⟨?_, ?_, ?_, ?_, levels_perm_onePass (p := []) rfl hd⟩
  · rw [hfound, hwalk, List.flatMap_assoc]
    rfl
  · rw [← hwalk]
    exact tree.nodup_walk
  · intro p n
    rw [← hwalk]
    exact Node.mem_walk
  · intro p n hat
    obtain ⟨j, hj⟩ := hall (p, n) (Node.mem_walk.mpr hat)
    exact length_ownFindings hj context.file

/-- A call inside a conditional, whose test is an access to a value. -/
theorem analysis_level_order_call :
    ∃ tree found, analyzeWith (fun _ => .ok "x.value") tree (.ofFile "m.py" .mixed) = .ok found ∧
      found = [⟨"m.py", 1, "business_conditionals: x.value"⟩, ⟨"m.py", 1, "enum_value_access: value"⟩,
        ⟨"m.py", 2, "isinstance_usage: type"⟩] ∧
      found.Perm (tree.onePass (fun _ => .ok "x.value") "m.py" none) := by
  let tree : Node := .mk .ifStmt (some 1)
    [(.test, .node (.mk .attribute (some 1)
      [(.value, .node (.mk .name (some 1) [(.id, .text "x")])), (.attr, .text "value")])),
     (.body, .list [.node (.mk .exprStmt (some 2) [(.value, .node (.mk .call (some 2)
      [(.func, .node (.mk .name (some 2) [(.id, .text "type")]))]))])])]
  have hfound : analyzeWith (fun _ => .ok "x.value") tree (.ofFile "m.py" .mixed) =
      .ok [⟨"m.py", 1, "business_conditionals: x.value"⟩, ⟨"m.py", 1, "enum_value_access: value"⟩,
        ⟨"m.py", 2, "isinstance_usage: type"⟩] := by decide +kernel
  have horder := analysis_level_order _ tree _ _ hfound 6 (by decide)
  refine ⟨tree, _, hfound, rfl, ?_⟩
  have hliterals : Rule.Literals.analyze tree (Context.ofFile "m.py" .mixed).file = [] := by decide
  have heq := horder.1
  rw [hliterals, List.append_nil] at heq
  rw [heq]
  exact horder.2.2.2.2

end ArchLint
