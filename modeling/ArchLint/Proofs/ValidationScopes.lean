import ArchLint.Proofs.Traversal
import ArchLint.Proofs.TypeChecking

/-!
# Checks of a validation

A conditional counts as a check of a validation by the name of the scope around it.  A conditional is
a scope as well, with a name of its own, so that a function which validates is seen only by the
conditionals that no other conditional stands around.

* `Node.enclosing?`: the nearest ancestor that opens a scope.
* `Node.enclosing?_append`: **the nearest ancestor is found from any node on the way**.
* `Node.validates`: a function or a class that is named after a validation.
* `Rule.Conditional.inContext`: a node as a conditional where it stands.
* `inValidation_inContext`: **what stands in a validation is told by the nearest ancestor**.
-/

namespace ArchLint

open ArchLint.Syntax (Kind Node Field Value Position Fault)
open ArchLint.Rule (Conditional ConditionalKind)

/-! ## The nearest ancestor that opens a scope -/

/-- The nearest proper ancestor of a position that is a function, a class, a conditional or a
match. -/
def Syntax.Node.enclosing? (tree : Node) (p : Position) : Option Node :=
  ((tree.ancestors p).filter Node.opensScope).getLast?

def Syntax.Node.isDefinition (n : Node) : Bool :=
  n.kind ∈ [.functionDef, .asyncFunctionDef, .classDef]

def Syntax.Node.branches (n : Node) : Bool :=
  n.kind ∈ [.ifStmt, .matchStmt]

def Syntax.Node.nameText? (n : Node) : Option String :=
  (n.get? .name).bind Value.text?

/-- Whether a name speaks of a validation, in capitals or not. -/
def namesValidation (name : String) : Bool :=
  Text.holds (Text.lower name) "validate"

/-- Whether a node is a function or a class that is named after a validation. -/
def Syntax.Node.validates (n : Node) : Bool :=
  n.isDefinition && n.nameText?.any namesValidation

namespace Syntax.Node

variable {tree n a : Node} {p q r : Position}

theorem scopeAround_eq (tree : Node) (p : Position) :
    tree.scopeAround p = (tree.enclosing? p).map fun a => a.ownScope.name :=
  rfl

theorem isDefinition_iff :
    n.isDefinition = true ↔
      n.kind = .functionDef ∨ n.kind = .asyncFunctionDef ∨ n.kind = .classDef := by
  rw [isDefinition, decide_eq_true_eq]
  simp only [List.mem_cons, List.not_mem_nil, or_false]

theorem branches_iff : n.branches = true ↔ n.kind = .ifStmt ∨ n.kind = .matchStmt := by
  rw [branches, decide_eq_true_eq]
  simp only [List.mem_cons, List.not_mem_nil, or_false]

theorem isDefinition_of_branches (h : n.branches = true) : n.isDefinition = false := by
  rw [isDefinition]
  rcases branches_iff.mp h with hkind | hkind
  · rw [hkind]
    rfl
  · rw [hkind]
    rfl

theorem opensScope_eq (n : Node) : n.opensScope = (n.isDefinition || n.branches) := by
  rw [Bool.eq_iff_iff, Bool.or_eq_true, isDefinition_iff, branches_iff, opensScope,
    decide_eq_true_eq]
  simp only [List.mem_cons, List.not_mem_nil, or_false, or_assoc]

theorem opensScope_of_enclosing? (h : tree.enclosing? p = some a) : a.opensScope = true :=
  (List.mem_filter.mp (List.mem_of_getLast? h)).2

/-- **The nearest ancestor is found from any node on the way**: below that node, if there is one
there, and else above it. -/
theorem enclosing?_append (h : tree.at? q = some a) (r : Position) :
    tree.enclosing? (q ++ r) = (a.enclosing? r).or (tree.enclosing? q) := by
  rw [enclosing?, ancestors_append h, List.filter_append, List.getLast?_append]
  rfl

/-- Inside a conditional, with no function or class in between, the nearest ancestor is a conditional
or a match. -/
theorem branches_enclosing? (hat : tree.at? q = some a) (ha : a.branches = true) (hr : r ≠ [])
    (hbetween : ∀ b ∈ (a.ancestors r).tail, b.isDefinition = false) :
    ∃ b, tree.enclosing? (q ++ r) = some b ∧ b.branches = true := by
  obtain ⟨i, rest, rfl⟩ := List.exists_cons_of_ne_nil hr
  have hopens : a.opensScope = true := by rw [opensScope_eq, ha, Bool.or_true]
  have hbelow : a.enclosing? (i :: rest) =
      some ((((a.ancestors (i :: rest)).tail).filter opensScope).getLastD a) := by
    rw [enclosing?, ancestors, List.filter_cons, if_pos hopens, List.getLast?_cons,
      List.tail_cons, List.getLastD_eq_getLast?]
  refine ⟨_, by rw [enclosing?_append hat, hbelow, Option.some_or], ?_⟩
  rcases List.eq_nil_or_concat' ((a.ancestors (i :: rest)).tail.filter opensScope) with
    hnil | ⟨before, b, hlast⟩
  · rw [hnil]
    exact ha
  · have hmem : b ∈ (a.ancestors (i :: rest)).tail.filter opensScope := by
      rw [hlast]
      exact List.mem_append_right _ (List.mem_singleton_self b)
    obtain ⟨hb, hopensb⟩ := List.mem_filter.mp hmem
    rw [hlast, List.getLastD_concat]
    rwa [opensScope_eq, hbetween b hb, Bool.false_or] at hopensb

end Syntax.Node

/-! ## Names of scopes -/

theorem namesValidation_defaults :
    ∀ name ∈ ["unknown_function", "unknown_class", "conditional", "match_case"],
      namesValidation name = false := by
  decide +kernel

theorem Syntax.Node.ownScope_name_of_isDefinition {n : Node} (h : n.isDefinition = true) :
    ∃ default, namesValidation default = false ∧
      n.ownScope.name = (n.get? .name).getD (.text default) := by
  rw [← Node.attribute?_name (of_decide_eq_true h), Node.ownScope]
  rcases Node.isDefinition_iff.mp h with hkind | hkind | hkind
  · rw [hkind]
    exact ⟨"unknown_function", namesValidation_defaults _ (by simp), rfl⟩
  · rw [hkind]
    exact ⟨"unknown_function", namesValidation_defaults _ (by simp), rfl⟩
  · rw [hkind]
    exact ⟨"unknown_class", namesValidation_defaults _ (by simp), rfl⟩

theorem Syntax.Node.ownScope_name_of_branches {n : Node} (h : n.branches = true) :
    ∃ name, namesValidation name = false ∧ n.ownScope.name = .text name := by
  rw [Node.ownScope]
  rcases Node.branches_iff.mp h with hkind | hkind
  · rw [hkind]
    exact ⟨"conditional", namesValidation_defaults _ (by simp), rfl⟩
  · rw [hkind]
    exact ⟨"match_case", namesValidation_defaults _ (by simp), rfl⟩

theorem nameAround_text (name : String) : nameAround (some (.text name)) = .ok (some name) := by
  rw [nameAround, Value.text?_text]

/-- **The name of a scope speaks of a validation if the node that opens it is named after one.** -/
theorem any_nameAround {a : Node} (h : a.opensScope = true) {name : Option String}
    (hname : nameAround (some a.ownScope.name) = .ok name) :
    name.any namesValidation = a.validates := by
  rw [Node.validates]
  cases hdef : a.isDefinition with
  | false =>
    rw [Node.opensScope_eq, hdef, Bool.false_or] at h
    obtain ⟨own, hown, heq⟩ := Node.ownScope_name_of_branches h
    rw [heq, nameAround_text] at hname
    rw [← Except.ok.inj hname]
    exact hown
  | true =>
    obtain ⟨default, hdefault, heq⟩ := Node.ownScope_name_of_isDefinition hdef
    rw [heq] at hname
    rw [Bool.true_and, Node.nameText?]
    cases hget : a.get? .name with
    | none =>
      rw [hget, Option.getD_none, nameAround_text] at hname
      rw [← Except.ok.inj hname]
      exact hdefault
    | some value =>
      rw [hget, Option.getD_some, nameAround] at hname
      rw [Option.bind_some]
      cases htext : value.text? with
      | some text =>
        rw [htext] at hname
        rw [← Except.ok.inj hname]
      | none =>
        -- a name that is no text is taken for none if it is empty, and else there is no answer
        rw [htext] at hname
        by_cases hset : value.isSet = true
        · rw [if_pos hset] at hname
          exact absurd hname (by simp)
        · rw [if_neg hset] at hname
          rw [← Except.ok.inj hname]

/-! ## Conditionals where they stand -/

namespace Rule.Conditional

/-- A node as a conditional, with the name of the scope that it stands in. -/
def inContext (render : Value → Except Fault String) (n : Node) (context : Context) :
    Except Fault Conditional :=
  match ofNode render n none context.depth with
  | .error fault => .error fault
  | .ok c => (parentOf context).map fun parent => { c with parentScope := parent }

theorem analyze_eq_inContext (render : Value → Except Fault String) (n : Node)
    (context : Context) :
    analyze render n context = (inContext render n context).map fun c => c.findings context.file := by
  rw [analyze, inContext]
  cases ofNode render n none context.depth with
  | error fault => rfl
  | ok c => cases parentOf context <;> rfl

theorem inContext_eq_ok {render : Value → Except Fault String} {n : Node} {context : Context}
    {c : Conditional} :
    inContext render n context = .ok c ↔
      ∃ parent, parentOf context = .ok parent ∧ ofNode render n parent context.depth = .ok c := by
  simp only [inContext, ofNode]
  cases testText render n with
  | error fault => simp
  | ok test =>
    cases n.summary with
    | error fault => simp
    | ok summary => rw [map_eq_ok]; simp

theorem inValidation_eq (c : Conditional) : c.inValidation = c.parentScope.any namesValidation := by
  rw [inValidation]
  cases c.parentScope <;> rfl

theorem kind_eq_validationCheck (c : Conditional) :
    c.kind = .validationCheck ↔ c.test ≠ typeCheckingName ∧ c.inValidation = true := by
  rw [kind_eq, isTypeChecking, ← typeCheckingName]
  by_cases htest : c.test = typeCheckingName
  · simp [htest]
  · cases c.inValidation with
    | true => simp [htest]
    | false =>
      simp only [beq_false_of_ne htest, Bool.false_eq_true, if_false, and_false, iff_false]
      split_ifs <;> decide

end Rule.Conditional

section Trees

variable {render : Value → Except Fault String} {tree n : Node} {p : Position} {context : Context}

/-- A conditional of a tree that can be analyzed is one where it stands, and its findings are found. -/
theorem exists_inContext {found : List Finding} (h : analyzeWith render tree context = .ok found)
    (hat : tree.at? p = some n) (hn : n.branches = true) :
    ∃ c, Conditional.inContext render n (nodeContext (.ofTree tree) context p) = .ok c ∧
      n.kind.role.findings render n (nodeContext (.ofTree tree) context p) =
        .ok (c.findings context.file) ∧ c.findings context.file ⊆ found := by
  have hrole : n.kind.role.findings render n (nodeContext (.ofTree tree) context p) =
      Conditional.analyze render n (nodeContext (.ofTree tree) context p) := by
    rcases Node.branches_iff.mp hn with hkind | hkind
    · rw [hkind]
      rfl
    · rw [hkind]
      rfl
  have hmem : (p, n) ∈ tree.walk := Node.mem_walk.mpr hat
  obtain ⟨hall, hfound⟩ := analyzeWith_eq_ok.mp h
  obtain ⟨j, hj⟩ := hall (p, n) hmem
  have hjudge : n.judge render (tree.scopeAround p) = .ok j := hj
  have hfindings := Role.findings_eq render n (nodeContext (.ofTree tree) context p)
  rw [current?_nodeContext hat, hjudge, hrole, Conditional.analyze_eq_inContext] at hfindings
  obtain ⟨c, hc, hown⟩ := map_eq_ok.mp hfindings
  refine ⟨c, hc, ?_, ?_⟩
  · rw [hrole, Conditional.analyze_eq_inContext, hc]
    rfl
  · have heq : tree.findingsAt render context.file (p, n) = c.findings context.file := by
      rw [Node.findingsAt, Node.ownFindings, hjudge]
      exact hown.symm
    rw [← heq, hfound]
    intro f hf
    exact List.mem_append_left _ (List.mem_flatMap.mpr ⟨(p, n), hmem, hf⟩)

/-- **What stands in a validation is told by the nearest ancestor.** -/
theorem inValidation_inContext {c : Conditional} (hat : tree.at? p = some n)
    (h : Conditional.inContext render n (nodeContext (.ofTree tree) context p) = .ok c) :
    c.inValidation = (tree.enclosing? p).any Node.validates := by
  obtain ⟨parent, hparent, hc⟩ := Conditional.inContext_eq_ok.mp h
  obtain ⟨_, _, hscope⟩ := Conditional.ofNode_eq_ok hc
  rw [parentOf_eq, current?_nodeContext hat, Node.scopeAround_eq] at hparent
  rw [Conditional.inValidation_eq, hscope]
  cases ha : tree.enclosing? p with
  | none =>
    rw [ha] at hparent
    rw [← Except.ok.inj hparent]
    rfl
  | some a =>
    rw [ha] at hparent
    exact any_nameAround (Node.opensScope_of_enclosing? ha) hparent

/-- A match has no test, so it is no guard of type checkers. -/
theorem test_eq_guard_iff {c : Conditional} (hn : n.branches = true)
    (hmatch : n.kind = .matchStmt → n.get? .test = none)
    (htest : Conditional.testText render n = .ok c.test) :
    c.test = typeCheckingName ↔
      n.kind = .ifStmt ∧ Conditional.testText render n = .ok typeCheckingName := by
  constructor
  · intro h
    rw [h] at htest
    refine ⟨?_, htest⟩
    by_contra hif
    have hkind : n.kind = .matchStmt := (Node.branches_iff.mp hn).resolve_left hif
    rw [Conditional.testText, hmatch hkind] at htest
    exact absurd (Except.ok.inj htest) (by decide)
  · rintro ⟨_, h⟩
    rw [h] at htest
    exact (Except.ok.inj htest).symm

end Trees

/-- **Which conditionals are checks of a validation.**  A conditional or a match is one exactly if it
is no guard of type checkers and the nearest of the functions, classes, conditionals and matches
around it is a function or a class that is named after a validation.  Inside a conditional or a match
that stands around it with no function or class in between, as in a further branch, it is none. -/
theorem validation_by_nearest_scope (tree : Node) (context : Context) (found : List Finding)
    (h : analyze tree context = .ok found) (p : Position) (n : Node)
    (hat : tree.at? p = some n) (hn : n.branches = true)
    (hmatch : n.kind = .matchStmt → n.get? .test = none) :
    ∃ c, Conditional.inContext Value.print n (nodeContext (.ofTree tree) context p) = .ok c ∧
      n.kind.role.findings Value.print n (nodeContext (.ofTree tree) context p) =
        .ok (c.findings context.file) ∧
      (c.kind = .validationCheck ↔
        ¬ (n.kind = .ifStmt ∧ Conditional.testText Value.print n = .ok typeCheckingName) ∧
          ∃ a, tree.enclosing? p = some a ∧ a.validates = true) ∧
      ∀ q r a, p = q ++ r → r ≠ [] → tree.at? q = some a → a.branches = true →
        (∀ b ∈ (a.ancestors r).tail, b.isDefinition = false) → c.kind ≠ .validationCheck := by
  obtain ⟨c, hc, hfindings, _⟩ := exists_inContext h hat hn
  obtain ⟨parent, _, hof⟩ := Conditional.inContext_eq_ok.mp hc
  have hguard := test_eq_guard_iff hn hmatch (Conditional.ofNode_eq_ok hof).1
  have hvalid := inValidation_inContext hat hc
  refine ⟨c, hc, hfindings, ?_, ?_⟩
  · rw [Conditional.kind_eq_validationCheck, ne_eq, hguard, hvalid, Option.any_eq_true]
  · rintro q r a rfl hr hq ha hbetween
    obtain ⟨b, hb, hbranches⟩ := Node.branches_enclosing? hq ha hr hbetween
    rw [ne_eq, Conditional.kind_eq_validationCheck, hvalid, hb, Option.any_some, Node.validates,
      Node.isDefinition_of_branches hbranches]
    simp

/-- A function that validates, with a conditional and a further branch. -/
def validatedBranches : Node :=
  .mk .functionDef (some 1) [(.name, .text "Validate_user"), (.body, .list
    [.node (.mk .ifStmt (some 2)
      [(.test, .node (.mk .name (some 2) [(.id, .text "ready")])),
       (.body, .list [.node (.mk .pass (some 3) [])]),
       (.orelse, .list [.node (.mk .ifStmt (some 4)
         [(.test, .node (.mk .name (some 4) [(.id, .text "late")])),
          (.body, .list [.node (.mk .pass (some 5) [])]), (.orelse, .list [])])])])])]

/-- The conditional is a check of the validation, and its further branch is none. -/
theorem validation_by_nearest_scope_branches :
    (∃ n c, validatedBranches.at? [0] = some n ∧
      Conditional.inContext Value.print n
        (nodeContext (.ofTree validatedBranches) (.ofFile "m.py" .mixed) [0]) = .ok c ∧
      c.kind = .validationCheck) ∧
    ∃ n c, validatedBranches.at? [0, 2] = some n ∧
      Conditional.inContext Value.print n
        (nodeContext (.ofTree validatedBranches) (.ofFile "m.py" .mixed) [0, 2]) = .ok c ∧
      c.kind ≠ .validationCheck := by
  have hfound : analyze validatedBranches (.ofFile "m.py" .mixed) =
      .ok [⟨"m.py", 2, "boundary_conditions: ready"⟩,
        ⟨"m.py", 4, "business_conditionals: late"⟩] := by decide +kernel
  obtain ⟨c, hc, _, hfirst, _⟩ := validation_by_nearest_scope validatedBranches
    (.ofFile "m.py" .mixed) _ hfound [0] _ rfl (by decide) (by decide)
  obtain ⟨d, hd, _, _, hnested⟩ := validation_by_nearest_scope validatedBranches
    (.ofFile "m.py" .mixed) _ hfound [0, 2] _ rfl (by decide) (by decide)
  refine ⟨⟨_, c, rfl, hc, hfirst.mpr ⟨?_, _, rfl, by decide +kernel⟩⟩, _, d, rfl, hd, ?_⟩
  · decide +kernel
  · exact hnested [0] [2] _ rfl (by decide) rfl (by decide) (by decide)

end ArchLint
