import ArchLint.Proofs.Expressions
import ArchLint.Proofs.Traversal

/-!
# Faults of the analysis

The rules look up fields, names and scopes, and print tests.  In a well-formed tree all that they
look up is there, so what can go wrong is the printing of a test.

* `Node.exists_name`: **every well-formed node has a name**.
* `Node.exists_nameAround`: the scopes of a well-formed tree have names that are text.
* `Node.Stuck`: a conditional whose test cannot be printed.
* `Node.judgeAt_answers`: **a node is judged unless it is stuck**.
* `analyze_answers`: **a well-formed tree is analysed unless a node of it is stuck**.
-/

namespace ArchLint

open ArchLint.Syntax (Kind Node Field Value Position Fault Shape Family Answers)

/-! ## Fields that are there -/

theorem Syntax.Node.get?_text {n : Node} (h : n.isProper = true) (field : Field)
    (hf : n.kind.shape? field = some .text) (hr : n.kind.isOptional field = false) :
    ∃ t, n.get? field = some (.constant (.text t)) := by
  obtain ⟨t, ht⟩ := Value.eq_text_of_text? (Node.field_fits h (Kind.mem_shapes hf))
  exact ⟨t, by rw [Node.get?_of_required h (Kind.mem_shapes hf) hr, ht]⟩

theorem Syntax.Node.get?_one {n : Node} (h : n.isProper = true) (field : Field) {family : Family}
    (hf : n.kind.shape? field = some (.one family)) (hr : n.kind.isOptional field = false) :
    ∃ c ∈ n.children, n.get? field = some (.node c) ∧ c.kind.family = some family := by
  obtain ⟨c, hc, hfamily⟩ := Value.eq_node_of_isOf (Node.field_fits h (Kind.mem_shapes hf))
  refine ⟨c, ?_, by rw [Node.get?_of_required h (Kind.mem_shapes hf) hr, hc], hfamily⟩
  rw [Node.children_eq h]
  refine List.mem_flatMap.mpr ⟨_, Kind.mem_shapes hf, ?_⟩
  rw [hc]
  exact List.mem_singleton_self c

/-! ## Names -/

theorem Syntax.required_eq {kind : Kind} {field : Field} {fields : List (Field × Value)}
    {value : Value} (h : fields.lookup field = some value) :
    Syntax.required kind field fields = .ok value := by
  rw [Syntax.required, h]

theorem Syntax.nameThrough_eq (kind : Kind) (field : Field) (blank : String)
    (fields : List (Field × Value)) :
    Syntax.nameThrough kind field blank fields =
      match fields.lookup field with
      | some value => value.nameOr blank
      | none => .error (.missingField kind field) := by
  induction fields with
  | nil => rfl
  | cons head rest ih =>
    obtain ⟨given, value⟩ := head
    rw [Syntax.nameThrough, List.lookup_cons]
    by_cases hgiven : given = field
    · rw [if_pos hgiven, hgiven, beq_self_eq_true]
    · rw [if_neg hgiven, beq_false_of_ne (Ne.symm hgiven)]
      exact ih

/-- **Every well-formed node has a name.** -/
theorem Syntax.Node.exists_name {n : Node} (h : n.isWellFormed = true) : ∃ v, n.name = .ok v := by
  induction n using Node.childInduction with
  | step n ih =>
    obtain ⟨hproper, hchildren⟩ := Node.isWellFormed_iff.mp h
    have hthrough : ∀ {kind field blank} {c : Node}, c ∈ n.children →
        n.fields.lookup field = some (.node c) →
        ∃ v, Syntax.nameThrough kind field blank n.fields = .ok v := by
      intro kind field blank c hc hget
      rw [Syntax.nameThrough_eq, hget]
      exact ih c hc (hchildren c hc)
    obtain ⟨kind, line, fields⟩ := n
    cases kind with
    | functionDef | asyncFunctionDef | classDef =>
      obtain ⟨t, ht⟩ := Node.get?_text hproper .name rfl rfl
      exact ⟨_, Syntax.required_eq ht⟩
    | name =>
      obtain ⟨t, ht⟩ := Node.get?_text hproper .id rfl rfl
      exact ⟨_, Syntax.required_eq ht⟩
    | «attribute» =>
      obtain ⟨t, ht⟩ := Node.get?_text hproper .attr rfl rfl
      exact ⟨_, Syntax.required_eq ht⟩
    | call =>
      obtain ⟨c, hc, hget, _⟩ := Node.get?_one hproper .func rfl rfl
      exact hthrough hc hget
    | ifStmt =>
      obtain ⟨c, hc, hget, _⟩ := Node.get?_one hproper .test rfl rfl
      exact hthrough hc hget
    | _ => exact ⟨_, rfl⟩

/-! ## Scopes -/

theorem Syntax.Node.exists_at?_of_mem_ancestors {tree a : Node} {p : Position}
    (h : a ∈ tree.ancestors p) : ∃ q, tree.at? q = some a := by
  induction p generalizing tree with
  | nil => exact absurd h List.not_mem_nil
  | cons i rest ih =>
    rw [Node.ancestors] at h
    rcases List.mem_cons.mp h with rfl | h
    · exact ⟨[], rfl⟩
    · cases hi : tree.children[i]? with
      | none => rw [hi] at h; exact absurd h List.not_mem_nil
      | some c =>
        rw [hi] at h
        obtain ⟨q, hq⟩ := ih h
        exact ⟨i :: q, by rw [Node.at?, hi]; exact hq⟩

theorem Syntax.Node.isSome_scopeName {a : Node} (h : a.isProper = true) (ho : a.opensScope = true) :
    a.ownScope.name.text?.isSome = true := by
  have hown : ∀ default, a.kind.shape? .name = some .text → a.kind.isOptional .name = false →
      (Role.ownName a default).text?.isSome = true := by
    intro default hf hr
    obtain ⟨t, ht⟩ := Node.get?_text h .name hf hr
    rw [Role.ownName, Node.attribute?, ht]
    rfl
  obtain ⟨kind, line, fields⟩ := a
  cases kind with
  | functionDef | asyncFunctionDef | classDef => exact hown _ rfl rfl
  | ifStmt | matchStmt => rfl
  | _ => exact absurd ho Bool.false_ne_true

theorem Syntax.Node.exists_nameAround_of {tree : Node}
    (h : ∀ q a, tree.at? q = some a → a.opensScope = true → a.ownScope.name.text?.isSome = true)
    (p : Position) : ∃ name, nameAround (tree.scopeAround p) = .ok name := by
  rw [Node.scopeAround]
  cases hlast : ((tree.ancestors p).filter Node.opensScope).getLast? with
  | none => exact ⟨none, rfl⟩
  | some a =>
    obtain ⟨ha, ho⟩ := List.mem_filter.mp (List.mem_of_getLast? hlast)
    obtain ⟨q, hq⟩ := Node.exists_at?_of_mem_ancestors ha
    obtain ⟨name, hname⟩ := Option.isSome_iff_exists.mp (h q a hq ho)
    refine ⟨some name, ?_⟩
    rw [Option.map_some, nameAround, hname]

theorem Syntax.Node.exists_nameAround {tree : Node} (h : tree.isWellFormed = true) (p : Position) :
    ∃ name, nameAround (tree.scopeAround p) = .ok name := by
  refine Node.exists_nameAround_of (fun q a hq ho => ?_) p
  exact Node.isSome_scopeName (Node.isWellFormed_iff.mp (Node.isWellFormed_of_at? h hq)).1 ho

/-! ## Judgements -/

/-- A conditional in whose test an obstacle stands. -/
def Syntax.Node.Stuck (n : Node) : Prop :=
  n.kind = .ifStmt ∧ ∃ test, n.get? .test = some (.node test) ∧ test.Blocked

theorem Syntax.Node.print_answers {n : Node} (h : n.isWellFormed = true)
    (hfamily : n.kind.family = some .expression) : Answers n.Blocked (Value.node n).print := by
  rw [Value.print_node, Node.print, Syntax.printPieces]
  refine (Node.prints h {} ?_).assemble.map _
  rw [Node.suits, hfamily]
  rfl

theorem Syntax.Node.stuck_iff {n c : Node} (hk : n.kind = .ifStmt)
    (hget : n.get? .test = some (.node c)) : c.Blocked ↔ n.Stuck := by
  constructor
  · exact fun hblocked => ⟨hk, c, hget, hblocked⟩
  · rintro ⟨_, test, htest, hblocked⟩
    rw [hget, Option.some.injEq, Value.node.injEq] at htest
    rw [htest]
    exact hblocked

theorem Syntax.Node.testText_answers {n : Node} (h : n.isWellFormed = true)
    (hk : n.kind = .ifStmt ∨ n.kind = .matchStmt) :
    Answers n.Stuck (Rule.Conditional.testText Value.print n) := by
  obtain ⟨hproper, hchildren⟩ := Node.isWellFormed_iff.mp h
  rcases hk with hk | hk
  · obtain ⟨c, hc, hget, hfamily⟩ := Node.get?_one hproper .test (by rw [hk]; rfl) (by rw [hk]; rfl)
    have htext : Rule.Conditional.testText Value.print n = (Value.node c).print := by
      rw [Rule.Conditional.testText, hget]
      rfl
    rw [htext]
    exact (Node.print_answers (hchildren c hc) hfamily).congr (Node.stuck_iff hk hget)
  · have hnone : n.get? .test = none :=
      Syntax.fieldsFit_notMem (Node.fieldsFit_of_isProper hproper) (by rw [hk]; decide)
    rw [Rule.Conditional.testText, hnone]
    exact Or.inl ⟨fun hstuck => absurd (hk.symm.trans hstuck.1) (by decide), _, rfl⟩

theorem Syntax.Node.conditional_answers {n : Node} (h : n.isWellFormed = true)
    (hk : n.kind = .ifStmt ∨ n.kind = .matchStmt) :
    Answers n.Stuck (Rule.Conditional.ofNode Value.print n none 0) := by
  obtain ⟨v, hv⟩ := Node.exists_name h
  rw [Rule.Conditional.ofNode, Node.summary, hv]
  rcases Node.testText_answers h hk with ⟨hno, t, ht⟩ | ⟨hstuck, fault, hfault, ht⟩
  · rw [ht]
    exact Or.inl ⟨hno, _, rfl⟩
  · rw [ht]
    exact Or.inr ⟨hstuck, fault, hfault, rfl⟩

theorem Syntax.Node.exists_call {n : Node} (h : n.isWellFormed = true) (hk : n.kind = .call) :
    ∃ c, Rule.Call.ofNode n = .ok c := by
  obtain ⟨hproper, hchildren⟩ := Node.isWellFormed_iff.mp h
  obtain ⟨f, hf, hget, _⟩ := Node.get?_one hproper .func (by rw [hk]; rfl) (by rw [hk]; rfl)
  obtain ⟨hfproper, _⟩ := Node.isWellFormed_iff.mp (hchildren f hf)
  have htext : ∃ t, Rule.Call.functionName (n.get? .func) = .constant (.text t) := by
    rw [hget]
    obtain ⟨kind, line, fields⟩ := f
    cases kind with
    | name =>
      obtain ⟨t, ht⟩ := Node.get?_text hfproper .id rfl rfl
      exact ⟨t, by rw [Rule.Call.functionName]; dsimp only [Node.kind]; rw [ht]; rfl⟩
    | «attribute» =>
      obtain ⟨t, ht⟩ := Node.get?_text hfproper .attr rfl rfl
      exact ⟨t, by rw [Rule.Call.functionName]; dsimp only [Node.kind]; rw [ht]; rfl⟩
    | _ => exact ⟨_, rfl⟩
  obtain ⟨t, ht⟩ := htext
  rw [Rule.Call.ofNode, ht]
  exact ⟨_, rfl⟩

theorem Syntax.Node.exists_attribute {n : Node} (h : n.isWellFormed = true)
    (hk : n.kind = .attribute) : ∃ a, Rule.Attribute.ofNode n = .ok a := by
  obtain ⟨hproper, _⟩ := Node.isWellFormed_iff.mp h
  obtain ⟨v, hv⟩ := Node.exists_name h
  obtain ⟨t, ht⟩ := Node.get?_text hproper .attr (by rw [hk]; rfl) (by rw [hk]; rfl)
  rw [Rule.Attribute.ofNode, Node.summary, hv, Rule.Attribute.nameOf, ht]
  exact ⟨_, rfl⟩

theorem kind_of_role {kind : Kind} :
    (kind.role = .conditional → kind = .ifStmt) ∧ (kind.role = .matchCase → kind = .matchStmt) ∧
      (kind.role = .call → kind = .call) := by
  cases kind <;> simp [Syntax.Kind.role]

/-- **A node is judged unless it is stuck.** -/
theorem Syntax.Node.judgeAt_answers {tree n : Node} {p : Position} (h : tree.isWellFormed = true)
    (hat : tree.at? p = some n) : Answers n.Stuck (tree.judgeAt Value.print (p, n)) := by
  have hn := Node.isWellFormed_of_at? h hat
  have hjudge : ∀ {kind j}, n.kind = kind → kind ≠ .ifStmt →
      n.judge Value.print (tree.scopeAround p) = .ok j →
      Answers n.Stuck (n.judge Value.print (tree.scopeAround p)) :=
    fun hk hne hj => Or.inl ⟨fun hstuck => hne (hk.symm.trans hstuck.1), _, hj⟩
  have hconditional : n.kind.role = .conditional ∨ n.kind.role = .matchCase →
      Answers n.Stuck (n.judge Value.print (tree.scopeAround p)) := by
    intro hrole
    obtain ⟨name, hname⟩ := Node.exists_nameAround h p
    have hk : n.kind = .ifStmt ∨ n.kind = .matchStmt := hrole.imp kind_of_role.1 kind_of_role.2.1
    rcases Node.conditional_answers hn hk with ⟨hno, c, hc⟩ | ⟨hstuck, fault, hfault, hc⟩
    · refine Or.inl ⟨hno, some (c.judgement name), ?_⟩
      rcases hrole with hr | hr
      · simp only [Node.judge, hr, hc, hname, Except.map]
      · simp only [Node.judge, hr, hc, hname, Except.map]
    · refine Or.inr ⟨hstuck, fault, hfault, ?_⟩
      rcases hrole with hr | hr
      · simp only [Node.judge, hr, hc]
      · simp only [Node.judge, hr, hc]
  rw [Node.judgeAt]
  dsimp only
  cases hr : n.kind.role with
  | conditional => exact hconditional (Or.inl hr)
  | matchCase => exact hconditional (Or.inr hr)
  | call =>
    have hk := kind_of_role.2.2 hr
    obtain ⟨c, hc⟩ := Node.exists_call hn hk
    refine hjudge (j := some c.judgement) hk (by decide) ?_
    rw [Node.judge, hr]
    dsimp only
    rw [hc]
    rfl
  | «attribute» =>
    have hk := kind_of_role_attribute hr
    obtain ⟨a, ha⟩ := Node.exists_attribute hn hk
    refine hjudge (j := a.judgement?) hk (by decide) ?_
    rw [Node.judge, hr]
    dsimp only
    rw [ha]
    rfl
  | functionDef | classDef | unknown =>
    refine hjudge (j := none) rfl (fun hk => absurd hr (by rw [hk]; decide)) ?_
    rw [Node.judge, hr]

/-! ## Whole trees -/

theorem joinFindings_answers {α : Type} {xs : List α} {f : α → Except Fault (List Finding)}
    {bad : α → Prop} (h : ∀ x ∈ xs, Answers (bad x) (f x)) :
    Answers (∃ x ∈ xs, bad x) (joinFindings (xs.map f)) := by
  induction xs with
  | nil => exact Or.inl ⟨by simp, [], rfl⟩
  | cons x rest ih =>
    have hrest := ih fun y hy => h y (List.mem_cons_of_mem x hy)
    rw [List.map_cons]
    rcases h x List.mem_cons_self with ⟨hno, own, hx⟩ | ⟨hbad, fault, hfault, hx⟩
    · rw [hx, joinFindings]
      exact (hrest.map (own ++ ·)).congr (by simp [hno])
    · rw [hx, joinFindings]
      exact Or.inr ⟨⟨x, List.mem_cons_self, hbad⟩, fault, hfault, rfl⟩

def Syntax.Node.HasStuck (tree : Node) : Prop :=
  ∃ p n, tree.at? p = some n ∧ n.Stuck

/-- **A well-formed tree is analysed unless a conditional of it is stuck.** -/
theorem analyze_answers {tree : Node} (h : tree.isWellFormed = true) (context : Context) :
    Answers tree.HasStuck (analyze tree context) := by
  rw [analyze, analyzeWith, nodeFindings_eq]
  have hspots : ∀ spot ∈ tree.walk, Answers spot.2.Stuck
      ((tree.judgeAt Value.print spot).map fun j =>
        (j.map (Judgement.finding context.file)).toList) := by
    rintro ⟨p, n⟩ hmem
    exact (Node.judgeAt_answers h (Node.mem_walk.mp hmem)).map _
  refine ((joinFindings_answers hspots).map _).congr ?_
  simp only [Node.HasStuck, Prod.exists, Node.mem_walk]

end ArchLint
