import ArchLint.Proofs.Faults

/-!
# Trees that lack fields

A tree that was not read from source may lack any field.  Some fields have a default, and some are
asked for outright; what a test is called is asked of the nodes that it leads to, through calls and
further tests.  This file says at which nodes the analysis breaks off, and with which fault.

* `Node.isRegular`: what is there is of its kind: an identifier is text, a test is nothing or
  something, a match has none.  Anything may be missing.
* `Node.NamedAfter`, `Node.LacksName`: the nodes that a name is taken from, and those without one.
* `Node.name_eq_error_iff`: **a name cannot be told if it leads to a node without one**.
* `Node.Breaks`: the nodes at which the analysis breaks off, each with its fault.
* `Node.judge_eq_error_iff`: **a node cannot be judged if the analysis breaks off at it**.
* `analysis_breaks_at_first_fault`: the fault of a tree is that of its first such node.
-/

namespace ArchLint

open ArchLint.Syntax (Kind Node Field Value Position Fault)

/-! ## Regular trees -/

/-- Whether the node is one of the grammar, missing fields apart: its identifiers are text, its test
is nothing or counts as given, and a match has no test. -/
def Syntax.Node.isRegular (n : Node) : Bool :=
  match n.kind with
  | .functionDef | .asyncFunctionDef | .classDef => (n.get? .name).all (·.text?.isSome)
  | .name => (n.get? .id).all (·.text?.isSome)
  | .attribute => (n.get? .attr).all (·.text?.isSome)
  | .ifStmt => (n.get? .test).all fun test => test.isNull || test.isSet
  | .matchStmt => (n.get? .test).isNone
  | _ => true

def Syntax.Node.isRegularTree (tree : Node) : Bool :=
  tree.walk.all fun spot => spot.2.isRegular

theorem Syntax.Node.isRegular_of_at? {tree n : Node} {p : Position}
    (h : tree.isRegularTree = true) (hat : tree.at? p = some n) : n.isRegular = true :=
  List.all_eq_true.mp h (p, n) (Node.mem_walk.mpr hat)

theorem Syntax.Node.mem_children_of_get? {n c : Node} {field : Field}
    (h : n.get? field = some (.node c)) : c ∈ n.children := by
  obtain ⟨before, after, heq, _⟩ := List.lookup_eq_some_iff.mp h
  refine List.mem_flatMap.mpr ⟨(field, .node c), ?_, List.mem_singleton_self c⟩
  rw [heq]
  exact List.mem_append_right _ List.mem_cons_self

/-! ## Names -/

/-- The field that the name of a node is taken from. -/
def Syntax.Kind.nameField? : Kind → Option Field
  | .functionDef | .asyncFunctionDef | .classDef => some .name
  | .name => some .id
  | .attribute => some .attr
  | .call => some .func
  | .ifStmt => some .test
  | _ => none

/-- The node does not have the field that its name is taken from. -/
def Syntax.Node.LacksName (n : Node) (field : Field) : Prop :=
  n.kind.nameField? = some field ∧ n.get? field = none

/-- The name of a call is that of what it calls, and the name of a conditional that of its test. -/
def Syntax.Node.TakesNameFrom (n c : Node) : Prop :=
  n.kind = .call ∧ n.get? .func = some (.node c) ∨ n.kind = .ifStmt ∧ n.get? .test = some (.node c)

/-- The name of the first node is looked for at the second. -/
inductive Syntax.Node.NamedAfter : Node → Node → Prop
  | self (n : Node) : NamedAfter n n
  | through {n c m : Node} : n.TakesNameFrom c → NamedAfter c m → NamedAfter n m

theorem Syntax.required_eq_error {kind : Kind} {field : Field} {fields : List (Field × Value)}
    {fault : Fault} :
    Syntax.required kind field fields = .error fault ↔
      fields.lookup field = none ∧ fault = .missingField kind field := by
  rw [Syntax.required]
  cases fields.lookup field with
  | none => simp [eq_comm]
  | some value => simp

theorem Syntax.nameThrough_eq_error {kind : Kind} {field : Field} {blank : String}
    {fields : List (Field × Value)} {fault : Fault} :
    Syntax.nameThrough kind field blank fields = .error fault ↔
      (fields.lookup field = none ∧ fault = .missingField kind field) ∨
        ∃ c, fields.lookup field = some (.node c) ∧ c.name = .error fault := by
  rw [Syntax.nameThrough_eq]
  cases fields.lookup field with
  | none => simp [eq_comm]
  | some value =>
    cases value with
    | node c => simp [Syntax.Value.nameOr]
    | list items => simp [Syntax.Value.nameOr]
    | constant c => simp [Syntax.Value.nameOr]

theorem Syntax.Node.name_eq_error_step {n : Node} {fault : Fault} :
    n.name = .error fault ↔
      (∃ field, n.LacksName field ∧ fault = .missingField n.kind field) ∨
        ∃ c, n.TakesNameFrom c ∧ c.name = .error fault := by
  obtain ⟨kind, line, fields⟩ := n
  have hget : ∀ field, (Node.mk kind line fields).get? field = fields.lookup field := fun _ => rfl
  simp only [Node.LacksName, Node.TakesNameFrom, hget, Node.kind]
  cases kind with
  | functionDef | asyncFunctionDef | classDef | name | «attribute» =>
    rw [Node.name, Syntax.required_eq_error]
    simp [Syntax.Kind.nameField?]
  | call | ifStmt =>
    rw [Node.name, Syntax.nameThrough_eq_error]
    simp [Syntax.Kind.nameField?]
  | _ => simp [Node.name, Syntax.Kind.nameField?]

/-- **A name cannot be told if it leads to a node without one.** -/
theorem Syntax.Node.name_eq_error_iff {n : Node} {fault : Fault} :
    n.name = .error fault ↔
      ∃ m field, n.NamedAfter m ∧ m.LacksName field ∧ fault = .missingField m.kind field := by
  constructor
  · -- down the tree: what a name is taken from is a child
    induction n using Node.childInduction with
    | step n ih =>
      intro h
      rcases Node.name_eq_error_step.mp h with ⟨field, hlacks, hfault⟩ | ⟨c, hc, hname⟩
      · exact ⟨n, field, .self n, hlacks, hfault⟩
      · have hmem : c ∈ n.children := by
          rcases hc with ⟨_, hget⟩ | ⟨_, hget⟩
          · exact Node.mem_children_of_get? hget
          · exact Node.mem_children_of_get? hget
        obtain ⟨m, field, hafter, hlacks, hfault⟩ := ih c hmem hname
        exact ⟨m, field, .through hc hafter, hlacks, hfault⟩
  · rintro ⟨m, field, hafter, hlacks, rfl⟩
    induction hafter with
    | self m => exact Node.name_eq_error_step.mpr (Or.inl ⟨field, hlacks, rfl⟩)
    | through hc _ ih => exact Node.name_eq_error_step.mpr (Or.inr ⟨_, hc, ih hlacks⟩)

/-! ## Where the analysis breaks off -/

/-- The analysis breaks off at the node, with the fault: at an access without an attribute, at a
conditional without a test, or at one whose test cannot be printed or, printed, not be named. -/
inductive Syntax.Node.Breaks (render : Value → Except Fault String) (n : Node) : Fault → Prop
  | noAttribute : n.kind = .attribute → n.get? .attr = none →
      Breaks render n (.missingField .attribute .attr)
  | noTest : n.kind = .ifStmt → n.get? .test = none → Breaks render n (.missingField .ifStmt .test)
  | unprintable {test : Value} {fault : Fault} : n.kind = .ifStmt → n.get? .test = some test →
      test ≠ .null → render test = .error fault → Breaks render n fault
  | nameless {test m : Node} {text : String} {field : Field} : n.kind = .ifStmt →
      n.get? .test = some (.node test) → render (.node test) = .ok text → test.NamedAfter m →
      m.LacksName field → Breaks render n (.missingField m.kind field)

theorem Syntax.Node.summary_eq_error {n : Node} {fault : Fault} :
    n.summary = .error fault ↔ n.name = .error fault := by
  rw [Node.summary]
  cases n.name with
  | error other => simp [Except.map]
  | ok name => simp [Except.map]

theorem conditional_ofNode_eq_error {render : Value → Except Fault String} {n : Node}
    {fault : Fault} :
    Rule.Conditional.ofNode render n none 0 = .error fault ↔
      Rule.Conditional.testText render n = .error fault ∨
        (∃ text, Rule.Conditional.testText render n = .ok text) ∧ n.name = .error fault := by
  rw [Rule.Conditional.ofNode, ← Node.summary_eq_error]
  cases Rule.Conditional.testText render n with
  | error other => simp
  | ok text =>
    cases n.summary with
    | error other => simp
    | ok summary => simp

theorem testText_eq {render : Value → Except Fault String} {n : Node} {test : Value}
    (hget : n.get? .test = some test) (hregular : (test.isNull || test.isSet) = true) :
    Rule.Conditional.testText render n = if test = .null then .ok "unknown" else render test := by
  rw [Rule.Conditional.testText, hget]
  rcases Bool.or_eq_true_iff.mp hregular with hnull | hset
  · rw [Value.eq_null_of_isNull hnull, if_pos rfl]
    rfl
  · have hne : test ≠ .null := by
      rintro rfl
      exact absurd hset (by decide)
    rw [if_neg hne]
    exact if_pos hset

section Judge

variable {render : Value → Except Fault String} {n : Node} {fault : Fault}

theorem Syntax.Node.conditional_eq_error_iff (hk : n.kind = .ifStmt) (hn : n.isRegular = true) :
    Rule.Conditional.ofNode render n none 0 = .error fault ↔ n.Breaks render fault := by
  have hlacks : ∀ field, n.LacksName field ↔ field = .test ∧ n.get? .test = none := by
    intro field
    rw [Node.LacksName, hk]
    simp only [Syntax.Kind.nameField?, Option.some.injEq]
    constructor
    · rintro ⟨rfl, hnone⟩
      exact ⟨rfl, hnone⟩
    · rintro ⟨rfl, hnone⟩
      exact ⟨rfl, hnone⟩
  have htakes : ∀ c, n.TakesNameFrom c ↔ n.get? .test = some (.node c) := by
    intro c
    rw [Node.TakesNameFrom, hk]
    simp
  have hname : n.name = .error fault ↔
      (n.get? .test = none ∧ fault = .missingField .ifStmt .test) ∨
        ∃ c, n.get? .test = some (.node c) ∧ c.name = .error fault := by
    rw [Node.name_eq_error_step, hk]
    simp only [hlacks, htakes]
    refine or_congr_left ?_
    constructor
    · rintro ⟨_, ⟨rfl, hnone⟩, hfault⟩
      exact ⟨hnone, hfault⟩
    · rintro ⟨hnone, hfault⟩
      exact ⟨_, ⟨rfl, hnone⟩, hfault⟩
  rw [conditional_ofNode_eq_error, hname]
  cases hget : n.get? .test with
  | none =>
    have htext : Rule.Conditional.testText render n = .ok "unknown" := by
      rw [Rule.Conditional.testText, hget]
    rw [htext]
    constructor
    · rintro (h | ⟨_, ⟨_, rfl⟩ | ⟨c, hc, _⟩⟩)
      · exact absurd h (by simp)
      · exact .noTest hk hget
      · exact absurd hc (by simp)
    · intro h
      cases h with
      | noAttribute hk' _ => exact absurd (hk.symm.trans hk') (by decide)
      | noTest _ _ => exact Or.inr ⟨⟨_, rfl⟩, Or.inl ⟨rfl, rfl⟩⟩
      | unprintable _ hsome _ _ => exact absurd (hget.symm.trans hsome) (by simp)
      | nameless _ hsome _ _ _ => exact absurd (hget.symm.trans hsome) (by simp)
  | some test =>
    have hregular : (test.isNull || test.isSet) = true := by
      rw [Node.isRegular, hk] at hn
      simpa only [hget, Option.all_some] using hn
    rw [testText_eq hget hregular]
    constructor
    · rintro (h | ⟨⟨text, htext⟩, ⟨hnone, _⟩ | ⟨c, hc, hc'⟩⟩)
      · by_cases hnull : test = .null
        · rw [if_pos hnull] at h
          exact absurd h (by simp)
        · rw [if_neg hnull] at h
          exact .unprintable hk hget hnull h
      · exact absurd hnone (by simp)
      · obtain rfl : test = .node c := Option.some.inj hc
        rw [if_neg (by simp)] at htext
        obtain ⟨m, field, hafter, hm, rfl⟩ := Node.name_eq_error_iff.mp hc'
        exact .nameless hk hget htext hafter hm
    · intro h
      cases h with
      | noAttribute hk' _ => exact absurd (hk.symm.trans hk') (by decide)
      | noTest _ hnone => exact absurd (hget.symm.trans hnone) (by simp)
      | unprintable _ hsome hnull hrender =>
        obtain rfl : test = _ := Option.some.inj (hget.symm.trans hsome)
        rw [if_neg hnull]
        exact Or.inl hrender
      | nameless _ hsome hrender hafter hm =>
        obtain rfl : test = _ := Option.some.inj (hget.symm.trans hsome)
        rw [if_neg (by simp)]
        exact Or.inr ⟨⟨_, hrender⟩, Or.inr ⟨_, rfl,
          Node.name_eq_error_iff.mpr ⟨_, _, hafter, hm, rfl⟩⟩⟩

theorem Syntax.Node.exists_match (render : Value → Except Fault String) (hk : n.kind = .matchStmt)
    (hn : n.isRegular = true) : ∃ c, Rule.Conditional.ofNode render n none 0 = .ok c := by
  have hnone : n.get? .test = none := by
    rw [Node.isRegular, hk] at hn
    exact Option.isNone_iff_eq_none.mp hn
  have hname : ∃ name, n.name = .ok name := by
    obtain ⟨kind, line, fields⟩ := n
    obtain rfl : kind = .matchStmt := hk
    exact ⟨_, rfl⟩
  obtain ⟨name, hname⟩ := hname
  rw [Rule.Conditional.ofNode, Rule.Conditional.testText, hnone, Node.summary, hname]
  exact ⟨_, rfl⟩

theorem Syntax.Node.exists_regular_call (hchildren : ∀ c ∈ n.children, c.isRegular = true) :
    ∃ c, Rule.Call.ofNode n = .ok c := by
  have hdefault : ∀ value : Option Value, value.all (·.text?.isSome) = true →
      ∃ t, value.getD (.text "unknown") = .constant (.text t) := by
    intro value hvalue
    cases value with
    | none => exact ⟨_, rfl⟩
    | some given => exact Value.eq_text_of_text? hvalue
  have htext : ∃ t, Rule.Call.functionName (n.get? .func) = .constant (.text t) := by
    cases hget : n.get? .func with
    | none => exact ⟨_, rfl⟩
    | some value =>
      cases value with
      | list items => exact ⟨_, rfl⟩
      | constant c => exact ⟨_, rfl⟩
      | node f =>
        have hf := hchildren f (Node.mem_children_of_get? hget)
        rw [Node.isRegular] at hf
        rw [Rule.Call.functionName]
        cases hk : f.kind with
        | name =>
          rw [hk] at hf
          exact hdefault _ hf
        | «attribute» =>
          rw [hk] at hf
          exact hdefault _ hf
        | _ => exact ⟨_, rfl⟩
  obtain ⟨t, ht⟩ := htext
  rw [Rule.Call.ofNode, ht]
  exact ⟨_, rfl⟩

/-- What an access is taken for: its attribute has to be there, so no default is ever seen. -/
theorem Syntax.Node.attribute_ofNode_eq (hk : n.kind = .attribute) :
    Rule.Attribute.ofNode n =
      match n.get? .attr with
      | none => .error (.missingField .attribute .attr)
      | some value =>
        match value.text? with
        | none => .error (.lacks value.label "lower")
        | some name => .ok ⟨name, n.lineNumber⟩ := by
  obtain ⟨kind, line, fields⟩ := n
  obtain rfl : kind = .attribute := hk
  rw [Rule.Attribute.ofNode, Node.summary, Node.name, Syntax.required, Rule.Attribute.nameOf]
  simp only [Node.get?, Node.fields]
  cases fields.lookup .attr with
  | none => rfl
  | some value =>
    simp only [Except.map]
    cases value.text? <;> rfl

theorem Syntax.Node.attribute_eq_error_iff (render : Value → Except Fault String)
    (hk : n.kind = .attribute) (hn : n.isRegular = true) :
    Rule.Attribute.ofNode n = .error fault ↔ n.Breaks render fault := by
  have hregular : (n.get? .attr).all (·.text?.isSome) = true := by
    rw [Node.isRegular, hk] at hn
    exact hn
  have hbreaks : n.Breaks render fault ↔
      n.get? .attr = none ∧ fault = .missingField .attribute .attr := by
    constructor
    · intro h
      cases h with
      | noAttribute _ hnone => exact ⟨hnone, rfl⟩
      | noTest hk' _ => exact absurd (hk.symm.trans hk') (by decide)
      | unprintable hk' _ _ _ => exact absurd (hk.symm.trans hk') (by decide)
      | nameless hk' _ _ _ _ => exact absurd (hk.symm.trans hk') (by decide)
    · rintro ⟨hnone, rfl⟩
      exact .noAttribute hk hnone
  rw [hbreaks, Node.attribute_ofNode_eq hk]
  cases hget : n.get? .attr with
  | none => simp [eq_comm]
  | some value =>
    rw [hget] at hregular
    obtain ⟨t, rfl⟩ := Value.eq_text_of_text? hregular
    simp [Value.text?]

theorem Syntax.Node.not_breaks (hattribute : n.kind ≠ .attribute) (hif : n.kind ≠ .ifStmt) :
    ¬ n.Breaks render fault := by
  intro h
  cases h with
  | noAttribute hk _ => exact hattribute hk
  | noTest hk _ => exact hif hk
  | unprintable hk _ _ _ => exact hif hk
  | nameless hk _ _ _ _ => exact hif hk

/-- **A node cannot be judged if the analysis breaks off at it.** -/
theorem Syntax.Node.judge_eq_error_iff {around : Option Value} (hn : n.isRegular = true)
    (hchildren : ∀ c ∈ n.children, c.isRegular = true)
    (haround : ∃ name, nameAround around = .ok name) :
    n.judge render around = .error fault ↔ n.Breaks render fault := by
  obtain ⟨name, hname⟩ := haround
  rw [Node.judge]
  cases hr : n.kind.role with
  | conditional =>
    have hk := kind_of_role.1 hr
    rw [← Node.conditional_eq_error_iff hk hn]
    cases Rule.Conditional.ofNode render n none 0 with
    | error other => simp
    | ok c => simp [hname, Except.map]
  | matchCase =>
    have hk := kind_of_role.2.1 hr
    obtain ⟨c, hc⟩ := Node.exists_match render hk hn
    refine iff_of_false ?_ (Node.not_breaks (by rw [hk]; decide) (by rw [hk]; decide))
    simp [hc, hname, Except.map]
  | call =>
    have hk := kind_of_role.2.2 hr
    obtain ⟨c, hc⟩ := Node.exists_regular_call hchildren
    refine iff_of_false ?_ (Node.not_breaks (by rw [hk]; decide) (by rw [hk]; decide))
    simp [hc, Except.map]
  | «attribute» =>
    have hk := kind_of_role_attribute hr
    rw [← Node.attribute_eq_error_iff render hk hn]
    cases Rule.Attribute.ofNode n with
    | error other => simp [Except.map]
    | ok a => simp [Except.map]
  | functionDef | classDef | unknown =>
    refine iff_of_false (by simp) (Node.not_breaks ?_ ?_)
    · intro hk
      rw [hk] at hr
      exact absurd hr (by decide)
    · intro hk
      rw [hk] at hr
      exact absurd hr (by decide)

end Judge

/-! ## Whole trees -/

section Trees

variable {tree n : Node} {p : Position}

theorem Syntax.Node.regular_scopeName {a : Node} (h : a.isRegular = true)
    (ho : a.opensScope = true) : a.ownScope.name.text?.isSome = true := by
  have hown : ∀ default : String, (a.get? .name).all (·.text?.isSome) = true →
      a.kind.isOptional .name = false → (Role.ownName a default).text?.isSome = true := by
    intro default hname hrequired
    rw [Role.ownName, Node.attribute?]
    cases hget : a.get? .name with
    | none =>
      rw [hrequired]
      exact congrArg Option.isSome (Value.text?_text default)
    | some value =>
      rw [hget] at hname
      exact hname
  obtain ⟨kind, line, fields⟩ := a
  cases kind with
  | functionDef | asyncFunctionDef | classDef => exact hown _ h rfl
  | ifStmt | matchStmt => rfl
  | _ => exact absurd ho Bool.false_ne_true

theorem Syntax.Node.judgeAt_eq_error_iff {render : Value → Except Fault String} {fault : Fault}
    (h : tree.isRegularTree = true) (hat : tree.at? p = some n) :
    tree.judgeAt render (p, n) = .error fault ↔ n.Breaks render fault := by
  have haround := Node.exists_nameAround_of
    (fun q a hq ho => Node.regular_scopeName (Node.isRegular_of_at? h hq) ho) p
  refine Node.judge_eq_error_iff (Node.isRegular_of_at? h hat) (fun c hc => ?_) haround
  obtain ⟨i, hi⟩ := List.getElem?_of_mem hc
  exact Node.isRegular_of_at? h ((Node.at?_concat hat i).trans hi)

theorem Syntax.Node.judgeAt_eq_ok_iff {render : Value → Except Fault String}
    (h : tree.isRegularTree = true) (hat : tree.at? p = some n) :
    (∃ j, tree.judgeAt render (p, n) = .ok j) ↔ ∀ fault, ¬ n.Breaks render fault := by
  simp only [← Node.judgeAt_eq_error_iff h hat]
  cases tree.judgeAt render (p, n) with
  | error fault => simp
  | ok j => simp

/-- **The fault of a tree is that of the first node at which the analysis breaks off.** -/
theorem analyzeWith_eq_error_iff {render : Value → Except Fault String}
    (h : tree.isRegularTree = true) (context : Context) {fault : Fault} :
    analyzeWith render tree context = .error fault ↔
      ∃ before p n after, tree.walk = before ++ (p, n) :: after ∧
        (∀ spot ∈ before, ∀ other, ¬ spot.2.Breaks render other) ∧ n.Breaks render fault := by
  have hat : ∀ {before p n after}, tree.walk = before ++ (p, n) :: after →
      tree.at? p = some n ∧ ∀ spot ∈ before, tree.at? spot.1 = some spot.2 := by
    intro before p n after hwalk
    refine ⟨Node.mem_walk.mp ?_, fun spot hspot => Node.mem_walk.mp ?_⟩
    · rw [hwalk]
      exact List.mem_append_right _ List.mem_cons_self
    · rw [hwalk]
      exact List.mem_append_left _ hspot
  have hmap : ∀ {x : Except Fault (Option Judgement)}, ((x.map fun j =>
      (j.map (Judgement.finding context.file)).toList) = .error fault ↔ x = .error fault) ∧
        ((∃ own, (x.map fun j => (j.map (Judgement.finding context.file)).toList) = .ok own) ↔
          ∃ j, x = .ok j) := by
    intro x
    cases x <;> simp [Except.map]
  have hnodes : analyzeWith render tree context = .error fault ↔
      nodeFindings render tree context = .error fault := by
    rw [analyzeWith]
    cases nodeFindings render tree context <;> simp [Except.map]
  rw [hnodes, nodeFindings_eq, joinFindings_map_eq_error]
  simp only [hmap]
  constructor
  · rintro ⟨before, ⟨p, n⟩, after, hwalk, hbefore, hfault⟩
    refine ⟨before, p, n, after, hwalk, ?_, ?_⟩
    · intro spot hspot
      exact (Node.judgeAt_eq_ok_iff h ((hat hwalk).2 spot hspot)).mp (hbefore spot hspot)
    · exact (Node.judgeAt_eq_error_iff h (hat hwalk).1).mp hfault
  · rintro ⟨before, p, n, after, hwalk, hbefore, hfault⟩
    refine ⟨before, (p, n), after, hwalk, ?_, ?_⟩
    · intro spot hspot
      exact (Node.judgeAt_eq_ok_iff h ((hat hwalk).2 spot hspot)).mpr (hbefore spot hspot)
    · exact (Node.judgeAt_eq_error_iff h (hat hwalk).1).mpr hfault

end Trees

/-- **Where and how the analysis of a tree breaks off**, whatever its nodes lack and however tests
are printed.  It does so if there is an access without an attribute, a conditional without a test,
or one whose test cannot be printed or leads to a node without a name; and the fault is that of the
first such node in the order of the walk.  Calls and matches always have findings, every node has
its scopes, literals never break anything off, and the name of an access is always that of its
field. -/
theorem analysis_breaks_at_first_fault (render : Value → Except Fault String) (tree : Node)
    (context : Context) (h : tree.isRegularTree = true) :
    ((∃ fault, analyzeWith render tree context = .error fault) ↔
      ∃ p n fault, tree.at? p = some n ∧ n.Breaks render fault) ∧
    (∀ fault, analyzeWith render tree context = .error fault ↔
      ∃ before p n after, tree.walk = before ++ (p, n) :: after ∧
        (∀ spot ∈ before, ∀ other, ¬ spot.2.Breaks render other) ∧ n.Breaks render fault) ∧
    (∀ p n, tree.at? p = some n → n.kind = .call ∨ n.kind = .matchStmt →
      ∃ found, n.kind.role.findings render n (nodeContext (.ofTree tree) context p) = .ok found) ∧
    (∀ p n, tree.at? p = some n →
      (ScopeMap.ofTree tree).get? p = some (scopesOf (tree.ancestors p))) ∧
    (∀ found, nodeFindings render tree context = .ok found →
      analyzeWith render tree context = .ok (found ++ Rule.Literals.analyze tree context.file)) ∧
    (∀ p n a, tree.at? p = some n → n.kind = .attribute → Rule.Attribute.ofNode n = .ok a →
      ∃ value, n.get? .attr = some value ∧ value.text? = some a.name) := by
  refine ⟨?_, fun fault => analyzeWith_eq_error_iff h context, ?_, ?_, ?_, ?_⟩
  · have hok : (∃ fault, analyzeWith render tree context = .error fault) ↔
        ¬ ∃ found, analyzeWith render tree context = .ok found := by
      cases analyzeWith render tree context <;> simp
    rw [hok]
    simp only [analyzeWith_eq_ok]
    constructor
    · intro hfails
      by_contra hnone
      refine hfails ⟨_, ?_, rfl⟩
      rintro ⟨p, n⟩ hmem
      have hat := Node.mem_walk.mp hmem
      refine (Node.judgeAt_eq_ok_iff h hat).mpr fun fault hbreaks => ?_
      exact hnone ⟨p, n, fault, hat, hbreaks⟩
    · rintro ⟨p, n, fault, hat, hbreaks⟩ ⟨_, hall, _⟩
      exact (Node.judgeAt_eq_ok_iff h hat).mp (hall (p, n) (Node.mem_walk.mpr hat)) fault hbreaks
  · intro p n hat hk
    have hclear : ∀ fault, ¬ n.Breaks render fault := by
      intro fault
      rcases hk with hk | hk
      · exact Node.not_breaks (by rw [hk]; decide) (by rw [hk]; decide)
      · exact Node.not_breaks (by rw [hk]; decide) (by rw [hk]; decide)
    obtain ⟨j, hj⟩ := (Node.judgeAt_eq_ok_iff h hat).mpr hclear
    rw [Role.findings_eq, current?_nodeContext hat]
    exact ⟨_, map_eq_ok.mpr ⟨j, hj, rfl⟩⟩
  · exact fun p n hat => ScopeMap.get?_ofTree hat
  · intro found hfound
    rw [analyzeWith, hfound]
    rfl
  · intro p n a _ hk ha
    have hname := attributeName?_of_ofNode hk ha
    exact Option.bind_eq_some_iff.mp hname

/-- An access without an attribute, and after it, but higher up, a conditional on a call of
nothing. -/
def gappyTree : Node :=
  .mk .moduleBody none [(.body, .list
    [.node (.mk .exprStmt (some 1) [(.value, .node (.mk .attribute (some 1) []))]),
     .node (.mk .ifStmt (some 2) [(.test, .node (.mk .call (some 2) []))])])]

theorem analysis_breaks_at_first_fault_gappy :
    gappyTree.isRegularTree = true ∧
      analyzeWith (fun _ => .ok "f()") gappyTree (.ofFile "m.py" .mixed) =
        .error (.missingField .call .func) := by
  have hregular : gappyTree.isRegularTree = true := by decide +kernel
  have hfirst := (analysis_breaks_at_first_fault (fun _ => .ok "f()") gappyTree
    (.ofFile "m.py" .mixed) hregular).2.1 (.missingField .call .func)
  refine ⟨hregular, hfirst.mpr ⟨gappyTree.walk.take 2, [1], _, gappyTree.walk.drop 3,
    (by decide +kernel :
      gappyTree.walk = gappyTree.walk.take 2 ++
        ([1], Node.mk .ifStmt (some 2) [(.test, .node (.mk .call (some 2) []))]) ::
          gappyTree.walk.drop 3), ?_, ?_⟩⟩
  · intro spot hspot other
    have hkinds : (gappyTree.walk.take 2).all (fun spot =>
        spot.2.kind ≠ .attribute ∧ spot.2.kind ≠ .ifStmt) = true := by decide +kernel
    obtain ⟨hattribute, hif⟩ := of_decide_eq_true (List.all_eq_true.mp hkinds spot hspot)
    exact Node.not_breaks hattribute hif
  · exact .nameless (m := .mk .call (some 2) []) rfl rfl rfl (.self _) ⟨rfl, rfl⟩

end ArchLint
