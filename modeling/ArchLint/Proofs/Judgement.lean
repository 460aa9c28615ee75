import ArchLint.Role

/-!
# Judgements

What the rules say of one node: a mark, a line, and the text that is shown with the mark.  A node is
judged by itself and by the name of the scope around it, and by nothing else of its context.

* `Role.findings_eq`: **the findings of a node are those of its judgement**; of the context only the
  file and the name of the innermost scope are looked at.
* `Node.isSome_judge`: which nodes are judged, told from the class of the node and, for an access,
  from the name of the attribute.
-/

namespace ArchLint

open ArchLint.Syntax (Kind Node Field Value Fault Summary)

structure Judgement where
  mark : Mark
  line : Int
  /-- The text that is shown with the mark. -/
  text : String
  deriving DecidableEq, Repr

def Judgement.finding (file : String) (j : Judgement) : Finding :=
  .ofMark j.mark file j.line j.text

/-- The name of the scope around a conditional, which has to be text if it is given at all. -/
def nameAround : Option Value → Except Fault (Option String)
  | none => .ok none
  | some name =>
    match name.text? with
    | some text => .ok (some text)
    | none => if name.isSet then .error (.lacks name.label "lower") else .ok none

/-- The judgement on a conditional, inside a scope of the given name. -/
def Rule.Conditional.judgement (c : Rule.Conditional) (around : Option String) : Judgement :=
  ⟨{ c with parentScope := around }.kind.mark, c.summary.line, c.test⟩

def Rule.Call.judgement (c : Rule.Call) : Judgement :=
  ⟨c.kind.mark, c.line, c.function.shown⟩

def Rule.Attribute.judgement? (a : Rule.Attribute) : Option Judgement :=
  a.kind.mark?.map fun mark => ⟨mark, a.line, a.name⟩

/-- The judgement on a node inside a scope of the given name; most nodes are not judged. -/
def Syntax.Node.judge (render : Value → Except Fault String) (around : Option Value) (n : Node) :
    Except Fault (Option Judgement) :=
  match n.kind.role with
  | .conditional | .matchCase =>
    match Rule.Conditional.ofNode render n none 0 with
    | .error fault => .error fault
    | .ok c => (nameAround around).map fun name => some (c.judgement name)
  | .call => (Rule.Call.ofNode n).map fun c => some c.judgement
  | .attribute => (Rule.Attribute.ofNode n).map Rule.Attribute.judgement?
  | _ => .ok none

def Syntax.Node.ownFindings (render : Value → Except Fault String) (file : String)
    (around : Option Value) (n : Node) : List Finding :=
  match n.judge render around with
  | .ok j => (j.map (Judgement.finding file)).toList
  | .error _ => []

/-! ## Rules as judgements -/

theorem map_eq_ok {ε α β : Type} {x : Except ε α} {f : α → β} {b : β} :
    x.map f = .ok b ↔ ∃ a, x = .ok a ∧ f a = b := by
  cases x with
  | error e => simp [Except.map]
  | ok a => simp [Except.map]

theorem parentOf_eq (context : Context) :
    Rule.Conditional.parentOf context = nameAround (context.current?.map Scope.name) := by
  rw [Rule.Conditional.parentOf]
  cases context.current? with
  | none => rfl
  | some scope => rfl

theorem conditional_analyze_eq (render : Value → Except Fault String) (n : Node)
    (context : Context) :
    Rule.Conditional.analyze render n context =
      match Rule.Conditional.ofNode render n none 0 with
      | .error fault => .error fault
      | .ok c => (nameAround (context.current?.map Scope.name)).map fun name =>
          [(c.judgement name).finding context.file] := by
  rw [Rule.Conditional.analyze, parentOf_eq, Rule.Conditional.ofNode, Rule.Conditional.ofNode]
  cases Rule.Conditional.testText render n with
  | error fault => rfl
  | ok test =>
    cases n.summary with
    | error fault => rfl
    | ok summary => rfl

theorem attribute_findings_eq (a : Rule.Attribute) (file : String) :
    a.findings file = (a.judgement?.map (Judgement.finding file)).toList := by
  rw [Rule.Attribute.findings, Rule.AttributeKind.findings, Rule.Attribute.judgement?,
    Option.map_map]
  rfl

/-- **The findings of a node are those of its judgement.**  Of the context only the file and the name
of the innermost scope are looked at. -/
theorem Role.findings_eq (render : Value → Except Fault String) (n : Node) (context : Context) :
    n.kind.role.findings render n context =
      (n.judge render (context.current?.map Scope.name)).map fun j =>
        (j.map (Judgement.finding context.file)).toList := by
  have hconditional := conditional_analyze_eq render n context
  have hattribute := attribute_findings_eq
  rw [Node.judge]
  cases n.kind.role with
  | conditional | matchCase =>
    simp only [Role.findings, hconditional]
    cases Rule.Conditional.ofNode render n none 0 with
    | error fault => rfl
    | ok c => cases nameAround (context.current?.map Scope.name) <;> rfl
  | call =>
    simp only [Role.findings, Rule.Call.analyze]
    cases Rule.Call.ofNode n <;> rfl
  | «attribute» =>
    simp only [Role.findings, Rule.Attribute.analyze]
    cases Rule.Attribute.ofNode n with
    | error fault => rfl
    | ok a => simp only [Except.map, hattribute]
  | functionDef | classDef | unknown => rfl

/-! ## Which nodes are judged -/

def Syntax.Node.attributeName? (n : Node) : Option String :=
  (n.get? .attr).bind Value.text?

/-- Whether the name of an attribute is one that is remarked on. -/
def isRemarkable (name : String) : Bool :=
  name == "value" ||
    Text.holdsAny (Text.lower name) ["total", "count", "sum", "avg", "max", "min"]

/-- Whether a node is judged: every conditional, match and call, and accesses to some attributes. -/
def Syntax.Node.isJudged (n : Node) : Bool :=
  match n.kind with
  | .ifStmt | .matchStmt | .call => true
  | .attribute => n.attributeName?.any isRemarkable
  | _ => false

theorem isSome_attribute_judgement (a : Rule.Attribute) :
    a.judgement?.isSome = isRemarkable a.name := by
  rw [Rule.Attribute.judgement?, Option.isSome_map, isRemarkable, Rule.Attribute.kind_eq,
    Rule.Attribute.isEnumUnwrapping, Rule.Attribute.suggestsComputedField]
  cases a.name == "value" with
  | true => rfl
  | false => cases Text.holdsAny (Text.lower a.name) _ <;> rfl

theorem attributeName?_of_ofNode {n : Node} {a : Rule.Attribute} (hk : n.kind = .attribute)
    (h : Rule.Attribute.ofNode n = .ok a) : n.attributeName? = some a.name := by
  obtain ⟨kind, line, fields⟩ := n
  simp only [Node.kind] at hk
  subst hk
  rw [Node.attributeName?]
  simp only [Rule.Attribute.ofNode, Node.summary, Node.name, Syntax.required,
    Rule.Attribute.nameOf, Node.get?, Node.fields] at h ⊢
  cases hf : fields.lookup Field.attr with
  | none => rw [hf] at h; simp [Except.map] at h
  | some value =>
    rw [hf] at h
    simp only [Except.map] at h
    cases ht : value.text? with
    | none => rw [ht] at h; simp at h
    | some name =>
      rw [ht] at h
      simp only [Except.ok.injEq] at h
      rw [← h]
      exact ht

theorem kind_of_role_attribute {kind : Kind} (h : kind.role = .attribute) : kind = .attribute := by
  cases kind with
  | «attribute» => rfl
  | _ => simp [Syntax.Kind.role] at h

theorem Syntax.Node.isJudged_eq_role (n : Node) :
    n.isJudged = match n.kind.role with
      | .conditional | .matchCase | .call => true
      | .attribute => n.attributeName?.any isRemarkable
      | .functionDef | .classDef | .unknown => false := by
  rw [Node.isJudged]
  cases n.kind <;> rfl

/-- **Which nodes are judged**, when the rules can be applied to them. -/
theorem Syntax.Node.isSome_judge {render : Value → Except Fault String} {around : Option Value}
    {n : Node} {j : Option Judgement} (h : n.judge render around = .ok j) :
    j.isSome = n.isJudged := by
  rw [Node.judge] at h
  rw [n.isJudged_eq_role]
  cases hr : n.kind.role with
  | conditional | matchCase =>
    simp only [hr] at h
    cases hc : Rule.Conditional.ofNode render n none 0 with
    | error fault => rw [hc] at h; simp at h
    | ok c =>
      rw [hc] at h
      obtain ⟨name, _, rfl⟩ := map_eq_ok.mp h
      rfl
  | call =>
    simp only [hr] at h
    obtain ⟨c, _, rfl⟩ := map_eq_ok.mp h
    rfl
  | «attribute» =>
    simp only [hr] at h
    obtain ⟨a, ha, rfl⟩ := map_eq_ok.mp h
    rw [attributeName?_of_ofNode (kind_of_role_attribute hr) ha, isSome_attribute_judgement]
    rfl
  | functionDef | classDef | unknown =>
    simp only [hr, Except.ok.injEq] at h
    rw [← h]
    rfl

end ArchLint
