import ArchLint.Proofs.Decoding
import ArchLint.Proofs.Grouping
import ArchLint.Proofs.Traversal

/-!
# What a report counts

A rule marks a node, the mark is written into a finding next to text of the program, and the report
reads the finding again.  Here the two ends are compared: what the nodes of a tree are, and under
which mark the report counts their findings.

* `readAs`: the mark that a remark is read as, out of its own mark and its text.
* `readAs_eq_countable`: **a remark is counted as it was marked if no misleading word stands in its
  text**; which words mislead depends on the mark.
* `Node.countedAs`: where a node is to be counted, told from its class and its names.
* `report_counts_constructs`: the groups of a report, and when they are those of the syntax.
-/

namespace ArchLint

open ArchLint.Syntax (Kind Node Field Value Position Fault)

/-! ## Reading in order -/

theorem firstSaid_append {α : Type} (xs ys : List (α × List String)) (own : α → Bool)
    (text : String) :
    firstSaid (xs ++ ys) own text = (firstSaid xs own text).or (firstSaid ys own text) := by
  rw [firstSaid, firstSaid, firstSaid, List.find?_append, Option.map_or]

theorem firstSaid_map {α β : Type} (f : α → β) (rules : List (α × List String)) (own : β → Bool)
    (text : String) :
    firstSaid (rules.map fun rule => (f rule.1, rule.2)) own text =
      (firstSaid rules (fun a => own (f a)) text).map f := by
  rw [firstSaid, firstSaid, List.find?_map, Option.map_map, Option.map_map]
  rfl

/-- The rules by which findings are read, violations before patterns. -/
def groupRules : List (Mark × List String) :=
  (Violation.indicators.map fun rule => (.violation rule.1, rule.2)) ++
    Pattern.indicators.map fun rule => (.pattern rule.1, rule.2)

/-- The mark that a remark is read as: the first that is its own or is named in its text. -/
def readAs (own : Option Mark) (text : String) : Option Mark :=
  firstSaid groupRules (fun mark => own == some mark) text

theorem readAs_eq (own : Option Mark) (text : String) :
    readAs own text =
      match firstSaid Violation.indicators (fun v => own == some (.violation v)) text with
      | some v => some (.violation v)
      | none =>
        (firstSaid Pattern.indicators (fun p => own == some (.pattern p)) text).map .pattern := by
  rw [readAs, groupRules, firstSaid_append, firstSaid_map, firstSaid_map]
  cases firstSaid Violation.indicators (fun v => own == some (.violation v)) text <;> rfl

theorem Finding.group?_ofMark {mark : Mark} (hm : mark ∈ givenMarks) (file : String) (line : Int)
    (text : String) : (Finding.ofMark mark file line text).group? = readAs (some mark) text := by
  rw [Finding.group?, Finding.violation?_ofMark hm, Finding.pattern?_ofMark hm, readAs_eq]
  rfl

theorem Finding.group?_literal (file : String) (line : Int) (text : String) (times : Nat) :
    (literalFinding file line text times).group? = readAs none text := by
  rw [Finding.group?, Finding.violation?_literal, Finding.pattern?_literal, readAs_eq]
  rfl

/-! ## Misleading words -/

def Mark.isCounted (mark : Mark) : Bool :=
  groupRules.any fun rule => rule.1 == mark

/-- The words that are looked for before those of a mark. -/
def misleadingWords (own : Option Mark) : List String :=
  (groupRules.takeWhile fun rule => own != some rule.1).flatMap (·.2)

theorem firstSaid_cons {α : Type} (rule : α × List String) (rest : List (α × List String))
    (own : α → Bool) (text : String) :
    firstSaid (rule :: rest) own text =
      if own rule.1 || Text.holdsAny (Text.lower text) rule.2 then some rule.1
      else firstSaid rest own text := by
  rw [firstSaid, List.find?_cons]
  cases own rule.1 || Text.holdsAny (Text.lower text) rule.2 <;> rfl

theorem holdsAny_append (text : String) (xs ys : List String) :
    Text.holdsAny text (xs ++ ys) = (Text.holdsAny text xs || Text.holdsAny text ys) := by
  rw [Text.holdsAny, List.any_append]
  rfl

/-- The first rule is the own one if no word of a rule before it is said. -/
theorem firstSaid_eq_own (rules : List (Mark × List String)) (own : Option Mark) (text : String) :
    firstSaid rules (fun mark => own == some mark) text =
        own.filter (fun mark => rules.any fun rule => rule.1 == mark) ↔
      Text.holdsAny (Text.lower text)
        ((rules.takeWhile fun rule => own != some rule.1).flatMap (·.2)) = false := by
  induction rules with
  | nil => cases own <;> simp [firstSaid, Text.holdsAny]
  | cons rule rest ih =>
    rw [firstSaid_cons, List.takeWhile_cons]
    by_cases hown : own = some rule.1
    · subst hown
      simp [Text.holdsAny, Option.filter]
    · have hfilter : own.filter (fun mark => (rule :: rest).any fun r => r.1 == mark) =
          own.filter fun mark => rest.any fun r => r.1 == mark := by
        cases own with
        | none => rfl
        | some mark =>
          have hne : (rule.1 == mark) = false :=
            beq_false_of_ne fun h => hown (congrArg some h.symm)
          simp only [Option.filter, List.any_cons, hne, Bool.false_or]
      have hbeq : (own == some rule.1) = false := by simpa using hown
      rw [hfilter, hbeq, Bool.false_or, bne, hbeq, Bool.not_false, if_pos rfl, List.flatMap_cons,
        holdsAny_append]
      cases hsaid : Text.holdsAny (Text.lower text) rule.2 with
      | false => simpa using ih
      | true =>
        -- the rule is said though it is not the own one
        rw [if_pos rfl, Bool.true_or]
        refine iff_of_false ?_ (by decide)
        intro heq
        exact hown (Option.eq_some_of_filter_eq_some heq.symm)

/-- **A remark is counted as it was marked if no misleading word stands in its text**, and not at all
if the mark has no group. -/
theorem readAs_eq_countable (own : Option Mark) (text : String) :
    readAs own text = own.filter Mark.isCounted ↔
      Text.holdsAny (Text.lower text) (misleadingWords own) = false :=
  firstSaid_eq_own groupRules own text

theorem mem_of_firstSaid_eq_some {α : Type} {rules : List (α × List String)} {own : α → Bool}
    {text : String} {a : α} (h : firstSaid rules own text = some a) :
    ∃ rule ∈ rules, rule.1 = a := by
  obtain ⟨rule, hfind, ha⟩ := Option.map_eq_some_iff.mp h
  exact ⟨rule, List.mem_of_find?_eq_some hfind, ha⟩

theorem groupRules_given : ∀ rule ∈ groupRules, rule.1 ∈ givenMarks := by
  decide

/-- A remark that is not counted as it was marked is counted under another mark. -/
theorem exists_other_of_readAs_ne {own : Option Mark} {text : String}
    (h : readAs own text ≠ own.filter Mark.isCounted) :
    ∃ mark, readAs own text = some mark ∧ own ≠ some mark ∧ mark ∈ givenMarks := by
  cases hread : readAs own text with
  | none =>
    -- nothing was said, so the own mark has no group
    refine absurd ?_ h
    rw [hread, eq_comm, Option.filter_eq_none_iff]
    intro mark hown hcounted
    obtain ⟨rule, hrule, hmark⟩ := List.any_eq_true.mp hcounted
    have hsilent := List.find?_eq_none.mp (Option.map_eq_none_iff.mp hread) rule hrule
    rw [eq_of_beq hmark, hown] at hsilent
    simp at hsilent
  | some mark =>
    obtain ⟨rule, hrule, rfl⟩ := mem_of_firstSaid_eq_some hread
    refine ⟨rule.1, rfl, ?_, groupRules_given rule hrule⟩
    intro hown
    refine h ?_
    rw [hread, hown, eq_comm, Option.filter_eq_some_iff]
    exact ⟨rfl, List.any_eq_true.mpr ⟨rule, hrule, beq_self_eq_true _⟩⟩

/-! ## The heads of findings -/

/-- What a finding says before the first colon. -/
def Finding.head (f : Finding) : List Char :=
  f.description.toList.takeWhile (· != ':')

theorem takeWhile_before {xs ys : List Char} (h : ':' ∉ xs) :
    (xs ++ ':' :: ys).takeWhile (· != ':') = xs := by
  rw [List.takeWhile_append_of_pos]
  · exact List.append_nil xs
  · intro c hc
    rw [bne_iff_ne]
    rintro rfl
    exact h hc

theorem label_spelling : ∀ mark ∈ givenMarks, ':' ∉ mark.label.toList ∧
    mark.label.toList ≠ "string_literal_repetition".toList := by
  decide

theorem label_injective : ∀ mark ∈ givenMarks, ∀ other ∈ givenMarks,
    mark.label.toList = other.label.toList → mark = other := by
  decide

theorem Finding.head_ofMark {mark : Mark} (hm : mark ∈ givenMarks) (file : String) (line : Int)
    (text : String) : (Finding.ofMark mark file line text).head = mark.label.toList := by
  have hcolon : ": ".toList = [':', ' '] := rfl
  rw [Finding.head, Finding.ofMark, String.toList_append, String.toList_append, hcolon,
    List.append_assoc, List.cons_append]
  exact takeWhile_before (label_spelling mark hm).1

theorem Finding.head_literal (file : String) (line : Int) (text : String) (times : Nat) :
    (literalFinding file line text times).head = "string_literal_repetition".toList := by
  have hhead : literalHead = "string_literal_repetition".toList ++ [':'] := by decide
  rw [Finding.head, literalFinding, toList_literal, hhead, List.append_assoc]
  exact takeWhile_before (by decide)

/-! ## Where the nodes of a tree are to be counted -/

/-- The name of the function that a call calls: an identifier, or the last one of a chain. -/
def Syntax.Node.calledName? (n : Node) : Option Value :=
  match n.get? .func with
  | some (.node f) =>
    match f.kind with
    | .name => f.get? .id
    | .attribute => f.get? .attr
    | _ => none
  | _ => none

def Syntax.Node.isCallOf (n : Node) (names : List String) : Bool :=
  names.any fun name => n.calledName? == some (.text name)

/-- The mark under which a call is to be counted. -/
def Syntax.Node.callMark (n : Node) : Mark :=
  if n.isCallOf ["isinstance", "type", "hasattr", "getattr", "cast", "Any"] then
    .violation .isinstanceUsage
  else if n.isCallOf ["dumps", "loads", "dump", "load"] then .violation .manualJsonSerialization
  else if n.isCallOf ["model_dump", "model_validate", "model_copy", "Field"] then
    .pattern .pydanticSerialization
  else .pattern .computedFields

/-- The mark under which an access is to be counted, if it is one that is remarked on. -/
def Syntax.Node.attributeMark? (n : Node) : Option Mark :=
  if n.attributeName? = some "value" then some (.violation .enumValueAccess)
  else if n.attributeName?.any isRemarkable then some (.pattern .computedFields)
  else none

def Syntax.Node.conditionalKind? (render : Value → Except Fault String) (around : Option Value)
    (n : Node) : Option Rule.ConditionalKind :=
  match Rule.Conditional.ofNode render n none 0, nameAround around with
  | .ok c, .ok name => some { c with parentScope := name }.kind
  | _, _ => none

/-- The mark under which a conditional is to be counted, if it decides on more than a boundary. -/
def Syntax.Node.conditionalMark? (render : Value → Except Fault String) (around : Option Value)
    (n : Node) : Option Mark :=
  match n.conditionalKind? render around with
  | some .lazyInitialization | some .businessLogic => some (.violation .businessConditionals)
  | _ => none

/-- The mark under which a report is to count a node, told from its class and its names. -/
def Syntax.Node.countedAs (render : Value → Except Fault String) (around : Option Value)
    (n : Node) : Option Mark :=
  match n.kind with
  | .call => some n.callMark
  | .attribute => n.attributeMark?
  | .ifStmt | .matchStmt => n.conditionalMark? render around
  | _ => none

/-- The text that is shown of a node: a test, the name of a function or that of an attribute. -/
def Syntax.Node.shownText (render : Value → Except Fault String) (n : Node) : String :=
  match n.kind with
  | .call => (Rule.Call.functionName (n.get? .func)).shown
  | .attribute => n.attributeName?.getD ""
  | _ => (Rule.Conditional.testText render n).toOption.getD ""

/-- The findings of the nodes that a report is to count under a mark, one for each. -/
def Syntax.Node.counted (render : Value → Except Fault String) (file : String) (tree : Node)
    (mark : Mark) : List Finding :=
  (tree.walk.filter fun (p, n) => n.countedAs render (tree.scopeAround p) = some mark).map
    fun (_, n) => .ofMark mark file n.lineNumber (n.shownText render)

/-! ## Rules and nodes -/

theorem text_ne {s t : String} (h : s ≠ t) : Value.text s ≠ Value.text t := by
  intro heq
  rw [Value.text, Value.text, Value.constant.injEq, Syntax.Constant.text.injEq,
    Text.Letters.ofString_inj] at heq
  exact h heq

theorem functionName_eq_text {n : Node} {name : String} (hunknown : name ≠ "unknown")
    (hfunction : name ≠ "unknown_function") :
    Rule.Call.functionName (n.get? .func) = .text name ↔ n.calledName? = some (.text name) := by
  have hdefault : ∀ v : Option Value, v.getD (.text "unknown") = .text name ↔
      v = some (.text name) := by
    intro v
    cases v with
    | none => simp [text_ne hunknown.symm]
    | some value => simp
  have hnone : Value.text "unknown_function" ≠ .text name := text_ne hfunction.symm
  rw [Node.calledName?]
  cases n.get? .func with
  | none => simpa [Rule.Call.functionName] using hnone
  | some value =>
    cases value with
    | node f =>
      simp only [Rule.Call.functionName]
      cases f.kind with
      | name => exact hdefault _
      | «attribute» => exact hdefault _
      | _ => simpa using hnone
    | list items => simpa [Rule.Call.functionName] using hnone
    | constant c => simpa [Rule.Call.functionName] using hnone

theorem calls_eq_isCallOf {n : Node} {c : Rule.Call}
    (hc : c.function = Rule.Call.functionName (n.get? .func)) {names : List String}
    (hunknown : "unknown" ∉ names) (hfunction : "unknown_function" ∉ names) :
    c.calls names = n.isCallOf names := by
  rw [Bool.eq_iff_iff, Rule.Call.calls, Node.isCallOf, List.any_eq_true, List.any_eq_true]
  refine exists_congr fun name => and_congr_right fun hname => ?_
  rw [beq_iff_eq, beq_iff_eq, hc]
  refine functionName_eq_text ?_ ?_
  · rintro rfl
    exact hunknown hname
  · rintro rfl
    exact hfunction hname

theorem call_ofNode_eq_ok {n : Node} {c : Rule.Call} (h : Rule.Call.ofNode n = .ok c) :
    c = ⟨Rule.Call.functionName (n.get? .func), n.lineNumber⟩ := by
  rw [Rule.Call.ofNode] at h
  cases hname : Rule.Call.functionName (n.get? .func) with
  | list items => rw [hname] at h; simp at h
  | node f => rw [hname] at h; exact (Except.ok.inj h).symm
  | constant c => rw [hname] at h; exact (Except.ok.inj h).symm

theorem callMark_eq {n : Node} {c : Rule.Call} (h : Rule.Call.ofNode n = .ok c) :
    n.callMark = c.kind.mark := by
  have hc : c.function = Rule.Call.functionName (n.get? .func) := by rw [call_ofNode_eq_ok h]
  rw [Node.callMark, Rule.Call.kind_eq, calls_eq_isCallOf hc (by decide) (by decide),
    calls_eq_isCallOf hc (by decide) (by decide), calls_eq_isCallOf hc (by decide) (by decide),
    Rule.Call.typeCheckFunctions, Rule.Call.jsonFunctions, Rule.Call.modelFunctions]
  split
  · rfl
  · split
    · rfl
    · split <;> rfl

theorem attributeMark?_eq {n : Node} {a : Rule.Attribute} (h : n.attributeName? = some a.name) :
    n.attributeMark? = a.kind.mark? := by
  have hvalue : some a.name = some "value" ↔ a.isEnumUnwrapping = true := by
    rw [Option.some.injEq, Rule.Attribute.isEnumUnwrapping, beq_iff_eq]
  have hremarkable : (some a.name).any isRemarkable =
      (a.isEnumUnwrapping || a.suggestsComputedField) := rfl
  simp only [Node.attributeMark?, h, Rule.Attribute.kind_eq, hvalue, hremarkable]
  cases a.isEnumUnwrapping with
  | true => rfl
  | false => cases a.suggestsComputedField <;> rfl

theorem attribute_line {n : Node} {a : Rule.Attribute} (h : Rule.Attribute.ofNode n = .ok a) :
    a.line = n.lineNumber := by
  rw [Rule.Attribute.ofNode, Node.summary] at h
  cases hname : n.name with
  | error fault => rw [hname] at h; simp [Except.map] at h
  | ok name =>
    rw [hname] at h
    obtain ⟨_, _, rfl⟩ := map_eq_ok.mp h
    rfl

theorem Rule.Conditional.ofNode_eq_ok {render : Value → Except Fault String} {n : Node}
    {parent : Option String} {depth : Int} {c : Rule.Conditional}
    (h : ofNode render n parent depth = .ok c) :
    testText render n = .ok c.test ∧ n.summary = .ok c.summary ∧ c.parentScope = parent := by
  rw [ofNode] at h
  cases htest : testText render n with
  | error fault => rw [htest] at h; simp at h
  | ok test =>
    cases hsummary : n.summary with
    | error fault => rw [htest, hsummary] at h; simp at h
    | ok summary =>
      rw [htest, hsummary] at h
      rw [← Except.ok.inj h]
      exact ⟨rfl, rfl, rfl⟩

theorem conditional_ofNode_eq_ok {render : Value → Except Fault String} {n : Node}
    {c : Rule.Conditional} (h : Rule.Conditional.ofNode render n none 0 = .ok c) :
    Rule.Conditional.testText render n = .ok c.test ∧ c.summary.line = n.lineNumber := by
  obtain ⟨htest, hsummary, _⟩ := Rule.Conditional.ofNode_eq_ok h
  rw [Node.summary] at hsummary
  obtain ⟨name, _, hname⟩ := map_eq_ok.mp hsummary
  refine ⟨htest, ?_⟩
  rw [← hname]

theorem conditionalMark?_eq {render : Value → Except Fault String} {around : Option Value}
    {n : Node} {c : Rule.Conditional} {name : Option String}
    (hc : Rule.Conditional.ofNode render n none 0 = .ok c) (hname : nameAround around = .ok name) :
    n.conditionalMark? render around = (some (c.judgement name).mark).filter Mark.isCounted := by
  have hkind : n.conditionalKind? render around = some { c with parentScope := name }.kind := by
    rw [Node.conditionalKind?, hc, hname]
  rw [Node.conditionalMark?, hkind, Rule.Conditional.judgement]
  cases { c with parentScope := name }.kind <;> rfl

theorem Syntax.Node.countedAs_eq_role (render : Value → Except Fault String)
    (around : Option Value) (n : Node) :
    n.countedAs render around = match n.kind.role with
      | .call => some n.callMark
      | .attribute => n.attributeMark?
      | .conditional | .matchCase => n.conditionalMark? render around
      | .functionDef | .classDef | .unknown => none := by
  rw [Node.countedAs]
  cases n.kind <;> rfl

theorem Syntax.Node.shownText_eq_role (render : Value → Except Fault String) (n : Node) :
    n.shownText render = match n.kind.role with
      | .call => (Rule.Call.functionName (n.get? .func)).shown
      | .attribute => n.attributeName?.getD ""
      | _ => (Rule.Conditional.testText render n).toOption.getD "" := by
  rw [Node.shownText]
  cases n.kind <;> rfl

theorem Rule.ConditionalKind.mark_given (kind : Rule.ConditionalKind) :
    kind.mark ∈ givenMarks := by
  cases kind <;> decide

theorem Rule.CallKind.mark_given (kind : Rule.CallKind) : kind.mark ∈ givenMarks := by
  cases kind <;> decide

theorem Rule.AttributeKind.mark?_given {kind : Rule.AttributeKind} {mark : Mark}
    (h : kind.mark? = some mark) : mark ∈ givenMarks := by
  have hall : ∀ given ∈ kind.mark?, given ∈ givenMarks := by cases kind <;> decide
  exact hall mark h

theorem Syntax.Node.judge_eq_some {render : Value → Except Fault String} {around : Option Value}
    {n : Node} {j : Judgement} (h : n.judge render around = .ok (some j)) :
    j.mark ∈ givenMarks ∧ j.line = n.lineNumber ∧ j.text = n.shownText render := by
  rw [Node.judge] at h
  rw [n.shownText_eq_role]
  cases hr : n.kind.role with
  | conditional | matchCase =>
    simp only [hr] at h ⊢
    cases hc : Rule.Conditional.ofNode render n none 0 with
    | error fault => rw [hc] at h; simp at h
    | ok c =>
      rw [hc] at h
      obtain ⟨name, _, hj⟩ := map_eq_ok.mp h
      obtain ⟨htest, hline⟩ := conditional_ofNode_eq_ok hc
      rw [← Option.some.inj hj, htest]
      exact ⟨Rule.ConditionalKind.mark_given _, hline, rfl⟩
  | call =>
    simp only [hr] at h ⊢
    obtain ⟨c, hc, hj⟩ := map_eq_ok.mp h
    rw [← Option.some.inj hj, call_ofNode_eq_ok hc]
    exact ⟨Rule.CallKind.mark_given _, rfl, rfl⟩
  | «attribute» =>
    simp only [hr] at h ⊢
    obtain ⟨a, ha, hj⟩ := map_eq_ok.mp h
    obtain ⟨mark, hmark, rfl⟩ := Option.map_eq_some_iff.mp hj
    rw [attributeName?_of_ofNode (kind_of_role_attribute hr) ha]
    exact ⟨Rule.AttributeKind.mark?_given hmark, attribute_line ha, rfl⟩
  | functionDef | classDef | unknown =>
    simp only [hr] at h
    exact absurd (Except.ok.inj h) (by simp)

/-- **A node is to be counted under the mark that its rule gives it**, if there is a group. -/
theorem Syntax.Node.countedAs_of_judge {render : Value → Except Fault String}
    {around : Option Value} {n : Node} {j : Option Judgement} (h : n.judge render around = .ok j) :
    n.countedAs render around = (j.map (·.mark)).filter Mark.isCounted := by
  rw [Node.judge] at h
  rw [n.countedAs_eq_role]
  cases hr : n.kind.role with
  | conditional | matchCase =>
    simp only [hr] at h ⊢
    cases hc : Rule.Conditional.ofNode render n none 0 with
    | error fault => rw [hc] at h; simp at h
    | ok c =>
      rw [hc] at h
      obtain ⟨name, hname, rfl⟩ := map_eq_ok.mp h
      exact conditionalMark?_eq hc hname
  | call =>
    simp only [hr] at h ⊢
    obtain ⟨c, hc, rfl⟩ := map_eq_ok.mp h
    rw [callMark_eq hc, Rule.Call.judgement]
    cases c.kind <;> rfl
  | «attribute» =>
    simp only [hr] at h ⊢
    obtain ⟨a, ha, rfl⟩ := map_eq_ok.mp h
    rw [attributeMark?_eq (attributeName?_of_ofNode (kind_of_role_attribute hr) ha),
      Rule.Attribute.judgement?, Option.map_map]
    cases a.kind <;> rfl
  | functionDef | classDef | unknown =>
    simp only [hr] at h ⊢
    rw [← Except.ok.inj h]
    rfl

/-! ## Remarks -/

/-- A remark on a tree: what it was marked as, if it was, its text, and its finding. -/
structure Remark where
  own : Option Mark
  text : String
  finding : Finding

def Remark.isMisled (r : Remark) : Bool :=
  Text.holdsAny (Text.lower r.text) (misleadingWords r.own)

def Judgement.remark (file : String) (j : Judgement) : Remark :=
  ⟨some j.mark, j.text, j.finding file⟩

/-- The remark on the node at a position of a tree, if there is one. -/
def Syntax.Node.remarkAt? (render : Value → Except Fault String) (file : String) (tree : Node)
    (spot : Position × Node) : Option Remark :=
  match tree.judgeAt render spot with
  | .ok j => j.map (Judgement.remark file)
  | .error _ => none

def literalRemark? (file : String) : Text.Letters × List Int → Option Remark
  | (text, lines) =>
    if 2 ≤ lines.length then
      some ⟨none, text.toString, literalFinding file (lines.headD 0) text.toString lines.length⟩
    else none

/-- The remarks on a tree: those on its nodes, then those on its repeated literals. -/
def Syntax.Node.remarks (render : Value → Except Fault String) (file : String) (tree : Node) :
    List Remark :=
  tree.walk.filterMap (tree.remarkAt? render file) ++
    (Rule.Literals.ofTree tree).filterMap (literalRemark? file)

theorem findingsAt_eq (render : Value → Except Fault String) (file : String) (tree : Node)
    (spot : Position × Node) :
    tree.findingsAt render file spot =
      ((tree.remarkAt? render file spot).map Remark.finding).toList := by
  rw [Node.findingsAt, Node.ownFindings, ← Node.judgeAt, Node.remarkAt?]
  cases tree.judgeAt render spot with
  | error fault => rfl
  | ok j => cases j <;> rfl

theorem literals_analyze_eq (tree : Node) (file : String) :
    Rule.Literals.analyze tree file =
      ((Rule.Literals.ofTree tree).filterMap (literalRemark? file)).map Remark.finding := by
  rw [Rule.Literals.analyze, Rule.Literals.findings, List.map_filterMap]
  refine List.filterMap_congr ?_
  rintro ⟨text, lines⟩ _
  show Rule.Literals.finding? file text lines = _
  rw [Rule.Literals.finding?_eq, literalRemark?]
  split <;> rfl

theorem analyzeWith_eq_remarks {render : Value → Except Fault String} {tree : Node}
    {context : Context} {found : List Finding} (h : analyzeWith render tree context = .ok found) :
    found = (tree.remarks render context.file).map Remark.finding := by
  obtain ⟨_, rfl⟩ := analyzeWith_eq_ok.mp h
  have hnodes : tree.walk.flatMap (tree.findingsAt render context.file) =
      (tree.walk.filterMap (tree.remarkAt? render context.file)).map Remark.finding := by
    rw [List.map_filterMap, List.filterMap_eq_flatMap_toList]
    exact List.flatMap_congr fun spot _ => findingsAt_eq render context.file tree spot
  rw [Node.remarks, List.map_append, literals_analyze_eq, hnodes]

theorem Syntax.Node.mem_remarks {render : Value → Except Fault String} {tree : Node}
    {file : String} {r : Remark} (h : r ∈ tree.remarks render file) :
    r.finding.group? = readAs r.own r.text ∧
      ∀ mark ∈ givenMarks, ∀ line text, r.finding = .ofMark mark file line text →
        r.own = some mark := by
  rcases List.mem_append.mp h with h | h
  · obtain ⟨spot, _, hspot⟩ := List.mem_filterMap.mp h
    rw [Node.remarkAt?] at hspot
    cases hj : tree.judgeAt render spot with
    | error fault => rw [hj] at hspot; simp at hspot
    | ok j =>
      rw [hj] at hspot
      obtain ⟨k, rfl, rfl⟩ := Option.map_eq_some_iff.mp hspot
      have hgiven := (Node.judge_eq_some hj).1
      refine ⟨Finding.group?_ofMark hgiven _ _ _, ?_⟩
      intro mark hmark line text heq
      have hhead := congrArg Finding.head heq
      rw [Judgement.remark, Judgement.finding, Finding.head_ofMark hgiven,
        Finding.head_ofMark hmark] at hhead
      exact congrArg some (label_injective _ hgiven _ hmark hhead)
  · obtain ⟨⟨text, lines⟩, _, hliteral⟩ := List.mem_filterMap.mp h
    rw [literalRemark?] at hliteral
    split at hliteral
    · rw [← Option.some.inj hliteral]
      refine ⟨Finding.group?_literal _ _ _ _, ?_⟩
      intro mark hmark line other heq
      have hhead := congrArg Finding.head heq
      rw [Finding.head_literal, Finding.head_ofMark hmark] at hhead
      exact absurd hhead.symm (label_spelling mark hmark).2
    · exact absurd hliteral (by simp)

theorem filter_literals (file : String) (literals : Rule.Literals) (mark : Mark) :
    (literals.filterMap (literalRemark? file)).filter
      (fun r => r.own.filter Mark.isCounted = some mark) = [] := by
  rw [List.filter_eq_nil_iff]
  intro r hr
  obtain ⟨⟨text, lines⟩, _, hliteral⟩ := List.mem_filterMap.mp hr
  rw [literalRemark?] at hliteral
  split at hliteral
  · rw [← Option.some.inj hliteral]
    simp
  · exact absurd hliteral (by simp)

theorem Syntax.Node.counted_eq {render : Value → Except Fault String} {tree : Node}
    (hall : ∀ spot ∈ tree.walk, ∃ j, tree.judgeAt render spot = .ok j) (file : String)
    (mark : Mark) :
    tree.counted render file mark =
      ((tree.remarks render file).filter fun r => r.own.filter Mark.isCounted = some mark).map
        Remark.finding := by
  rw [Node.counted, Node.remarks, List.filter_append, filter_literals, List.append_nil,
    ← List.filterMap_eq_map, List.filterMap_filter, List.filter_filterMap, List.map_filterMap]
  refine List.filterMap_congr ?_
  rintro ⟨p, n⟩ hmem
  obtain ⟨j, hj⟩ := hall (p, n) hmem
  have hcounted : n.countedAs render (tree.scopeAround p) = _ := Node.countedAs_of_judge hj
  rw [Node.remarkAt?, hj]
  simp only [hcounted]
  cases j with
  | none => rfl
  | some k =>
    obtain ⟨_, hline, htext⟩ := Node.judge_eq_some hj
    have hremark : (k.remark file).own = some k.mark := rfl
    rw [Option.map_some, Option.map_some]
    by_cases hmark : (some k.mark).filter Mark.isCounted = some mark
    · have hown := Option.some.inj (Option.eq_some_of_filter_eq_some hmark)
      have hfinding : Finding.ofMark mark file n.lineNumber (n.shownText render) =
          (k.remark file).finding := by
        rw [Judgement.remark, Judgement.finding, hown, hline, htext]
      rw [if_pos (decide_eq_true hmark), Option.filter_some, hremark,
        if_pos (decide_eq_true hmark)]
      exact congrArg some hfinding
    · have hfalse := ne_true_of_eq_false (decide_eq_false hmark)
      rw [if_neg hfalse, Option.filter_some, hremark, if_neg hfalse]
      rfl

/-- **What a report counts.**  The group of a mark is the remarks that are read as it, in order.  The
groups are those of the syntax, with one finding for each node that is to be counted there and
nothing else, exactly if no remark is misled by its text. -/
theorem report_counts_constructs (render : Value → Except Fault String) (tree : Node)
    (context : Context) (found : List Finding)
    (h : analyzeWith render tree context = .ok found) :
    (∀ mark, (Report.byVerdict found).group mark =
      ((tree.remarks render context.file).filter fun r => readAs r.own r.text = some mark).map
        Remark.finding) ∧
    ((∀ mark, (Report.byVerdict found).group mark = tree.counted render context.file mark) ↔
      ∀ r ∈ tree.remarks render context.file, r.isMisled = false) := by
  obtain ⟨hall, _⟩ := analyzeWith_eq_ok.mp h
  have hgroups : ∀ mark, (Report.byVerdict found).group mark =
      ((tree.remarks render context.file).filter fun r => readAs r.own r.text = some mark).map
        Remark.finding := by
    intro mark
    rw [Report.group_byVerdict, analyzeWith_eq_remarks h, List.filter_map]
    refine congrArg _ (List.filter_congr ?_)
    intro r hr
    simp only [Function.comp, (Node.mem_remarks hr).1]
  refine ⟨hgroups, ?_, ?_⟩
  · intro hcounted r hr
    by_contra hmisled
    rw [Bool.not_eq_false] at hmisled
    have hne : readAs r.own r.text ≠ r.own.filter Mark.isCounted := by
      rw [Ne, readAs_eq_countable]
      exact ne_of_eq_of_ne hmisled (by decide)
    -- the finding stands in the group of another mark, so it would begin with the other label
    obtain ⟨mark, hread, hown, hgiven⟩ := exists_other_of_readAs_ne hne
    have hmem : r.finding ∈ tree.counted render context.file mark := by
      rw [← hcounted, hgroups]
      exact List.mem_map_of_mem (List.mem_filter.mpr ⟨hr, decide_eq_true hread⟩)
    obtain ⟨⟨p, n⟩, _, heq⟩ := List.mem_map.mp hmem
    exact hown ((Node.mem_remarks hr).2 mark hgiven _ _ heq.symm)
  · intro hplain mark
    rw [hgroups, Node.counted_eq hall]
    refine congrArg _ (List.filter_congr ?_)
    intro r hr
    rw [(readAs_eq_countable r.own r.text).mpr (hplain r hr)]

def callStatement (name : String) : Node :=
  .mk .exprStmt (some 1) [(.value, .node (.mk .call (some 1)
    [(.func, .node (.mk .name (some 1) [(.id, .text name)])), (.args, .list [])]))]

/-- A call that asks for a type is counted as such, and nothing else is. -/
theorem report_counts_constructs_type :
    ∃ found, analyze (callStatement "type") (.ofFile "m.py" .mixed) = .ok found ∧
      found = [⟨"m.py", 1, "isinstance_usage: type"⟩] ∧
      ∀ mark, (Report.byVerdict found).group mark =
        (callStatement "type").counted Value.print "m.py" mark := by
  have hfound : analyze (callStatement "type") (.ofFile "m.py" .mixed) =
      .ok [⟨"m.py", 1, "isinstance_usage: type"⟩] := by decide +kernel
  exact ⟨_, hfound, rfl, (report_counts_constructs _ _ _ _ hfound).2.mpr (by decide +kernel)⟩

/-- **The name of a function moves its call into another group.**  A call of `isinstance_usage` is a
computed field by its rule, and is counted as one that asks for a type. -/
theorem report_miscounts_call :
    ∃ tree found, analyze tree (.ofFile "m.py" .mixed) = .ok found ∧
      (Report.byVerdict found).group (.violation .isinstanceUsage) =
        [⟨"m.py", 1, "computed_fields: isinstance_usage"⟩] ∧
      tree.counted Value.print "m.py" (.violation .isinstanceUsage) = [] ∧
      (Report.byVerdict found).group (.pattern .computedFields) = [] ∧
      tree.counted Value.print "m.py" (.pattern .computedFields) =
        [⟨"m.py", 1, "computed_fields: isinstance_usage"⟩] :=
  ⟨callStatement "isinstance_usage", [⟨"m.py", 1, "computed_fields: isinstance_usage"⟩],
    by decide +kernel, by decide +kernel, by decide +kernel, by decide +kernel, by decide +kernel⟩

end ArchLint
