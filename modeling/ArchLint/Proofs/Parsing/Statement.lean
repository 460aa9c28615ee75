import ArchLint.Proofs.Parsing.Pattern
import ArchLint.Source.Statement

/-!
# Parsed programs are well-formed

The rules for statements and blocks, which are tied by counting down like those for expressions.

* `Blocks.Good`: rules that yield well-formed blocks.
* `statementAt_yields`: every statement that is read is well-formed.
* `parse_isWellFormed`: **the tree of a text is well-formed**.
-/

namespace ArchLint.Source

open ArchLint.Syntax
open ArchLint.Source.Parser

variable {g : Rules}

/-! ## Simple statements -/

theorem typedAssignment_yields (hg : g.Good) (line : Nat) {target : Node}
    (htarget : target.Is .expression) (bracketed : Bool) :
    Yields (typedAssignment g line target bracketed) (Node.Is .statement) := by
  rw [typedAssignment]
  refine .after fun _ => .bind (hg .expression) fun hint hhint => .after fun _ =>
    .branch (.optional (yieldOrExpressions_yields hg)) (.pure (by simp))
      fun value hvalue => .pure ?_
  exact .build rfl (.cons (.one htarget) (.cons (.one hhint) (.cons (.optional hvalue)
    (.cons (.number _) .nil)))) rfl

theorem assignment_yields (hg : g.Good) (line : Nat) {first : Node} (hfirst : first.Is .expression) :
    Yields (assignment g line first) (Node.Is .statement) := by
  rw [assignment]
  refine .bind (.repeatWhile (yieldOrExpressions_yields hg) _) fun rest hrest => .after fun _ => ?_
  split
  · rename_i value hlast
    have htargets : ∀ n ∈ first :: rest.dropLast, n.Is .expression :=
      List.forall_mem_cons.mpr ⟨hfirst, fun n hn => hrest n (List.dropLast_subset rest hn)⟩
    have hvalue : value.Is .expression := hrest value (List.mem_of_getLast? hlast)
    exact .pure (.build rfl (.cons (.many htargets) (.cons (.one hvalue) .nil)) rfl)
  · exact .failure

theorem expressionStatement_yields (hg : g.Good) :
    Yields (expressionStatement g) (Node.Is .statement) := by
  rw [expressionStatement]
  refine .after fun line => .after fun bracketed => .bind (yieldOrExpressions_yields hg) fun n hn =>
    .after fun _ => .ite (typedAssignment_yields hg line hn bracketed) (.after fun _ =>
      .ite (assignment_yields hg line hn) ?_)
  refine .bind (acceptOperator_yields .binary (by decide)) fun found hfound => ?_
  cases found with
  | none => exact .pure (.build rfl (.cons (.one hn) .nil) rfl)
  | some kind =>
    refine .after fun _ => .bind (yieldOrExpressions_yields hg) fun value hvalue => .pure ?_
    exact .build rfl (.cons (.one hn) (.cons (.one (operator_is (hfound kind rfl) rfl))
      (.cons (.one hvalue) .nil))) rfl

theorem deleteStatement_yields (hg : g.Good) (line : Nat) :
    Yields (deleteStatement g line) (Node.Is .statement) := by
  have htarget : Yields (deleteTarget g) (Node.Is .expression) := by
    rw [deleteTarget]
    exact .bind (hg .primary) fun n hn => .after fun _ => .pure hn
  rw [deleteStatement]
  exact .bind (.commaList htarget _) fun found hfound =>
    .pure (.build rfl (.cons (.many hfound) .nil) rfl)

theorem returnStatement_yields (hg : g.Good) (line : Nat) :
    Yields (returnStatement g line) (Node.Is .statement) := by
  rw [returnStatement]
  refine .after fun _ => .branch (.optional (starExpressions_yields hg)) (.pure (by simp))
    fun value hvalue => .pure ?_
  exact .build rfl (.cons (.optional hvalue) .nil) rfl

theorem raiseStatement_yields (hg : g.Good) (line : Nat) :
    Yields (raiseStatement g line) (Node.Is .statement) := by
  rw [raiseStatement]
  refine .after fun _ => .ite (.bind (hg .expression) fun exc hexc => .after fun _ =>
    .branch (.optional (hg .expression)) (.pure (by simp)) fun cause hcause => .pure ?_) (.pure ?_)
  · exact .build rfl (.cons (.some hexc) (.cons (.optional hcause) .nil)) rfl
  · exact .build rfl (.cons .none (.cons .none .nil)) rfl

theorem assertStatement_yields (hg : g.Good) (line : Nat) :
    Yields (assertStatement g line) (Node.Is .statement) := by
  rw [assertStatement]
  refine .bind (hg .expression) fun test htest => .after fun _ =>
    .branch (.optional (hg .expression)) (.pure (by simp)) fun msg hmsg => .pure ?_
  exact .build rfl (.cons (.one htest) (.cons (.optional hmsg) .nil)) rfl

theorem nameList_yields : Yields (nameList g) Shape.texts.Holds := by
  rw [nameList]
  exact .after fun first => .after fun rest => .pure (.texts (first :: rest))

/-! ## Imports -/

theorem importAlias_yields (name : Parser String) :
    Yields (importAlias name) (Node.Is .importName) := by
  rw [importAlias]
  refine .after fun line => .after fun given => .after fun _ =>
    .branch .any .any fun asname _ => .pure ?_
  exact .build rfl (.cons (.text given) (.cons (.optionalText asname) .nil)) rfl

theorem importStatement_yields (line : Nat) :
    Yields (importStatement g line) (Node.Is .statement) := by
  rw [importStatement]
  refine .bind (importAlias_yields _) fun first hfirst =>
    .bind (.repeatWhile (importAlias_yields _) _) fun rest hrest => .pure ?_
  exact .build rfl (.cons (.many (List.forall_mem_cons.mpr ⟨hfirst, hrest⟩)) .nil) rfl

theorem importedNames_yields :
    Yields (importedNames g) fun found => ∀ n ∈ found, n.Is .importName := by
  rw [importedNames]
  refine .after fun line => .after fun _ => .ite (.pure ?_) (.after fun _ => .ite ?_ ?_)
  · intro n hn
    rw [List.mem_singleton.mp hn]
    exact .build rfl (.cons (.text "*") (.cons .noText .nil)) rfl
  · exact .bind (.commaList (importAlias_yields _) _) fun found hfound =>
      .after fun _ => .pure hfound
  · exact .bind (importAlias_yields _) fun first hfirst =>
      .bind (.repeatWhile (importAlias_yields _) _) fun rest hrest =>
        .pure (List.forall_mem_cons.mpr ⟨hfirst, hrest⟩)

theorem importFromStatement_yields (line : Nat) :
    Yields (importFromStatement g line) (Node.Is .statement) := by
  rw [importFromStatement]
  refine .after fun level => .after fun _ => .branch .any .any fun name _ => .after fun _ =>
    .after fun _ => .bind importedNames_yields fun names hnames => .pure ?_
  exact .build rfl (.cons (.optionalText name) (.cons (.many hnames)
    (.cons (.optionalNumber _) .nil))) rfl

/-! ## Lines -/

theorem simpleStatement_yields (hg : g.Good) : Yields (simpleStatement g) (Node.Is .statement) := by
  rw [simpleStatement]
  refine .after fun _ => .ite (.after fun t => ?_) (expressionStatement_yields hg)
  split
  · exact returnStatement_yields hg t.line
  · exact importStatement_yields t.line
  · exact importFromStatement_yields t.line
  · exact raiseStatement_yields hg t.line
  · exact .pure (.build rfl .nil rfl)
  · exact deleteStatement_yields hg t.line
  · exact assertStatement_yields hg t.line
  · exact .pure (.build rfl .nil rfl)
  · exact .pure (.build rfl .nil rfl)
  · exact .bind nameList_yields fun names hnames => .pure (.build rfl (.cons hnames .nil) rfl)
  · exact .bind nameList_yields fun names hnames => .pure (.build rfl (.cons hnames .nil) rfl)
  · exact .failure

def AreStatements (ns : List Node) : Prop :=
  ∀ n ∈ ns, n.Is .statement

theorem simpleStatements_yields (hg : g.Good) : Yields (simpleStatements g) AreStatements := by
  rw [simpleStatements]
  refine .bind (simpleStatement_yields hg) fun first hfirst => ?_
  refine .bind (.repeatWhile (P := fun found => ∀ n ∈ found, n.Is .statement) ?_ _)
    fun rest hrest => .after fun _ => .after fun _ => .pure ?_
  · exact .after fun _ => .ite (.pure (by simp)) (.optional (simpleStatement_yields hg))
  · refine List.forall_mem_cons.mpr ⟨hfirst, ?_⟩
    intro n hn
    obtain ⟨found, hfound, hnode⟩ := List.mem_filterMap.mp hn
    exact hrest found hfound n hnode

/-! ## Compound statements -/

/-- Rules that yield well-formed expressions and blocks. -/
structure Blocks.Good (b : Blocks) : Prop where
  rules : b.rules.Good
  block : Yields b.block AreStatements

variable {b : Blocks}

theorem colonBlock_yields (hb : b.Good) : Yields (colonBlock b) (Shape.many .statement).Holds := by
  rw [colonBlock]
  exact .after fun _ => .bind hb.block fun body hbody => .pure (.many hbody)

theorem optionalBlock_yields (hb : b.Good) (word : String) :
    Yields (optionalBlock b word) (Shape.many .statement).Holds := by
  rw [optionalBlock]
  exact .after fun _ => .ite (colonBlock_yields hb) (.pure (.many (by simp)))

theorem conditional_is {test : Node} {body orelse : Value} (htest : test.Is .expression)
    (hbody : (Shape.many .statement).Holds body) (horelse : (Shape.many .statement).Holds orelse)
    (line : Option Int) :
    (Node.mk .ifStmt line [(.test, .node test), (.body, body), (.orelse, orelse)]).Is .statement :=
  .build rfl (.cons (.one htest) (.cons hbody (.cons horelse .nil))) rfl

def IsBranch (branch : Nat × Node × Value) : Prop :=
  branch.2.1.Is .expression ∧ (Shape.many .statement).Holds branch.2.2

theorem ifStatement_yields (hb : b.Good) : Yields (ifStatement b) (Node.Is .statement) := by
  rw [ifStatement]
  have hbranch : Yields (do
      let t ← token
      let test ← namedExpression b.rules
      return (t.line, test, ← colonBlock b)) IsBranch :=
    .after fun t => .bind (namedExpression_yields hb.rules) fun test htest =>
      .bind (colonBlock_yields hb) fun body hbody => .pure ⟨htest, hbody⟩
  refine .bind hbranch fun first hfirst => .bind (.repeatWhile hbranch _) fun rest hrest =>
    .bind (optionalBlock_yields hb _) fun orelse horelse => .pure ?_
  refine conditional_is hfirst.1 hfirst.2 ?_ _
  -- each further condition is a conditional in the alternative of the one before
  induction rest with
  | nil => exact horelse
  | cons branch rest ih =>
    obtain ⟨hbranch, hrest⟩ := List.forall_mem_cons.mp hrest
    refine .many fun n hn => ?_
    rw [List.mem_singleton.mp hn]
    exact conditional_is hbranch.1 hbranch.2 (ih hrest) _

theorem whileStatement_yields (hb : b.Good) : Yields (whileStatement b) (Node.Is .statement) := by
  rw [whileStatement]
  refine .after fun t => .bind (namedExpression_yields hb.rules) fun test htest =>
    .bind (colonBlock_yields hb) fun body hbody => .bind (optionalBlock_yields hb _)
      fun orelse horelse => .pure ?_
  exact .build rfl (.cons (.one htest) (.cons hbody (.cons horelse .nil))) rfl

theorem forStatement_yields (hb : b.Good) (line : Nat) {kind : Kind}
    (hk : kind = .forStmt ∨ kind = .asyncFor) :
    Yields (forStatement b line kind) (Node.Is .statement) := by
  rw [forStatement]
  refine .after fun _ => .bind (starTargets_yields hb.rules) fun target htarget => .after fun _ =>
    .bind (starExpressions_yields hb.rules) fun iter hiter => .bind (colonBlock_yields hb)
      fun body hbody => .bind (optionalBlock_yields hb _) fun orelse horelse => .pure ?_
  rcases hk with rfl | rfl <;>
    exact .build rfl (.cons (.one htarget) (.cons (.one hiter) (.cons hbody
      (.cons horelse .nil)))) rfl

theorem withItem_yields (hg : g.Good) : Yields (withItem g) (Node.Is .resource) := by
  rw [withItem]
  refine .bind (hg .expression) fun value hvalue => .after fun _ =>
    .branch (.optional (starTarget_yields hg)) (.pure (by simp)) fun target htarget => .pure ?_
  exact .build rfl (.cons (.one hvalue) (.cons (.optional htarget) .nil)) rfl

theorem withStatement_yields (hb : b.Good) (line : Nat) {kind : Kind}
    (hk : kind = .withStmt ∨ kind = .asyncWith) :
    Yields (withStatement b line kind) (Node.Is .statement) := by
  have hbracketed : Yields (bracketedItems b.rules) fun items => ∀ n ∈ items, n.Is .resource := by
    rw [bracketedItems]
    exact .after fun _ => .bind (.commaList (withItem_yields hb.rules) _) fun found hfound =>
      .after fun _ => .after fun _ => .after fun _ => .pure hfound
  have hplain : Yields (plainItems b.rules) fun items => ∀ n ∈ items, n.Is .resource := by
    rw [plainItems]
    exact .bind (withItem_yields hb.rules) fun first hfirst =>
      .bind (.repeatWhile (withItem_yields hb.rules) _) fun rest hrest =>
        .pure (List.forall_mem_cons.mpr ⟨hfirst, hrest⟩)
  rw [withStatement]
  refine .after fun _ => .bind (.orElse hbracketed hplain) fun items hitems =>
    .bind (colonBlock_yields hb) fun body hbody => .pure ?_
  rcases hk with rfl | rfl <;> exact .build rfl (.cons (.many hitems) (.cons hbody .nil)) rfl

theorem handler_yields (hb : b.Good) (group : Bool) :
    Yields (handler b group) (Node.Is .handler) := by
  rw [handler]
  refine .after fun t => .maybe fun _ => .after fun _ =>
    .ite (.bind (colonBlock_yields hb) fun body hbody => .pure ?_) ?_
  · exact .build rfl (.cons .none (.cons .noText (.cons hbody .nil))) rfl
  · refine .bind (hb.rules .expression) fun type htype => .after fun _ => .branch .any .any
      fun name _ => .bind (colonBlock_yields hb) fun body hbody => .pure ?_
    exact .build rfl (.cons (.some htype) (.cons (.optionalText name) (.cons hbody .nil))) rfl

theorem tryStatement_yields (hb : b.Good) : Yields (tryStatement b) (Node.Is .statement) := by
  rw [tryStatement]
  refine .after fun t => .bind (colonBlock_yields hb) fun body hbody => .after fun group =>
    .bind (.repeatWhile (handler_yields hb group) _) fun handlers hhandlers =>
      .branch (.pure (.many (by simp))) (optionalBlock_yields hb _) fun orelse horelse =>
        .after fun _ => .after fun _ => .bind (optionalBlock_yields hb _)
          fun final hfinal => .pure ?_
  cases group <;>
    exact .build rfl (.cons hbody (.cons (.many hhandlers) (.cons horelse (.cons hfinal .nil)))) rfl

/-! ## Definitions -/

theorem functionDefinition_yields (hb : b.Good) (line : Nat) {kind : Kind}
    (hk : kind = .functionDef ∨ kind = .asyncFunctionDef) {decorators : List Node}
    (hdecorators : ∀ n ∈ decorators, n.Is .expression) :
    Yields (functionDefinition b line kind decorators) (Node.Is .statement) := by
  rw [functionDefinition]
  refine .after fun _ => .after fun name => .after fun _ => .bind (parameters_yields hb.rules true)
    fun args hargs => .after fun _ => .after fun _ => .branch (.optional (hb.rules .expression))
      (.pure (by simp)) fun returns hreturns => .bind (colonBlock_yields hb)
        fun body hbody => .pure ?_
  rcases hk with rfl | rfl <;>
    exact .build rfl (.cons (.text name) (.cons (.one hargs) (.cons hbody
      (.cons (.many hdecorators) (.cons (.optional hreturns) .nil))))) rfl

theorem classDefinition_yields (hb : b.Good) {decorators : List Node}
    (hdecorators : ∀ n ∈ decorators, n.Is .expression) :
    Yields (classDefinition b decorators) (Node.Is .statement) := by
  have harguments : Yields (classArguments b.rules) fun found => ∀ a ∈ found, a.Good := by
    rw [classArguments]
    exact .after fun _ => .ite (.after fun _ => .ite (.pure (by simp)) (.bind
      (argument_yields hb.rules) fun first hfirst => argumentsRest_yields hb.rules hfirst))
        (.pure (by simp))
  rw [classDefinition]
  refine .after fun t => .after fun name => .bind harguments fun arguments hgood =>
    .bind (colonBlock_yields hb) fun body hbody => .pure ?_
  exact .build rfl (.cons (.text name) (.cons (.many (positional_is hgood))
    (.cons (.many (keyword_is hgood)) (.cons hbody (.cons (.many hdecorators) .nil))))) rfl

theorem definition_yields (hb : b.Good) : Yields (definition b) (Node.Is .statement) := by
  have hdecorator : Yields (decorator b.rules) (Node.Is .expression) := by
    rw [decorator]
    exact .bind (namedExpression_yields hb.rules) fun n hn => .after fun _ => .pure hn
  rw [definition]
  refine .bind (.repeatWhile hdecorator _) fun decorators hdecorators => .after fun line =>
    .after fun _ => .ite (classDefinition_yields hb hdecorators) (.after fun _ => .ite ?_ ?_)
  · exact functionDefinition_yields hb line (Or.inr rfl) hdecorators
  · exact functionDefinition_yields hb line (Or.inl rfl) hdecorators

theorem asyncStatement_yields (hb : b.Good) : Yields (asyncStatement b) (Node.Is .statement) := by
  rw [asyncStatement]
  refine .after fun line => .after fun _ => .ite (definition_yields hb) (.after fun _ =>
    .after fun _ => .ite ?_ ?_)
  · exact forStatement_yields hb line (Or.inr rfl)
  · exact withStatement_yields hb line (Or.inr rfl)

/-! ## Matches -/

theorem matchHead_yields (hg : g.Good) : Yields (matchHead g) fun head => head.2.Is .expression := by
  have hsubject : Yields (subject g) (Node.Is .expression) := by
    rw [subject]
    exact .after fun line => .bind (.commaList (starNamedExpression_yields hg) _)
      fun found hfound => .after fun _ => .pure (tupleOr_is hfound _ _)
  rw [matchHead]
  exact .after fun line => .after fun _ => .bind hsubject fun n hn => .after fun _ =>
    .after fun _ => .after fun _ => .pure hn

theorem matchCase_yields (hb : b.Good) : Yields (matchCase b) (Node.Is .matchCase) := by
  rw [matchCase]
  refine .after fun _ => .bind (patterns_yields hb.rules) fun pattern hpattern => .after fun _ =>
    .branch (.optional (namedExpression_yields hb.rules)) (.pure (by simp)) fun guard hguard =>
      .bind (colonBlock_yields hb) fun body hbody => .pure ?_
  exact .build rfl (.cons (.one hpattern) (.cons (.optional hguard) (.cons hbody .nil))) rfl

theorem matchStatement_yields (hb : b.Good) {head : Nat × Node} (hhead : head.2.Is .expression) :
    Yields (matchStatement b head) (Node.Is .statement) := by
  rw [matchStatement]
  refine .bind (.repeatWhile (matchCase_yields hb) _) fun cases hcases => .after fun _ =>
    .after fun _ => .pure ?_
  exact .build rfl (.cons (.one hhead) (.cons (.many hcases) .nil)) rfl

/-! ## Statements -/

theorem areStatements_singleton {n : Node} (h : n.Is .statement) : AreStatements [n] := by
  intro m hm
  rw [List.mem_singleton.mp hm]
  exact h

theorem matchOrSimple_yields (hb : b.Good) : Yields (matchOrSimple b) AreStatements := by
  rw [matchOrSimple]
  refine .bind (.orElse (.optional (matchHead_yields hb.rules)) (.pure (by simp)))
    fun found hfound => ?_
  cases found with
  | none => exact simpleStatements_yields hb.rules
  | some head =>
    exact .bind (matchStatement_yields hb (hfound head rfl)) fun n hn =>
      .pure (areStatements_singleton hn)

theorem compoundStatement_yields (hb : b.Good) :
    Yields (compoundStatement b) (Node.Is .statement) := by
  rw [compoundStatement]
  exact .after fun line => .after fun _ => .ite (ifStatement_yields hb) (.after fun _ =>
    .ite (whileStatement_yields hb) (.after fun _ => .ite (forStatement_yields hb line (Or.inl rfl))
      (.after fun _ => .ite (withStatement_yields hb line (Or.inl rfl)) (.after fun _ =>
        .ite (tryStatement_yields hb) (.after fun _ => .ite (asyncStatement_yields hb)
          (definition_yields hb))))))

theorem statementRule_yields (hb : b.Good) : Yields (statementRule b) AreStatements := by
  rw [statementRule]
  refine .after fun _ => .ite ?_ (.after fun _ => .ite (matchOrSimple_yields hb)
    (simpleStatements_yields hb.rules))
  exact .bind (compoundStatement_yields hb) fun n hn => .pure (areStatements_singleton hn)

theorem statements_yields {statement : Parser (List Node)} (h : Yields statement AreStatements) :
    Yields (statements g statement) AreStatements := by
  rw [statements]
  refine .bind (.repeatWhile h _) fun found hfound => .pure fun n hn => ?_
  obtain ⟨ns, hns, hmem⟩ := List.mem_flatten.mp hn
  exact hfound ns hns n hmem

theorem blockRule_yields (hg : g.Good) {statement : Parser (List Node)}
    (h : Yields statement AreStatements) : Yields (blockRule g statement) AreStatements := by
  rw [blockRule]
  refine .after fun _ => .ite ?_ (simpleStatements_yields hg)
  exact .after fun _ => .bind (statements_yields h) fun found hfound => .after fun _ =>
    .after fun _ => .pure hfound

/-- **Every statement that is read is well-formed.** -/
theorem statementAt_yields (hg : g.Good) (depth : Nat) :
    Yields (statementAt g depth) AreStatements := by
  induction depth with
  | zero => exact .failure
  | succ depth ih =>
    intro tokens found rest hread
    exact statementRule_yields ⟨hg, blockRule_yields hg ih⟩ tokens found rest hread

theorem program_yields (hg : g.Good) : Yields (program g) AreStatements := by
  rw [program]
  exact .bind (statements_yields (statementAt_yields hg _)) fun found hfound => .after fun _ =>
    .pure hfound

/-- **The tree of a text is well-formed.** -/
theorem parse_isWellFormed {text : String} {tree : Node} (h : Source.parse text = some tree) :
    tree.isWellFormed = true := by
  have hgives : Gives (Source.parse text) (Node.Is .root) := by
    rw [Source.parse]
    refine .ite .none (.after fun tokens => .bind (P := fun found => AreStatements found.1) ?_
      fun found hfound => .some ?_)
    · exact fun found hfound => program_yields (rules_good _) tokens found.1 found.2 hfound
    · exact .build rfl (.cons (.many hfound) (.cons .empty .nil)) rfl
  exact (hgives tree h).whole

end ArchLint.Source
