import ArchLint.Proofs.Parsing.Literal

/-!
# Parsed expressions are well-formed

The rules for expressions, one by one: if what is nested yields well-formed expressions, so does the
rule.  The rules are tied by counting down, so all of them do.

* `primary_yields`, `comparison_yields`, `connected_yields`, …: one rule each.
* `arguments_is`: a list of parameters has no more defaults than parameters by position.
* `rules_good`: **every expression that is read is well-formed**.
-/

namespace ArchLint.Source

open ArchLint.Syntax
open ArchLint.Source.Parser

variable {g : Rules}

/-! ## Names, targets and comprehensions -/

theorem nameNode_is (line : Nat) (id : String) : (nameNode line id).Is .expression :=
  .build rfl (.cons (.text id) .nil) rfl

theorem binding_yields (hg : g.Good) : Yields (binding g) (Node.Is .expression) := by
  rw [binding]
  refine .after fun line => .after fun id => .after fun _ => .bind (hg .expression) fun n hn => ?_
  exact .pure (.build rfl (.cons (.one (nameNode_is line id)) (.cons (.one hn) .nil)) rfl)

theorem namedExpression_yields (hg : g.Good) :
    Yields (namedExpression g) (Node.Is .expression) := by
  rw [namedExpression]
  exact .after fun _ => .ite (binding_yields hg) (hg .expression)

theorem starNamedExpression_yields (hg : g.Good) :
    Yields (starNamedExpression g) (Node.Is .expression) := by
  rw [starNamedExpression]
  refine .after fun line => .after fun _ => .ite ?_ (namedExpression_yields hg)
  exact .bind (hg .bitwiseOr) fun n hn => .pure (starred_is hn _)

theorem starTarget_yields (hg : g.Good) : Yields (starTarget g) (Node.Is .expression) := by
  rw [starTarget]
  refine .after fun line => .after fun star => .bind (hg .primary) fun n hn => .after fun _ =>
    .pure ?_
  split
  · exact starred_is hn _
  · exact hn

theorem starTargets_yields (hg : g.Good) : Yields (starTargets g) (Node.Is .expression) := by
  rw [starTargets]
  refine .after fun line => .bind (.commaList (starTarget_yields hg) _) fun found hfound => ?_
  exact .pure (tupleOr_is hfound _ _)

theorem clause_yields (hg : g.Good) : Yields (clause g) (Node.Is .clause) := by
  rw [clause]
  refine .after fun isAsync => .after fun _ => .bind (starTargets_yields hg) fun target htarget =>
    .after fun _ => .bind (hg .disjunction) fun iter hiter =>
      .bind (.repeatWhile (hg .disjunction) _) fun ifs hifs => .pure ?_
  exact .build rfl (.cons (.one htarget) (.cons (.one hiter) (.cons (.many hifs)
    (.cons (.number _) .nil)))) rfl

theorem clauses_yields (hg : g.Good) : Yields (clauses g) (Shape.many .clause).Holds := by
  rw [clauses]
  exact .bind (.repeatWhile (clause_yields hg) _) fun found hfound => .after fun _ =>
    .pure (.many hfound)

theorem yieldExpression_yields (hg : g.Good) :
    Yields (yieldExpression g) (Node.Is .expression) := by
  rw [yieldExpression]
  refine .after fun line => .after fun _ => .after fun _ => .ite ?_ (.after fun _ => .ite ?_ ?_)
  · exact .bind (hg .expression) fun n hn => .pure (.build rfl (.cons (.one hn) .nil) rfl)
  · exact .bind (starExpressions_yields hg) fun n hn =>
      .pure (.build rfl (.cons (.some hn) .nil) rfl)
  · exact .pure (.build rfl (.cons .none .nil) rfl)

theorem yieldOrExpressions_yields (hg : g.Good) :
    Yields (yieldOrExpressions g) (Node.Is .expression) := by
  rw [yieldOrExpressions]
  exact .after fun _ => .ite (yieldExpression_yields hg) (starExpressions_yields hg)

/-! ## Brackets -/

theorem roundBrackets_yields (hg : g.Good) (line : Nat) :
    Yields (roundBrackets g line) (Node.Is .expression) := by
  rw [roundBrackets]
  refine .after fun _ => .ite ?_ (.after fun _ => .ite ?_ ?_)
  · exact .pure (tupleOr_is (by simp) _ _)
  · exact .bind (yieldExpression_yields hg) fun n hn => .after fun _ => .pure hn
  · refine .bind (starNamedExpression_yields hg) fun first hfirst => .after fun _ => .ite ?_ ?_
    · refine .after fun _ => .bind (clauses_yields hg) fun generators hgenerators =>
        .after fun _ => .pure ?_
      exact .build rfl (.cons (.one hfirst) (.cons hgenerators .nil)) rfl
    · refine .after fun comma => .bind (.afterCommas (starNamedExpression_yields hg) _)
        fun rest hrest => .after fun _ => .after fun _ => .pure ?_
      exact tupleOr_is (List.forall_mem_cons.mpr ⟨hfirst, hrest⟩) _ _

theorem squareBrackets_yields (hg : g.Good) (line : Nat) :
    Yields (squareBrackets g line) (Node.Is .expression) := by
  rw [squareBrackets]
  refine .after fun _ => .ite ?_ ?_
  · exact .pure (.build rfl (.cons (.many (by simp)) .nil) rfl)
  · refine .bind (starNamedExpression_yields hg) fun first hfirst => .after fun _ => .ite ?_ ?_
    · refine .after fun _ => .bind (clauses_yields hg) fun generators hgenerators =>
        .after fun _ => .pure ?_
      exact .build rfl (.cons (.one hfirst) (.cons hgenerators .nil)) rfl
    · refine .bind (.afterCommas (starNamedExpression_yields hg) _) fun rest hrest =>
        .after fun _ => .pure ?_
      exact .build rfl (.cons (.many (List.forall_mem_cons.mpr ⟨hfirst, hrest⟩)) .nil) rfl

def IsEntry (e : Value × Node) : Prop :=
  (Shape.optional .expression).Holds e.1 ∧ e.2.Is .expression

theorem dict_is {entries : List (Value × Node)} (h : ∀ e ∈ entries, IsEntry e) (line : Option Int) :
    (Node.mk .dict line [(.keys, .list (entries.map (·.1))),
      (.values, nodeList (entries.map (·.2)))]).Is .expression := by
  refine .build rfl (.cons (.holes ?_) (.cons (.many ?_) .nil)) (decide_eq_true ?_)
  · intro v hv
    obtain ⟨e, he, rfl⟩ := List.mem_map.mp hv
    exact (h e he).1
  · intro n hn
    obtain ⟨e, he, rfl⟩ := List.mem_map.mp hn
    exact (h e he).2
  · change (entries.map (·.1)).length = ((entries.map (·.2)).map Value.node).length
    rw [List.length_map, List.length_map, List.length_map]

theorem entry_yields (hg : g.Good) : Yields (entry g) IsEntry := by
  rw [entry]
  refine .after fun _ => .ite ?_ ?_
  · exact .bind (hg .bitwiseOr) fun n hn => .pure ⟨.none, hn⟩
  · exact .bind (hg .expression) fun key hkey => .after fun _ => .bind (hg .expression)
      fun n hn => .pure ⟨.some hkey, hn⟩

theorem dictRest_yields (hg : g.Good) (line : Nat) {first : Value × Node} (hfirst : IsEntry first) :
    Yields (dictRest g line first) (Node.Is .expression) := by
  rw [dictRest]
  refine .bind (.afterCommas (entry_yields hg) _) fun rest hrest => .after fun _ => .pure ?_
  exact dict_is (List.forall_mem_cons.mpr ⟨hfirst, hrest⟩) _

theorem setRest_yields (hg : g.Good) (line : Nat) {first : Node} (hfirst : first.Is .expression) :
    Yields (setRest g line first) (Node.Is .expression) := by
  rw [setRest]
  refine .after fun _ => .ite ?_ ?_
  · refine .after fun _ => .bind (clauses_yields hg) fun generators hgenerators =>
      .after fun _ => .pure ?_
    exact .build rfl (.cons (.one hfirst) (.cons hgenerators .nil)) rfl
  · refine .bind (.afterCommas (starNamedExpression_yields hg) _) fun rest hrest =>
      .after fun _ => .pure ?_
    exact .build rfl (.cons (.many (List.forall_mem_cons.mpr ⟨hfirst, hrest⟩)) .nil) rfl

theorem curlyBrackets_yields (hg : g.Good) (line : Nat) :
    Yields (curlyBrackets g line) (Node.Is .expression) := by
  rw [curlyBrackets]
  have hnone : ∀ e ∈ ([] : List (Value × Node)), IsEntry e := fun _ he => absurd he List.not_mem_nil
  refine .after fun _ => .ite ?_ (.after fun _ => .ite ?_ ?_)
  · exact .pure (dict_is hnone _)
  · exact .bind (entry_yields hg) fun first hfirst => dictRest_yields hg line hfirst
  · refine .after fun isBound => .bind (starNamedExpression_yields hg) fun first hfirst =>
      .after fun _ => .ite ?_ (setRest_yields hg line hfirst)
    refine .bind (hg .expression) fun value hvalue => .after fun _ => .ite ?_
      (dictRest_yields hg line ⟨.some hfirst, hvalue⟩)
    refine .bind (clauses_yields hg) fun generators hgenerators => .after fun _ => .pure ?_
    exact .build rfl (.cons (.one hfirst) (.cons (.one hvalue) (.cons hgenerators .nil))) rfl

theorem atom_yields (hg : g.Good) : Yields (atom g) (Node.Is .expression) := by
  rw [atom]
  refine .after fun _ => .ite (literal_yields hg) (.after fun t => ?_)
  have hconstant : ∀ c, Yields (pure (constant t.line c)) (Node.Is .expression) :=
    fun c => .pure (constant_is .noText t.line c)
  split
  · exact hconstant .none
  · exact hconstant (.bool true)
  · exact hconstant (.bool false)
  · exact .ite .failure (.pure (nameNode_is _ _))
  · exact hconstant _
  · exact roundBrackets_yields hg t.line
  · exact squareBrackets_yields hg t.line
  · exact curlyBrackets_yields hg t.line
  · exact hconstant .ellipsis
  · exact .failure

/-! ## Calls and subscripts -/

def Argument.Good : Argument → Prop
  | .positional n | .starred n => n.Is .expression
  | .keyword n | .doubleStarred n => n.Is .keyword

theorem argument_yields (hg : g.Good) : Yields (argument g) Argument.Good := by
  rw [argument]
  have hkeyword : ∀ {arg : Value} {line : Nat} {n : Node}, Shape.optionalText.Holds arg →
      n.Is .expression →
        (Node.mk .keyword (some line) [(.arg, arg), (.value, .node n)]).Is .keyword :=
    fun harg hn => .build rfl (.cons harg (.cons (.one hn) .nil)) rfl
  refine .after fun line => .after fun _ => .ite ?_ (.after fun _ => .ite ?_ (.after fun _ =>
    .ite ?_ ?_))
  · exact .bind (hg .expression) fun n hn => .pure (starred_is hn _)
  · exact .bind (hg .expression) fun n hn => .pure (hkeyword .noText hn)
  · exact .after fun name => .after fun _ => .bind (hg .expression) fun n hn =>
      .pure (hkeyword (.optionalText (some name)) hn)
  · exact .bind (namedExpression_yields hg) fun n hn => .pure hn

theorem argumentsRest_yields (hg : g.Good) {first : Argument} (hfirst : first.Good) :
    Yields (argumentsRest g first) fun found => ∀ a ∈ found, a.Good := by
  rw [argumentsRest]
  exact .bind (.afterCommas (argument_yields hg) _) fun rest hrest => .after fun _ =>
    .after fun _ => .pure (List.forall_mem_cons.mpr ⟨hfirst, hrest⟩)

theorem callArguments_yields (hg : g.Good) (line : Nat) :
    Yields (callArguments g line) fun found => ∀ a ∈ found, a.Good := by
  rw [callArguments]
  refine .after fun _ => .ite (.pure (by simp)) (.bind (argument_yields hg) fun first hfirst => ?_)
  split
  · refine .after fun _ => .ite ?_ (argumentsRest_yields hg hfirst)
    refine .bind (clauses_yields hg) fun generators hgenerators => .after fun _ => .pure ?_
    intro a ha
    rw [List.mem_singleton.mp ha]
    exact .build rfl (.cons (.one hfirst) (.cons hgenerators .nil)) rfl
  · exact argumentsRest_yields hg hfirst

theorem positional_is {arguments : List Argument} (h : ∀ a ∈ arguments, a.Good) :
    ∀ n ∈ arguments.filterMap Argument.positional?, n.Is .expression := by
  intro n hn
  obtain ⟨a, ha, hnode⟩ := List.mem_filterMap.mp hn
  have hgood := h a ha
  cases a with
  | positional m | starred m =>
    rw [← Option.some.inj hnode]
    exact hgood
  | keyword m | doubleStarred m => exact absurd hnode (by simp [Argument.positional?])

theorem keyword_is {arguments : List Argument} (h : ∀ a ∈ arguments, a.Good) :
    ∀ n ∈ arguments.filterMap Argument.keyword?, n.Is .keyword := by
  intro n hn
  obtain ⟨a, ha, hnode⟩ := List.mem_filterMap.mp hn
  have hgood := h a ha
  cases a with
  | keyword m | doubleStarred m =>
    rw [← Option.some.inj hnode]
    exact hgood
  | positional m | starred m => exact absurd hnode (by simp [Argument.keyword?])

theorem sliceEnd_yields (hg : g.Good) :
    Yields (sliceEnd g) (Shape.optional .expression).Holds := by
  rw [sliceEnd]
  refine .after fun _ => .ite ?_ (.pure .none)
  exact .bind (hg .expression) fun n hn => .pure (.some hn)

theorem sliceRest_yields (hg : g.Good) (line : Nat) {lower : Value}
    (hlower : (Shape.optional .expression).Holds lower) :
    Yields (sliceRest g line lower) (Node.Is .expression) := by
  rw [sliceRest]
  refine .bind (sliceEnd_yields hg) fun upper hupper => .after fun _ =>
    .branch (sliceEnd_yields hg) (.pure .none) fun step hstep => .pure ?_
  exact .build rfl (.cons hlower (.cons hupper (.cons hstep .nil))) rfl

theorem subscript_yields (hg : g.Good) : Yields (subscript g) (Node.Is .expression) := by
  rw [subscript]
  refine .after fun line => .after fun _ => .ite (sliceRest_yields hg line .none)
    (.after fun _ => .ite ?_ (.after fun _ => .ite (binding_yields hg) ?_))
  · exact .bind (hg .expression) fun n hn => .pure (starred_is hn _)
  · exact .bind (hg .expression) fun n hn => .after fun _ =>
      .ite (sliceRest_yields hg line (.some hn)) (.pure hn)

theorem subscripts_yields (hg : g.Good) : Yields (subscripts g) (Node.Is .expression) := by
  rw [subscripts]
  refine .after fun line => .bind (.commaList (subscript_yields hg) _) fun found hfound => ?_
  exact .pure (tupleOr_is hfound _ _)

theorem attribute_is {n : Node} (h : n.Is .expression) (line : Option Int) (attr : String) :
    (Node.mk .attribute line [(.value, .node n), (.attr, .text attr)]).Is .expression :=
  .build rfl (.cons (.one h) (.cons (.text attr) .nil)) rfl

theorem trailer_yields (hg : g.Good) (line : Nat) {n : Node} (hn : n.Is .expression) :
    Yields (trailer g line n) fun found => ∀ m ∈ found, m.Is .expression := by
  have hfound : ∀ {m : Node}, m.Is .expression → ∀ k ∈ some m, k.Is .expression := by
    intro m hm k hk
    rw [← Option.some.inj hk]
    exact hm
  rw [trailer]
  refine .after fun here => .after fun _ => .ite ?_ (.after fun _ => .ite ?_ (.after fun _ =>
    .ite ?_ (.pure (by simp))))
  · exact .after fun attr => .pure (hfound (attribute_is hn _ attr))
  · refine .bind (callArguments_yields hg here) fun arguments harguments => .pure (hfound ?_)
    exact .build rfl (.cons (.one hn) (.cons (.many (positional_is harguments))
      (.cons (.many (keyword_is harguments)) .nil))) rfl
  · refine .bind (subscripts_yields hg) fun slice hslice => .after fun _ => .pure (hfound ?_)
    exact .build rfl (.cons (.one hn) (.cons (.one hslice) .nil)) rfl

theorem primary_yields (hg : g.Good) : Yields (primary g) (Node.Is .expression) := by
  rw [primary]
  exact .after fun line => .bind (atom_yields hg) fun n hn =>
    .extend (fun m hm => trailer_yields hg line hm) _ hn

/-! ## Operators -/

theorem operator_is {kind : Kind} {family : Family} (hfamily : kind.family = some family)
    (ho : family.isOperator = true) : (operator kind).Is family := by
  have hkind : kind.family.any Family.isOperator = true := by rw [hfamily]; exact ho
  refine .build hfamily ?_ ?_
  · rw [(Kind.shapes_of_isOperator hkind).1]
    exact .nil
  · clear hfamily
    cases kind with
    | other given => exact absurd hkind (by simp [Kind.family])
    | _ => revert hkind; decide

theorem acceptOperator_yields (family : Family) {table : List (String × Kind)}
    (h : ∀ entry ∈ table, entry.2.family = some family) :
    Yields (acceptOperator table) fun found => ∀ kind ∈ found, kind.family = some family := by
  have hnone : ∀ kind ∈ (none : Option Kind), kind.family = some family := by simp
  intro tokens found rest hread
  unfold acceptOperator at hread
  split at hread
  · rename_i t after
    split at hread
    · rename_i kind hkind
      obtain ⟨rfl, _⟩ := Prod.mk.inj (Option.some.inj hread)
      intro k hk
      rw [← Option.some.inj hk]
      unfold operatorAmong at hkind
      split at hkind
      · obtain ⟨before, later, heq, _⟩ := List.lookup_eq_some_iff.mp hkind
        exact h (_, kind) (by rw [heq]; exact List.mem_append_right _ List.mem_cons_self)
      · exact absurd hkind (by simp)
    · obtain ⟨rfl, _⟩ := Prod.mk.inj (Option.some.inj hread)
      exact hnone
  · obtain ⟨rfl, _⟩ := Prod.mk.inj (Option.some.inj hread)
    exact hnone

theorem binary_is {left right : Node} {kind : Kind} (hleft : left.Is .expression)
    (hkind : kind.family = some .binary) (hright : right.Is .expression) (line : Option Int) :
    (Node.mk .binOp line [(.left, .node left), (.op, .node (operator kind)),
      (.right, .node right)]).Is .expression :=
  .build rfl (.cons (.one hleft) (.cons (.one (operator_is hkind rfl))
    (.cons (.one hright) .nil))) rfl

theorem unary_is {operand : Node} {kind : Kind} (hkind : kind.family = some .unary)
    (hoperand : operand.Is .expression) (line : Option Int) :
    (Node.mk .unaryOp line [(.op, .node (operator kind)), (.operand, .node operand)]).Is
      .expression :=
  .build rfl (.cons (.one (operator_is hkind rfl)) (.cons (.one hoperand) .nil)) rfl

theorem awaited_yields (hg : g.Good) : Yields (awaited g) (Node.Is .expression) := by
  rw [awaited]
  refine .after fun line => .after fun _ => .ite ?_ (primary_yields hg)
  exact .bind (primary_yields hg) fun n hn => .pure (.build rfl (.cons (.one hn) .nil) rfl)

theorem power_yields (hg : g.Good) : Yields (power g) (Node.Is .expression) := by
  rw [power]
  refine .after fun line => .bind (awaited_yields hg) fun base hbase => .after fun _ =>
    .ite ?_ (.pure hbase)
  exact .bind (hg .factor) fun exponent hexponent => .pure (binary_is hbase rfl hexponent _)

theorem factor_yields (hg : g.Good) : Yields (factor g) (Node.Is .expression) := by
  rw [factor]
  refine .after fun line => .bind (acceptOperator_yields .unary (by decide))
    fun found hfound => ?_
  cases found with
  | none => exact power_yields hg
  | some kind => exact .bind (hg .factor) fun n hn => .pure (unary_is (hfound kind rfl) hn _)

theorem leftChain_yields {table : List (String × Kind)} {operand : Parser Node}
    (htable : ∀ entry ∈ table, entry.2.family = some .binary)
    (h : Yields operand (Node.Is .expression)) (limit : Nat) :
    Yields (leftChain limit table operand) (Node.Is .expression) := by
  rw [leftChain]
  refine .after fun line => .bind h fun first hfirst => .extend (fun left hleft => ?_) _ hfirst
  refine .bind (acceptOperator_yields .binary htable) fun found hfound => ?_
  cases found with
  | none => exact .pure (by simp)
  | some kind =>
    refine .bind h fun right hright => .pure fun n hn => ?_
    rw [← Option.some.inj hn]
    exact binary_is hleft (hfound kind rfl) hright _

theorem bitwiseOr_yields (hg : g.Good) : Yields (bitwiseOr g) (Node.Is .expression) := by
  have htables : ∀ table ∈ leftOperators, ∀ entry ∈ table, entry.2.family = some .binary := by
    decide
  rw [bitwiseOr]
  -- one table after the other, each with the chains of the one before as operands
  have hchains : ∀ (tables : List (List (String × Kind))) (operand : Parser Node),
      (∀ table ∈ tables, ∀ entry ∈ table, entry.2.family = some .binary) →
      Yields operand (Node.Is .expression) →
      Yields (tables.foldl (fun operand table => leftChain g.limit table operand) operand)
        (Node.Is .expression) := by
    intro tables
    induction tables with
    | nil => exact fun operand _ h => h
    | cons table rest ih =>
      intro operand hall h
      refine ih _ (fun t ht => hall t (List.mem_cons_of_mem _ ht)) ?_
      exact leftChain_yields (hall table List.mem_cons_self) h g.limit
  exact hchains leftOperators _ htables (factor_yields hg)

theorem acceptComparison_yields :
    Yields acceptComparison fun found => ∀ kind ∈ found, kind.family = some .comparison := by
  have hlone : ∀ kind : Kind, kind.family = some .comparison →
      ∀ k ∈ some kind, k.family = some .comparison := by
    intro kind hkind k hk
    rw [← Option.some.inj hk]
    exact hkind
  rw [acceptComparison]
  refine .bind (acceptOperator_yields .comparison (by decide)) fun found hfound => ?_
  cases found with
  | some kind => exact .pure hfound
  | none =>
    refine .after fun _ => .ite (.pure (hlone _ rfl)) (.after fun _ => .ite ?_ (.after fun _ =>
      .ite ?_ (.pure hfound)))
    · exact .after fun _ => .ite (.pure (hlone _ rfl)) (.pure (hlone _ rfl))
    · exact .after fun _ => .after fun _ => .pure (hlone _ rfl)

theorem compare_is {left : Node} {pairs : List (Kind × Node)} (hleft : left.Is .expression)
    (h : ∀ pair ∈ pairs, pair.1.family = some .comparison ∧ pair.2.Is .expression)
    (hne : pairs ≠ []) (line : Option Int) :
    (Node.mk .compare line [(.left, .node left),
      (.ops, nodeList (pairs.map fun (kind, _) => operator kind)),
      (.comparators, nodeList (pairs.map (·.2)))]).Is .expression := by
  refine .build rfl (.cons (.one hleft) (.cons (.many ?_) (.cons (.many ?_) .nil))) ?_
  · intro n hn
    obtain ⟨pair, hpair, rfl⟩ := List.mem_map.mp hn
    exact operator_is (h pair hpair).1 rfl
  · intro n hn
    obtain ⟨pair, hpair, rfl⟩ := List.mem_map.mp hn
    exact (h pair hpair).2
  · refine Bool.and_eq_true_iff.mpr ⟨decide_eq_true ?_, decide_eq_true ?_⟩
    · change 1 ≤ ((pairs.map fun (kind, _) => operator kind).map Value.node).length
      rw [List.length_map, List.length_map]
      exact List.length_pos_iff.mpr hne
    · change ((pairs.map fun (kind, _) => operator kind).map Value.node).length =
        ((pairs.map (·.2)).map Value.node).length
      rw [List.length_map, List.length_map, List.length_map, List.length_map]

theorem comparison_yields (hg : g.Good) : Yields (comparison g) (Node.Is .expression) := by
  rw [comparison]
  refine .after fun line => .bind (bitwiseOr_yields hg) fun left hleft => ?_
  refine .bind (.extend (P := fun pairs => ∀ pair ∈ pairs, pair.1.family = some .comparison ∧
    pair.2.Is .expression) (fun pairs hpairs => ?_) _ (by simp)) fun found hfound => ?_
  · refine .bind acceptComparison_yields fun kind? hkind => ?_
    cases kind? with
    | none => exact .pure (by simp)
    | some kind =>
      refine .bind (bitwiseOr_yields hg) fun n hn => .pure fun more hmore => ?_
      rw [← Option.some.inj hmore]
      exact List.forall_mem_cons.mpr ⟨⟨hkind kind rfl, hn⟩, hpairs⟩
  · by_cases hempty : found.isEmpty = true
    · rw [if_pos hempty]
      exact .pure hleft
    · rw [if_neg hempty]
      have hpairs := fun pair hpair => hfound pair (List.mem_reverse.mp hpair)
      exact .pure (compare_is hleft hpairs (by simpa using hempty) _)

theorem inversion_yields (hg : g.Good) : Yields (inversion g) (Node.Is .expression) := by
  rw [inversion]
  refine .after fun line => .after fun _ => .ite ?_ (comparison_yields hg)
  exact .bind (hg .inversion) fun n hn => .pure (unary_is rfl hn _)

theorem connected_yields {kind : Kind} (hkind : kind.family = some .connective)
    {operand : Parser Node} (h : Yields operand (Node.Is .expression)) (limit : Nat)
    (word : String) : Yields (connected limit word kind operand) (Node.Is .expression) := by
  rw [connected]
  refine .after fun line => .bind h fun first hfirst =>
    .bind (.repeatWhile h _) fun rest hrest => ?_
  by_cases hempty : rest.isEmpty = true
  · rw [if_pos hempty]
    exact .pure hfirst
  · rw [if_neg hempty]
    refine .pure (.build rfl (.cons (.one (operator_is hkind rfl))
      (.cons (.many (List.forall_mem_cons.mpr ⟨hfirst, hrest⟩)) .nil)) (decide_eq_true ?_))
    change 2 ≤ ((first :: rest).map Value.node).length
    have hpos : 0 < rest.length := List.length_pos_iff.mpr (by simpa using hempty)
    rw [List.length_map, List.length_cons]
    omega

theorem disjunction_yields (hg : g.Good) : Yields (disjunction g) (Node.Is .expression) := by
  rw [disjunction]
  exact connected_yields rfl (connected_yields rfl (inversion_yields hg) _ _) _ _

/-! ## Parameters -/

def IsPair (pair : Node × Option Node) : Prop :=
  pair.1.Is .parameter ∧ ∀ n ∈ pair.2, n.Is .expression

def Parameter.Good : Parameter → Prop
  | .plain arg default => IsPair (arg, default)
  | .slash => True
  | .star arg => ∀ n ∈ arg, n.Is .parameter
  | .doubleStar arg => arg.Is .parameter

theorem positionals_gives {seen : Bool} {items : List Parameter} (h : ∀ p ∈ items, p.Good) :
    Gives (Parameter.positionals seen items) fun found =>
      (∀ pair ∈ found.1, IsPair pair) ∧ ∀ p ∈ found.2, p.Good := by
  fun_induction Parameter.positionals seen items with
  | case1 => exact .none
  | case2 seen arg default rest _ ih =>
    obtain ⟨hfirst, hrest⟩ := List.forall_mem_cons.mp h
    refine .map fun found hfound => ?_
    obtain ⟨hpairs, hlast⟩ := ih hrest found hfound
    exact ⟨List.forall_mem_cons.mpr ⟨hfirst, hpairs⟩, hlast⟩
  | case3 seen items _ => exact .some ⟨by simp, h⟩

theorem keywordOnly_gives {items : List Parameter} (h : ∀ p ∈ items, p.Good) :
    Gives (Parameter.keywordOnly items) fun found =>
      (∀ pair ∈ found.1, IsPair pair) ∧ ∀ n ∈ found.2, n.Is .parameter := by
  fun_induction Parameter.keywordOnly items with
  | case1 => exact .some ⟨by simp, by simp⟩
  | case2 arg =>
    have harg : arg.Is .parameter := h _ List.mem_cons_self
    exact .some ⟨by simp, by simpa using harg⟩
  | case3 arg default rest ih =>
    obtain ⟨hfirst, hrest⟩ := List.forall_mem_cons.mp h
    refine .map fun found hfound => ?_
    obtain ⟨hpairs, hlast⟩ := ih hrest found hfound
    exact ⟨List.forall_mem_cons.mpr ⟨hfirst, hpairs⟩, hlast⟩
  | case4 => exact .none

theorem afterPositionals_gives {items : List Parameter} (h : ∀ p ∈ items, p.Good) :
    Gives (Parameter.afterPositionals items) fun found =>
      (∀ n ∈ found.1, n.Is .parameter) ∧ (∀ pair ∈ found.2.1, IsPair pair) ∧
        ∀ n ∈ found.2.2, n.Is .parameter := by
  unfold Parameter.afterPositionals
  split
  · obtain ⟨hfirst, hrest⟩ := List.forall_mem_cons.mp h
    refine .map fun found hfound => ⟨hfirst, keywordOnly_gives hrest found hfound⟩
  · obtain ⟨_, hrest⟩ := List.forall_mem_cons.mp h
    exact .map fun found hfound => ⟨by simp, keywordOnly_gives hrest found hfound⟩
  · split
    · exact .map fun found hfound => ⟨by simp, keywordOnly_gives h found hfound⟩
    · exact .map fun found hfound => ⟨by simp, keywordOnly_gives h found hfound⟩
    · exact .none

theorem arguments_is {only args named : List (Node × Option Node)} {vararg kwarg : Option Node}
    (honly : ∀ pair ∈ only, IsPair pair) (hargs : ∀ pair ∈ args, IsPair pair)
    (hvararg : ∀ n ∈ vararg, n.Is .parameter) (hnamed : ∀ pair ∈ named, IsPair pair)
    (hkwarg : ∀ n ∈ kwarg, n.Is .parameter) :
    (Node.mk .arguments none
      [(.posonlyargs, nodeList (only.map (·.1))), (.args, nodeList (args.map (·.1))),
       (.vararg, optionalNode vararg), (.kwonlyargs, nodeList (named.map (·.1))),
       (.kwDefaults, .list (named.map fun (_, default) => optionalNode default)),
       (.kwarg, optionalNode kwarg),
       (.defaults, nodeList ((only ++ args).filterMap (·.2)))]).Is .parameters := by
  have hfirst : ∀ {pairs : List (Node × Option Node)}, (∀ pair ∈ pairs, IsPair pair) →
      ∀ n ∈ pairs.map (·.1), n.Is .parameter := by
    intro pairs hpairs n hn
    obtain ⟨pair, hpair, rfl⟩ := List.mem_map.mp hn
    exact (hpairs pair hpair).1
  have hdefaults : ∀ n ∈ (only ++ args).filterMap (·.2), n.Is .expression := by
    intro n hn
    obtain ⟨pair, hpair, hdefault⟩ := List.mem_filterMap.mp hn
    rcases List.mem_append.mp hpair with hpair | hpair
    · exact (honly pair hpair).2 n hdefault
    · exact (hargs pair hpair).2 n hdefault
  have hholes : ∀ v ∈ named.map fun (_, default) => optionalNode default,
      (Shape.optional .expression).Holds v := by
    intro v hv
    obtain ⟨pair, hpair, rfl⟩ := List.mem_map.mp hv
    exact .optional (hnamed pair hpair).2
  refine .build rfl (.cons (.many (hfirst honly)) (.cons (.many (hfirst hargs))
    (.cons (.optional hvararg) (.cons (.many (hfirst hnamed)) (.cons (.holes hholes)
      (.cons (.optional hkwarg) (.cons (.many hdefaults) .nil))))))) ?_
  refine Bool.and_eq_true_iff.mpr ⟨decide_eq_true ?_, decide_eq_true ?_⟩
  · change ((named.map (·.1)).map Value.node).length =
      (named.map fun (_, default) => optionalNode default).length
    rw [List.length_map, List.length_map, List.length_map]
  · change (((only ++ args).filterMap (·.2)).map Value.node).length ≤
      ((only.map (·.1)).map Value.node).length + ((args.map (·.1)).map Value.node).length
    have hle := List.length_filterMap_le (·.2) (only ++ args)
    simp only [List.length_map, List.length_append] at hle ⊢
    exact hle

/-- Parameters by position only, those by position, and the items after them. -/
def IsSplit (found : List (Node × Option Node) × List (Node × Option Node) × List Parameter) :
    Prop :=
  (∀ pair ∈ found.1, IsPair pair) ∧ (∀ pair ∈ found.2.1, IsPair pair) ∧ ∀ p ∈ found.2.2, p.Good

theorem arguments?_gives {items : List Parameter} (h : ∀ p ∈ items, p.Good) :
    Gives (Parameter.arguments? items) (Node.Is .parameters) := by
  rw [Parameter.arguments?]
  refine .bind (positionals_gives h) fun ⟨first, rest⟩ ⟨hfirst, hrest⟩ => ?_
  dsimp only
  split
  · obtain ⟨_, hafter⟩ := List.forall_mem_cons.mp hrest
    refine .ite .none (.bind (P := IsSplit) (.map ?_) ?_)
    · exact fun found hfound => ⟨hfirst, positionals_gives hafter found hfound⟩
    · exact fun ⟨only, args, last⟩ ⟨honly, hargs, hlast⟩ => .bind (afterPositionals_gives hlast)
        fun ⟨vararg, named, kwarg⟩ ⟨hvararg, hnamed, hkwarg⟩ =>
          .some (arguments_is honly hargs hvararg hnamed hkwarg)
  · refine .bind (P := IsSplit) (.some ⟨by simp, hfirst, hrest⟩) ?_
    exact fun ⟨only, args, last⟩ ⟨honly, hargs, hlast⟩ => .bind (afterPositionals_gives hlast)
      fun ⟨vararg, named, kwarg⟩ ⟨hvararg, hnamed, hkwarg⟩ =>
        .some (arguments_is honly hargs hvararg hnamed hkwarg)

theorem parameterName_yields (hg : g.Good) (typed starred : Bool) :
    Yields (parameterName g typed starred) (Node.Is .parameter) := by
  rw [parameterName]
  refine .after fun line => .after fun name => ?_
  have hnode : ∀ hint : Option Node, (∀ n ∈ hint, n.Is .expression) →
      (Node.mk .arg (some line) [(.arg, .text name), (.typeHint, optionalNode hint)]).Is
        .parameter :=
    fun hint hhint => .build rfl (.cons (.text name) (.cons (.optional hhint) .nil)) rfl
  have hnone : Yields (pure none : Parser (Option Node)) fun hint => ∀ n ∈ hint, n.Is .expression :=
    .pure (by simp)
  refine .ite (.after fun _ => .ite (.branch (.optional (starExpression_yields hg))
    (.optional (hg .expression)) fun hint hhint => .pure (hnode hint hhint)) ?_) ?_
  · exact .bind hnone fun hint hhint => .pure (hnode hint hhint)
  · exact .bind hnone fun hint hhint => .pure (hnode hint hhint)

theorem parameter_yields (hg : g.Good) (typed : Bool) :
    Yields (parameter g typed) Parameter.Good := by
  rw [parameter]
  refine .after fun _ => .ite (.pure trivial) (.after fun _ => .ite ?_ (.after fun _ => .ite ?_ ?_))
  · exact .bind (parameterName_yields hg _ _) fun n hn => .pure hn
  · refine .after fun _ => .ite ?_ (.pure (by simp [Parameter.Good]))
    exact .bind (parameterName_yields hg _ _) fun n hn => .pure (by simpa [Parameter.Good] using hn)
  · refine .bind (parameterName_yields hg _ _) fun arg harg => .after fun _ => .ite ?_
      (.pure ⟨harg, by simp⟩)
    exact .bind (hg .expression) fun n hn => .pure ⟨harg, by simpa using hn⟩

theorem parameters_yields (hg : g.Good) (typed : Bool) :
    Yields (parameters g typed) (Node.Is .parameters) := by
  rw [parameters]
  refine .after fun _ => .branch (P := fun items => ∀ p ∈ items, p.Good)
    (.map (.commaList (parameter_yields hg typed) _)) (.pure (by simp)) fun items hitems => ?_
  dsimp only
  cases hn : Parameter.arguments? items with
  | none => exact .failure
  | some n => exact .pure (arguments?_gives hitems n hn)

/-! ## Expressions -/

theorem lambda_yields (hg : g.Good) : Yields (lambda g) (Node.Is .expression) := by
  rw [lambda]
  refine .after fun line => .after fun _ => .bind (parameters_yields hg false) fun args hargs =>
    .after fun _ => .bind (hg .expression) fun body hbody => .pure ?_
  exact .build rfl (.cons (.one hargs) (.cons (.one hbody) .nil)) rfl

theorem expression_yields (hg : g.Good) : Yields (expression g) (Node.Is .expression) := by
  rw [expression]
  refine .after fun _ => .ite (lambda_yields hg) (.after fun line => ?_)
  refine .bind (disjunction_yields hg) fun body hbody => .after fun _ => .ite ?_ (.pure hbody)
  refine .bind (disjunction_yields hg) fun test htest => .after fun _ => .bind (hg .expression)
    fun orelse horelse => .pure ?_
  exact .build rfl (.cons (.one htest) (.cons (.one hbody) (.cons (.one horelse) .nil))) rfl

theorem goalRule_yields (hg : g.Good) (goal : Goal) :
    Yields (goalRule g goal) (Node.Is .expression) := by
  cases goal with
  | expression => exact expression_yields hg
  | disjunction => exact disjunction_yields hg
  | inversion => exact inversion_yields hg
  | bitwiseOr => exact bitwiseOr_yields hg
  | factor => exact factor_yields hg
  | primary => exact primary_yields hg

/-- **Every expression that is read is well-formed.** -/
theorem rules_good (depth : Nat) : (rules depth).Good := by
  -- the rules at one depth are made of those one step further in
  induction depth with
  | zero => exact fun goal => .failure
  | succ depth ih =>
    intro goal tokens n rest hread
    exact goalRule_yields (g := ⟨depth, parseGoal depth⟩) ih goal tokens n rest hread

end ArchLint.Source
