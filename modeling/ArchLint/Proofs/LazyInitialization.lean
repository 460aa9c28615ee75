import ArchLint.Proofs.Descriptions
import ArchLint.Proofs.TypeGuards
import ArchLint.Proofs.ValidationScopes
import ArchLint.Text.Identifier

/-!
# Lazy initialization

A conditional that asks if a private attribute was set already is lazy initialization.  It is told by
a few phrases that are looked for in the text of the test.  They cover every negation of a private
attribute, but a comparison with nothing only for a few names.

* `Text.infix_across`: **a phrase is found across the first blank, or after it**.
* `Node.AsksForNone`, `Node.Denies`: the tests `self._n is None` and `not self._n`.
* `Node.AsksForNone.print`, `Node.Denies.print`: the texts of the two tests.
* `NoticedName`: the names for which a comparison with nothing is noticed.
* `Rule.Conditional.isLazyInitialization_iff_noticed`: **a comparison is noticed by its name**.
-/

namespace ArchLint

open ArchLint.Syntax (Kind Node Field Value Position Piece Style Slot Level)
open ArchLint.Text (Letter Letters)
open ArchLint.Rule (Conditional)

/-! ## Phrases across a mark -/

namespace Text

theorem append_mark_inj {xs ys before after : List Char} {mark : Char} (hxs : mark ∉ xs)
    (hbefore : mark ∉ before) (h : xs ++ mark :: ys = before ++ mark :: after) :
    xs = before ∧ ys = after := by
  induction xs generalizing before with
  | nil =>
    cases before with
    | nil => exact ⟨rfl, (List.cons.inj h).2⟩
    | cons c more => exact absurd ((List.cons.inj h).1 ▸ List.mem_cons_self) hbefore
  | cons c rest ih =>
    cases before with
    | nil => exact absurd ((List.cons.inj h).1 ▸ List.mem_cons_self) hxs
    | cons d more =>
      obtain ⟨hhead, htail⟩ := List.cons.inj h
      obtain ⟨hrest, hys⟩ := ih (List.not_mem_of_not_mem_cons hxs)
        (List.not_mem_of_not_mem_cons hbefore) htail
      exact ⟨by rw [hhead, hrest], hys⟩

/-- **A phrase is found across the first mark of a text, or after it.** -/
theorem infix_across {u v xs ys : List Char} {mark : Char} (hu : mark ∉ u) (hxs : mark ∉ xs) :
    u ++ mark :: v <:+: xs ++ mark :: ys ↔
      (u <:+ xs ∧ v <+: ys) ∨ u ++ mark :: v <:+: ys := by
  constructor
  · rintro ⟨before, after, heq⟩
    by_cases hmark : mark ∈ before
    · -- the first mark stands before the phrase
      obtain ⟨first, rest, rfl, hfirst⟩ := List.eq_append_cons_of_mem hmark
      have hsplit : first ++ mark :: (rest ++ (u ++ mark :: v) ++ after) = xs ++ mark :: ys := by
        rw [← heq]
        simp only [List.append_assoc, List.cons_append]
      obtain ⟨_, hys⟩ := append_mark_inj hfirst hxs hsplit
      exact Or.inr ⟨rest, after, hys⟩
    · have hsplit : (before ++ u) ++ mark :: (v ++ after) = xs ++ mark :: ys := by
        rw [← heq]
        simp only [List.append_assoc, List.cons_append]
      have hnone : mark ∉ before ++ u := by
        rw [List.mem_append, not_or]
        exact ⟨hmark, hu⟩
      obtain ⟨hbefore, hys⟩ := append_mark_inj hnone hxs hsplit
      exact Or.inl ⟨⟨before, hbefore⟩, ⟨after, hys⟩⟩
  · rintro (⟨⟨before, rfl⟩, ⟨after, rfl⟩⟩ | hlater)
    · exact ⟨before, after, by simp only [List.append_assoc, List.cons_append]⟩
    · exact hlater.trans (List.suffix_append_of_suffix (List.suffix_cons mark ys)).isInfix

theorem eq_of_suffix_mark {u v xs ys : List Char} {mark : Char} (hv : mark ∉ v) (hys : mark ∉ ys)
    (h : u ++ mark :: v <:+ xs ++ mark :: ys) : v = ys := by
  obtain ⟨before, heq⟩ := h
  have hreverse : v.reverse ++ mark :: (before ++ u).reverse =
      ys.reverse ++ mark :: xs.reverse := by
    have hboth := congrArg List.reverse heq
    simpa using hboth
  exact List.reverse_injective
    (append_mark_inj (by simpa using hv) (by simpa using hys) hreverse).1

theorem suffix_append_cons {word xs ys : List Char} {mark : Char} (h : mark ∉ word) :
    word <:+ xs ++ mark :: ys ↔ word <:+ ys := by
  have hrest : ys <:+ xs ++ mark :: ys :=
    List.suffix_append_of_suffix (List.suffix_cons mark ys)
  refine ⟨fun hword => ?_, fun hword => hword.trans hrest⟩
  rcases List.suffix_or_suffix_of_suffix hword (List.suffix_append xs (mark :: ys)) with
    hshort | hlong
  · rcases List.suffix_cons_iff.mp hshort with rfl | hys
    · exact absurd List.mem_cons_self h
    · exact hys
  · exact absurd (hlong.subset List.mem_cons_self) h

end Text

/-! ## The two tests -/

def noneText (name : List Char) : List Char :=
  "self.".toList ++ name ++ ' ' :: "is None".toList

-- said once, since the equation that Lean makes of the definition evaluates the words
theorem noneText_eq (name : List Char) :
    noneText name = "self.".toList ++ name ++ ' ' :: "is None".toList :=
  rfl

namespace Syntax.Node

/-- The access `self._n` to a private attribute. -/
structure IsOwnPrivate (a : Node) (tail : String) : Prop where
  kind_eq : a.kind = .attribute
  object : ∃ s : Node, a.get? .value = some (.node s) ∧ s.kind = .name ∧
    s.get? .id = some (.text "self")
  attr : a.get? .attr = some (.text ("_" ++ tail))

/-- The test `self._n is None`. -/
structure AsksForNone (e : Node) (tail : String) : Prop where
  kind_eq : e.kind = .compare
  left : ∃ a : Node, e.get? .left = some (.node a) ∧ a.IsOwnPrivate tail
  ops : ∃ o : Node, e.get? .ops = some (.list [.node o]) ∧ o.kind = .isOp
  comparators : ∃ c : Node, e.get? .comparators = some (.list [.node c]) ∧ c.kind = .constant ∧
    c.get? .value = some .null ∧ (c.get? .kind = none ∨ c.get? .kind = some .null)

/-- The test `not self._n`. -/
structure Denies (e : Node) (tail : String) : Prop where
  kind_eq : e.kind = .unaryOp
  op : ∃ o : Node, e.get? .op = some (.node o) ∧ o.kind = .notOp
  operand : ∃ a : Node, e.get? .operand = some (.node a) ∧ a.IsOwnPrivate tail

variable {n e a : Node} {tail : String} {style : Style}

theorem need_of_get? {field : Field} {value : Value} (h : n.get? field = some value)
    (style : Style) (rule : Slot → List Piece) :
    (n.form style).need field rule = rule value.slot := by
  rw [Form.need, lookup_slots, h]
  rfl

theorem show_name {text : String} (hk : n.kind = .name) (hid : n.get? .id = some (.text text))
    (hplace : style.place = .ordinary) : n.show style = [.str text] := by
  have hneed := need_of_get? hid style
  obtain ⟨kind, line, fields⟩ := n
  obtain rfl : kind = .name := hk
  rw [show_eq_expression rfl hplace]
  exact hneed _

theorem IsOwnPrivate.show_eq (h : a.IsOwnPrivate tail) (hplace : style.place = .ordinary) :
    a.show style = [.str "self", .str ".", .str ("_" ++ tail)] := by
  obtain ⟨hk, ⟨s, hvalue, hs, hid⟩, hattr⟩ := h
  have hself : s.show { style with level := .atom, place := .ordinary } = [.str "self"] :=
    show_name hs hid rfl
  have hconstant : (Slot.node s s.show).constant? = none := by
    rw [Slot.constant?, hs]
  have hneed := need_of_get? hvalue style
  have hwritten := need_of_get? hattr style
  obtain ⟨kind, line, fields⟩ := a
  obtain rfl : kind = .attribute := hk
  rw [show_eq_expression rfl hplace]
  change (Node.form _ style).access = _
  rw [Form.access, hneed, hwritten, Value.slot, hconstant]
  change ([] ++ s.show { style with level := .atom, place := .ordinary }) ++ [] ++ _ = _
  rw [hself]
  rfl

theorem show_none (hk : n.kind = .constant) (hvalue : n.get? .value = some .null)
    (hmark : n.get? .kind = none ∨ n.get? .kind = some .null)
    (hplace : style.place = .ordinary) : n.show style = [.str "None"] := by
  have hneed := need_of_get? hvalue style
  have hrest : ∀ rule : Slot → List Piece,
      (n.form style).need .kind rule = rule (.other .none) := by
    intro rule
    rcases hmark with hnone | hnull
    · have hkind : (n.form style).kind = .constant := hk
      rw [Form.need, lookup_slots, hnone, hkind]
      rfl
    · exact need_of_get? hnull style rule
  obtain ⟨kind, line, fields⟩ := n
  obtain rfl : kind = .constant := hk
  rw [show_eq_expression rfl hplace]
  change (Node.form _ style).constant = _
  rw [Form.constant, hneed]
  change (Node.form _ style).need .kind _ = _
  have hplain : (Slot.other .none).isText "u" = false := by
    rw [Slot.isText, Slot.value]
    exact beq_false_of_ne (by simp [Value.text])
  rw [hrest, hplain, Value.slot]
  rfl

theorem AsksForNone.show_eq (h : e.AsksForNone tail) :
    e.show {} = ["self", ".", "_" ++ tail, " is ", "None"].map Piece.str := by
  obtain ⟨hk, ⟨a, hleft, ha⟩, ⟨o, hops, ho⟩, c, hcomparators, hc, hvalue, hmark⟩ := h
  have hshow : a.show { level := Level.cmp.next } = _ := ha.show_eq rfl
  have hnone : c.show { level := Level.cmp.next } = _ := show_none hc hvalue hmark rfl
  have hkind : (Slot.node o o.show).kind?.bind Kind.comparison? = some "is" := by
    change Kind.comparison? o.kind = _
    rw [ho]
    rfl
  have hneedLeft := need_of_get? hleft {}
  have hneedOps := need_of_get? hops {}
  have hneedComparators := need_of_get? hcomparators {}
  obtain ⟨kind, line, fields⟩ := e
  obtain rfl : kind = .compare := hk
  rw [show_eq_expression rfl rfl]
  change (Node.form _ {}).comparison = _
  rw [Form.comparison, hneedLeft, hneedComparators]
  change a.show { level := Level.cmp.next } ++ (Node.form _ {}).need .ops _ = _
  rw [hneedOps]
  change _ ++ Form.comparisons _ [(.node o o.show, .node c c.show)] = _
  rw [Form.comparisons, hkind, hshow]
  change _ ++ (Piece.str " is " :: c.show { level := Level.cmp.next } ++ []) = _
  rw [hnone]
  rfl

theorem Denies.show_eq (h : e.Denies tail) :
    e.show {} = ["not", " ", "self", ".", "_" ++ tail].map Piece.str := by
  obtain ⟨hk, ⟨o, hop, ho⟩, a, hoperand, ha⟩ := h
  have hshow : a.show { level := Level.not } = _ := ha.show_eq rfl
  have hkind : (Slot.node o o.show).kind?.bind Kind.unaryOperator? = some ("not", .not) := by
    change Kind.unaryOperator? o.kind = _
    rw [ho]
    rfl
  have hneedOp := need_of_get? hop {}
  have hneedOperand := need_of_get? hoperand {}
  obtain ⟨kind, line, fields⟩ := e
  obtain rfl : kind = .unaryOp := hk
  rw [show_eq_expression rfl rfl]
  change (Node.form _ {}).unary = _
  rw [Form.unary, hneedOp, Value.slot, hkind]
  change Piece.str "not" :: Piece.str " " :: (Node.form _ {}).need .operand _ = _
  rw [hneedOperand]
  change Piece.str "not" :: Piece.str " " :: a.show { level := Level.not } = _
  rw [hshow]
  rfl

theorem print_of_show {words : List String} (h : e.show {} = words.map Piece.str) :
    (Value.node e).print = .ok (String.ofList (words.flatMap String.toList)) := by
  have htexts : words.map Piece.str = (words.map Letters.ofString).map Piece.text := by
    rw [List.map_map]
    rfl
  rw [Value.print_node, Node.print, h, htexts, printPieces, assemble_map_text]
  change Except.ok (String.ofList ((words.map Letters.ofString).flatten.map Letter.shown)) = _
  rw [List.map_flatten, List.map_map, List.flatMap_def]
  refine congrArg (fun texts => Except.ok (String.ofList (List.flatten texts))) ?_
  exact List.map_congr_left fun word _ => Letters.map_shown_ofChars word.toList

theorem AsksForNone.print (h : e.AsksForNone tail) :
    (Value.node e).print = .ok (String.ofList (noneText ('_' :: tail.toList))) := by
  rw [print_of_show h.show_eq, noneText_eq]
  simp [List.flatMap_cons, String.toList_append]

theorem Denies.print (h : e.Denies tail) :
    (Value.node e).print = .ok (String.ofList ("not self._".toList ++ tail.toList)) := by
  rw [print_of_show h.show_eq]
  simp [List.flatMap_cons, String.toList_append]

end Syntax.Node

/-! ## Names that are noticed -/

/-- The names of attributes for which a comparison with nothing is noticed: a lone underscore, a
name that ends in a word for a cache, and one that holds a word for an initialization. -/
def NoticedName (name : List Char) : Prop :=
  name = ['_'] ∨ "_cache".toList <:+ name ∨ "_initialized".toList <:+: name

instance (name : List Char) : Decidable (NoticedName name) :=
  inferInstanceAs (Decidable (_ ∨ _ ∨ _))

/-- The characters that set a name off from the rest of a test do not stand in names. -/
theorem Text.marks_of_identifier {tail : String}
    (h : tail.toList.all Text.isIdentifierPart = true) :
    '.' ∉ '_' :: tail.toList ∧ ' ' ∉ '_' :: tail.toList := by
  have hall : ∀ c ∈ '_' :: tail.toList, Text.isIdentifierPart c = true := by
    intro c hc
    rcases List.mem_cons.mp hc with rfl | hc
    · decide
    · exact List.all_eq_true.mp h c hc
  exact ⟨fun hdot => absurd (hall _ hdot) (by decide),
    fun hblank => absurd (hall _ hblank) (by decide)⟩

section Phrases

variable {name : List Char}

theorem blank_notMem_access (h : ' ' ∉ name) : ' ' ∉ "self.".toList ++ name := by
  rw [List.mem_append, not_or]
  exact ⟨by decide, h⟩

theorem self_append (name : List Char) : "self.".toList ++ name = "self".toList ++ '.' :: name := by
  have hself : "self.".toList = "self".toList ++ ['.'] := by decide
  rw [hself, List.append_assoc]
  rfl

theorem cache_infix_noneText (h : ' ' ∉ name) :
    "_cache is None".toList <:+: noneText name ↔ "_cache".toList <:+ name := by
  have hphrase : "_cache is None".toList = "_cache".toList ++ ' ' :: "is None".toList := by decide
  have hlater : ¬ "_cache".toList ++ ' ' :: "is None".toList <:+: "is None".toList := by decide
  rw [hphrase, noneText_eq, Text.infix_across (by decide) (blank_notMem_access h), self_append,
    Text.suffix_append_cons (by decide)]
  simp only [List.prefix_rfl, and_true, hlater, or_false]

theorem initialized_infix_noneText :
    "_initialized".toList <:+: noneText name ↔ "_initialized".toList <:+: name := by
  have hself : ¬ "_initialized".toList <:+: "self".toList := by decide
  have hnone : ¬ "_initialized".toList <:+: "is None".toList := by decide
  rw [noneText_eq, Text.infix_append_cons (by decide), self_append,
    Text.infix_append_cons (by decide)]
  simp only [hself, hnone, false_or, or_false]

theorem negation_notInfix_noneText (h : ' ' ∉ name) :
    ¬ "not self._".toList <:+: noneText name := by
  have hphrase : "not self._".toList = "not".toList ++ ' ' :: "self._".toList := by decide
  rw [hphrase, noneText_eq, Text.infix_across (by decide) (blank_notMem_access h)]
  rintro (⟨_, hrest⟩ | hrest)
  · exact absurd hrest (by decide)
  · exact absurd hrest (by decide)

theorem lone_infix_noneText (hdot : '.' ∉ name) (h : ' ' ∉ name) :
    "self._ is None".toList <:+: noneText name ↔ name = ['_'] := by
  have hphrase : "self._ is None".toList = "self._".toList ++ ' ' :: "is None".toList := by decide
  have hself : "self._".toList = "self".toList ++ '.' :: ['_'] := by decide
  have hlater : ¬ "self._".toList ++ ' ' :: "is None".toList <:+: "is None".toList := by decide
  rw [hphrase, noneText_eq, Text.infix_across (by decide) (blank_notMem_access h)]
  simp only [List.prefix_rfl, and_true, hlater, or_false]
  rw [self_append, hself]
  constructor
  · intro hsuffix
    exact (Text.eq_of_suffix_mark (by decide) hdot hsuffix).symm
  · rintro rfl
    exact List.suffix_rfl

end Phrases

namespace Rule.Conditional

variable {c : Conditional} {name : List Char}

/-- **A comparison with nothing is noticed by the name of the attribute.** -/
theorem isLazyInitialization_iff_noticed (hdot : '.' ∉ name) (hblank : ' ' ∉ name)
    (htest : c.test.toList = noneText name) :
    c.isLazyInitialization = true ↔ NoticedName name := by
  rw [isLazyInitialization, Text.holdsAny_iff, htest, NoticedName]
  simp only [List.mem_cons, List.not_mem_nil, or_false, exists_eq_or_imp, exists_eq_left,
    cache_infix_noneText hblank, initialized_infix_noneText, negation_notInfix_noneText hblank,
    lone_infix_noneText hdot hblank, false_or]
  tauto

theorem isLazyInitialization_of_negation {tail : List Char}
    (htest : c.test.toList = "not self._".toList ++ tail) : c.isLazyInitialization = true := by
  rw [isLazyInitialization, Text.holdsAny_iff, htest]
  exact ⟨"not self._", by decide, (List.prefix_append _ _).isInfix⟩

/-- What a conditional is for outside of validations, when its test is more than a name. -/
theorem kind_of_blank (hblank : ' ' ∈ c.test.toList) (hvalid : c.inValidation = false) :
    c.kind = if c.isLazyInitialization then .lazyInitialization
      else if c.suggestsBoundary then .boundaryCondition else .businessLogic := by
  have htest : c.isTypeChecking = false := by
    refine beq_false_of_ne ?_
    intro heq
    rw [heq] at hblank
    exact absurd hblank (by decide)
  rw [kind_eq, htest, hvalid]
  rfl

theorem kind_of_noneText (hdot : '.' ∉ name) (hblank : ' ' ∉ name)
    (htest : c.test.toList = noneText name) (hvalid : c.inValidation = false) :
    (c.kind = .lazyInitialization ↔ NoticedName name) ∧
      (¬ NoticedName name → c.kind = .boundaryCondition) := by
  have hlazy := isLazyInitialization_iff_noticed hdot hblank htest
  have hspace : ' ' ∈ c.test.toList := by
    rw [htest]
    exact List.mem_append_right _ List.mem_cons_self
  have hboundary : c.suggestsBoundary = true := by
    refine suggestsBoundary_of_none ?_
    have hnone : "None".toList <:+: ' ' :: "is None".toList := by decide
    rw [htest]
    exact hnone.trans (List.suffix_append _ _).isInfix
  rw [kind_of_blank hspace hvalid, hboundary, ← hlazy]
  cases c.isLazyInitialization with
  | true => simp
  | false => simp

theorem kind_of_negation {tail : List Char} (htest : c.test.toList = "not self._".toList ++ tail)
    (hvalid : c.inValidation = false) : c.kind = .lazyInitialization := by
  have hspace : ' ' ∈ c.test.toList := by
    rw [htest]
    exact List.mem_append_left _ (by decide)
  rw [kind_of_blank hspace hvalid, isLazyInitialization_of_negation htest]
  rfl

end Rule.Conditional

/-! ## Reports -/

theorem mem_group_iff {found : List Finding} {c : Conditional} {file : String} {mark : Mark}
    (h : c.findings file ⊆ found) :
    Finding.ofMark c.kind.mark file c.summary.line c.test ∈ (Report.byVerdict found).group mark ↔
      readAs (some c.kind.mark) c.test = some mark := by
  have hmem : Finding.ofMark c.kind.mark file c.summary.line c.test ∈ found :=
    h (List.mem_singleton_self _)
  rw [Report.group_byVerdict, List.mem_filter, decide_eq_true_eq,
    Finding.group?_ofMark c.kind.mark_given]
  exact and_iff_right hmem

/-- What is marked as a business conditional is counted as one unless its text misleads. -/
theorem readAs_businessConditionals (text : String) :
    readAs (some (.violation .businessConditionals)) text =
        some (.violation .businessConditionals) ↔
      Text.holdsAny (Text.lower text)
        (misleadingWords (some (.violation .businessConditionals))) = false := by
  rw [← readAs_eq_countable]
  rfl

theorem readAs_boundaryConditions {text : String} (h : IsPlain text) :
    readAs (some (.pattern .boundaryConditions)) text = none := by
  have hwords : ∀ word ∈ misleadingWords (some (.pattern .boundaryConditions)),
      word ∈ indicatorWords := by decide
  exact (readAs_eq_countable _ _).mpr (h.holdsAny hwords)

/-- **Which tests on a private attribute are lazy initialization.**  Outside of validations every
negation of one is, but a comparison with nothing only if the name of the attribute is noticed; any
other is taken for a boundary.  The finding of lazy initialization is counted as a business
conditional unless its text misleads, and that of a boundary with a plain text is not counted at
all. -/
theorem lazy_initialization_by_name (tree : Node) (context : Context) (found : List Finding)
    (h : analyze tree context = .ok found) (p : Position) (n e : Node)
    (hat : tree.at? p = some n) (hn : n.kind = .ifStmt ∧ n.get? .test = some (.node e))
    (hscope : ∀ a, tree.enclosing? p = some a → a.validates = false) (tail : String)
    (htail : tail.toList.all Text.isIdentifierPart = true) :
    ∃ c f, Conditional.inContext Value.print n (nodeContext (.ofTree tree) context p) = .ok c ∧
      c.findings context.file = [f] ∧ f ∈ found ∧
      (e.Denies tail → c.kind = .lazyInitialization) ∧
      (e.AsksForNone tail →
        (c.kind = .lazyInitialization ↔ NoticedName ('_' :: tail.toList)) ∧
        (¬ NoticedName ('_' :: tail.toList) → c.kind = .boundaryCondition)) ∧
      (c.kind = .lazyInitialization →
        (f ∈ (Report.byVerdict found).group (.violation .businessConditionals) ↔
          Text.holdsAny (Text.lower c.test)
            (misleadingWords (some (.violation .businessConditionals))) = false)) ∧
      (c.kind = .boundaryCondition → IsPlain c.test →
        ∀ mark, f ∉ (Report.byVerdict found).group mark) := by
  obtain ⟨hk, hget⟩ := hn
  have hbranches : n.branches = true := Node.branches_iff.mpr (Or.inl hk)
  obtain ⟨c, hc, _, hfindings⟩ := exists_inContext h hat hbranches
  obtain ⟨parent, _, hof⟩ := Conditional.inContext_eq_ok.mp hc
  have htest : (Value.node e).print = .ok c.test := by
    rw [← (Conditional.ofNode_eq_ok hof).1, Conditional.testText, hget]
    rfl
  have hvalid : c.inValidation = false := by
    rw [inValidation_inContext hat hc, Option.any_eq_false]
    exact hscope
  obtain ⟨hdot, hblank⟩ := Text.marks_of_identifier htail
  refine ⟨c, .ofMark c.kind.mark context.file c.summary.line c.test, hc, rfl,
    hfindings (List.mem_singleton_self _), ?_, ?_, ?_, ?_⟩
  · intro hdenies
    rw [hdenies.print, Except.ok.injEq] at htest
    have hchars : c.test.toList = "not self._".toList ++ tail.toList := by
      rw [← htest, String.toList_ofList]
    exact Conditional.kind_of_negation hchars hvalid
  · intro hasks
    rw [hasks.print, Except.ok.injEq] at htest
    have hchars : c.test.toList = noneText ('_' :: tail.toList) := by
      rw [← htest, String.toList_ofList]
    exact Conditional.kind_of_noneText hdot hblank hchars hvalid
  · intro hkind
    rw [mem_group_iff hfindings, hkind]
    exact readAs_businessConditionals c.test
  · intro hkind hplain mark
    rw [mem_group_iff hfindings, hkind]
    exact fun heq => absurd ((readAs_boundaryConditions hplain).symm.trans heq) (by simp)

/-- The test `self._n is None`, on the second line. -/
def noneTest (tail : String) : Node :=
  .mk .compare (some 2)
    [(.left, .node (.mk .attribute (some 2)
      [(.value, .node (.mk .name (some 2) [(.id, .text "self")])), (.attr, .text ("_" ++ tail))])),
     (.ops, .list [.node (.mk .isOp none [])]),
     (.comparators, .list [.node (.mk .constant (some 2) [(.value, .null)])])]

theorem noneTest_asksForNone (tail : String) : (noneTest tail).AsksForNone tail :=
  ⟨rfl, ⟨_, rfl, rfl, ⟨_, rfl, rfl, rfl⟩, rfl⟩, ⟨_, rfl, rfl⟩, _, rfl, rfl, rfl, Or.inl rfl⟩

def loader (test : Node) : Node :=
  .mk .functionDef (some 1) [(.name, .text "load"), (.body, .list
    [.node (.mk .ifStmt (some 2)
      [(.test, .node test), (.body, .list [.node (.mk .pass (some 3) [])]), (.orelse, .list [])])])]

/-- A comparison of the attribute `_cache` is lazy initialization, and is counted as a business
conditional. -/
theorem lazy_initialization_by_name_cache :
    ∃ n c f found, (loader (noneTest "cache")).at? [0] = some n ∧
      analyze (loader (noneTest "cache")) (.ofFile "m.py" .mixed) = .ok found ∧
      Conditional.inContext Value.print n
        (nodeContext (.ofTree (loader (noneTest "cache"))) (.ofFile "m.py" .mixed) [0]) = .ok c ∧
      c.kind = .lazyInitialization ∧ c.findings "m.py" = [f] ∧
      f ∈ (Report.byVerdict found).group (.violation .businessConditionals) := by
  have hfound : analyze (loader (noneTest "cache")) (.ofFile "m.py" .mixed) =
      .ok [⟨"m.py", 2, "business_conditionals: self._cache is None"⟩] := by decide +kernel
  have hscope : ∀ a, (loader (noneTest "cache")).enclosing? [0] = some a →
      a.validates = false := by
    rintro a ⟨⟩
    decide +kernel
  obtain ⟨c, f, hc, hf, _, _, hnone, hcounted, _⟩ :=
    lazy_initialization_by_name (loader (noneTest "cache")) (.ofFile "m.py" .mixed) _ hfound [0] _
      (noneTest "cache") rfl ⟨rfl, rfl⟩ hscope "cache" (by decide)
  have hkind := (hnone (noneTest_asksForNone "cache")).1.mpr (by decide)
  have htest : c.test = "self._cache is None" := by
    obtain ⟨parent, _, hof⟩ := Conditional.inContext_eq_ok.mp hc
    have htext : Conditional.testText Value.print (.mk .ifStmt (some 2)
        [(.test, .node (noneTest "cache")), (.body, .list [.node (.mk .pass (some 3) [])]),
         (.orelse, .list [])]) = .ok "self._cache is None" := by decide +kernel
    exact Except.ok.inj ((Conditional.ofNode_eq_ok hof).1.symm.trans htext)
  refine ⟨_, c, f, _, rfl, hfound, hc, hkind, hf, (hcounted hkind).mpr ?_⟩
  rw [htest]
  decide +kernel

/-- **The attribute `_config` is not noticed.**  Its comparison with nothing is taken for a boundary,
and no business conditional is counted. -/
theorem private_attribute_unnoticed :
    (noneTest "config").AsksForNone "config" ∧
      (∃ n c, (loader (noneTest "config")).at? [0] = some n ∧
        n.get? .test = some (.node (noneTest "config")) ∧
        Conditional.inContext Value.print n
          (nodeContext (.ofTree (loader (noneTest "config"))) (.ofFile "m.py" .mixed) [0]) = .ok c ∧
        c.kind = .boundaryCondition) ∧
      analyze (loader (noneTest "config")) (.ofFile "m.py" .mixed) =
        .ok [⟨"m.py", 2, "boundary_conditions: self._config is None"⟩] ∧
      (Report.byVerdict [⟨"m.py", 2, "boundary_conditions: self._config is None"⟩]).group
        (.violation .businessConditionals) = [] := by
  refine ⟨noneTest_asksForNone "config", ⟨_, ⟨"self._config is None", ⟨.controlFlow, 2,
    .text "unknown_compare"⟩, some "load", 1⟩, rfl, rfl, ?_, ?_⟩, ?_, ?_⟩
  · decide +kernel
  · decide +kernel
  · decide +kernel
  · decide +kernel

end ArchLint
