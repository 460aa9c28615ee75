import ArchLint.Proofs.Parsing.Yields
import ArchLint.Source.Expression

/-!
# Parsed literals are well-formed

A template is cut into runs of text and replacement fields, whose expressions are parsed by the
rules for expressions.  If those yield well-formed expressions, templates are well-formed: their
parts are text and replacement fields, and the conversions of the fields have codes.

* `Rules.Good`: rules that yield well-formed expressions.
* `partsFrom_gives`: the conversions in a template have codes.
* `assemble_gives`: **the nodes of a template are parts of a formatted text**.
* `literal_yields`: literals are well-formed.
-/

namespace ArchLint.Source

open ArchLint.Syntax
open ArchLint.Text (Letters)
open ArchLint.Source.Parser

/-- Rules that yield well-formed expressions. -/
def Rules.Good (g : Rules) : Prop :=
  ∀ goal, Yields (g.parse goal) (Node.Is .expression)

variable {g : Rules}

/-! ## Lists of expressions -/

theorem tupleOr_is {items : List Node} (h : ∀ n ∈ items, n.Is .expression) (line : Nat)
    (comma : Bool) : (tupleOr line items comma).Is .expression := by
  unfold tupleOr
  split
  · exact h _ List.mem_cons_self
  · exact .build rfl (.cons (.many h) .nil) rfl

theorem starred_is {n : Node} (h : n.Is .expression) (line : Option Int) :
    (Node.mk .starred line [(.value, .node n)]).Is .expression :=
  .build rfl (.cons (.one h) .nil) rfl

theorem starExpression_yields (hg : g.Good) : Yields (starExpression g) (Node.Is .expression) := by
  rw [starExpression]
  refine .after fun line => .after fun star => .ite ?_ (hg .expression)
  exact .bind (hg .bitwiseOr) fun n hn => .pure (starred_is hn _)

theorem starExpressions_yields (hg : g.Good) :
    Yields (starExpressions g) (Node.Is .expression) := by
  rw [starExpressions]
  refine .after fun line => .bind (.commaList (starExpression_yields hg) _) fun found hfound => ?_
  exact .pure (tupleOr_is hfound _ _)

/-! ## Templates -/

/-- The conversions in the part have codes. -/
inductive Part.Coded : Part → Prop where
  | text (letters : Letters) : Coded (.text letters)
  | field {source label : List Char} {line : Nat} {conversion : Int} {hasFormat : Bool}
      {format : List Part} : conversion ∈ conversionCodes → (∀ p ∈ format, Coded p) →
        Coded (.field source line label conversion hasFormat format)

theorem fieldConversion_gives (text : List Char) :
    Gives (fieldConversion text) fun found => ∀ c ∈ found.1, c = 's' ∨ c = 'r' ∨ c = 'a' := by
  unfold fieldConversion
  split
  · rename_i c rest
    split
    · rename_i hc
      refine .some ?_
      intro d hd
      rw [← Option.some.inj hd]
      simpa [or_assoc] using hc
    · exact .none
  · exact .none
  · exact .some (by simp)

theorem conversionCode_mem {c : Option Char} (h : ∀ x ∈ c, x = 's' ∨ x = 'r' ∨ x = 'a')
    (label : List Char) (hasFormat : Bool) :
    conversionCode label hasFormat c ∈ conversionCodes := by
  cases c with
  | none =>
    rw [conversionCode]
    split
    · decide
    · decide
  | some x =>
    rw [conversionCode]
    rcases h x rfl with rfl | rfl | rfl
    · decide
    · decide
    · decide

theorem fieldFormat_gives {parts : List Char → Option (List Part × List Char)}
    (h : ∀ spec, Gives (parts spec) fun found => ∀ p ∈ found.1, p.Coded) (text : List Char) :
    Gives (fieldFormat parts text) fun found => ∀ p ∈ found.2.1, p.Coded := by
  unfold fieldFormat
  split
  · exact .map (h _)
  · exact .some (by simp)

theorem partsFrom_gives (raw : Bool) (fuel level line : Nat) (text : List Char) :
    Gives (partsFrom raw fuel level line text) fun found => ∀ p ∈ found.1, p.Coded := by
  have hlone : ∀ letters, ∀ p ∈ [Part.text letters], p.Coded := by
    intro letters p hp
    rw [List.mem_singleton.mp hp]
    exact .text letters
  induction fuel generalizing level line text with
  | zero => exact .none
  | succ fuel ih =>
    rw [partsFrom]
    refine .after fun ⟨run, why, after⟩ => .branch .any .any
      fun letters _ => ?_
    cases why with
    | finish => exact .ite (.some (hlone letters)) .none
    | closing => exact .some (hlone letters)
    | opening =>
      refine .ite .none (.after fun ⟨source, rest⟩ => .ite .none ?_)
      refine .bind (fieldConversion_gives _) fun ⟨conversion, more⟩ hconversion => ?_
      refine .bind (fieldFormat_gives (fun spec => ih _ _ spec) _)
        fun ⟨hasFormat, format, ending⟩ hformat => ?_
      dsimp only
      split
      · refine .map fun found hfound p hp => ?_
        rcases List.mem_cons.mp hp with rfl | hp
        · exact .text letters
        · rcases List.mem_cons.mp hp with rfl | hp
          · exact .field (conversionCode_mem hconversion _ _) hformat
          · exact ih _ _ _ found hfound p hp
      · exact .none

theorem templateParts_gives (q : Quotation) (line : Nat) :
    Gives (templateParts q line) fun parts => ∀ p ∈ parts, p.Coded :=
  .map (partsFrom_gives _ _ _ _ _)

/-! ## Literals -/

theorem constant_is {kind : Value} (hkind : Shape.optionalText.Holds kind) (line : Nat)
    (c : Constant) : (constant line c kind).Is .expression :=
  .build rfl (.cons (.literal c) (.cons hkind .nil)) rfl

def IsPart (n : Node) : Prop :=
  n.Is .expression ∧ n.isTextPart = true

theorem textConstant_isPart {kind : Value} (hkind : Shape.optionalText.Holds kind) (line : Nat)
    (letters : Letters) : IsPart (textConstant line letters kind) :=
  ⟨constant_is hkind line _, rfl⟩

theorem nodes_nodeList (ns : List Node) : (nodeList ns).nodes = ns := by
  rw [nodeList, Value.nodes, List.filterMap_map]
  exact List.filterMap_some

theorem joined_is {values : List Node} (h : ∀ n ∈ values, IsPart n) (line : Nat) :
    (joined line values).Is .expression := by
  refine .build rfl (.cons (.many fun n hn => (h n hn).1) .nil) ?_
  have hvalues : ((joined line values).field .values).nodes = values := nodes_nodeList values
  change ((joined line values).field .values).nodes.all Node.isTextPart = true
  rw [hvalues, List.all_eq_true]
  exact fun n hn => (h n hn).2

theorem formattedValue_isPart {value : Node} {conversion : Int} {spec : Option Node}
    (hvalue : value.Is .expression) (hconversion : conversion ∈ conversionCodes)
    (hspec : ∀ n ∈ spec, n.Is .expression ∧ n.kind = .joinedStr) (line : Option Int) :
    IsPart (.mk .formattedValue line [(.value, .node value), (.conversion, .int conversion),
      (.formatSpec, optionalNode spec)]) := by
  refine ⟨.build rfl (.cons (.one hvalue) (.cons (.number _)
    (.cons (.optional fun n hn => (hspec n hn).1) .nil))) ?_, rfl⟩
  refine Bool.and_eq_true_iff.mpr ⟨?_, ?_⟩
  · exact List.any_eq_true.mpr ⟨conversion, hconversion, beq_self_eq_true _⟩
  · cases spec with
    | none => rfl
    | some n =>
      rw [List.all_eq_true]
      intro c hc
      rw [List.mem_singleton.mp hc]
      exact decide_eq_true (hspec n rfl).2

/-- The nodes of a template are parts of it. -/
def Assembly.Good (a : Assembly) : Prop :=
  ∀ n ∈ a.nodes, IsPart n

theorem Assembly.Good.flush {a : Assembly} (h : a.Good) {kind : Value}
    (hkind : Shape.optionalText.Holds kind) (line : Nat) : ∀ n ∈ a.flush line kind, IsPart n := by
  intro n hn
  rw [Assembly.flush] at hn
  split at hn
  · exact h n hn
  · rcases List.mem_append.mp hn with hn | hn
    · exact h n hn
    · rw [List.mem_singleton.mp hn]
      exact textConstant_isPart hkind line _

theorem fieldExpression_gives (hg : g.Good) (source : List Char) (line : Nat) :
    Gives (fieldExpression g source line) (Node.Is .expression) := by
  rw [fieldExpression]
  refine .after fun tokens => .bind (P := fun found => found.1.Is .expression) ?_ fun found hfound =>
    .some hfound
  exact fun found hfound => starExpressions_yields hg tokens found.1 found.2 hfound

mutual

theorem assemblePart_gives (hg : g.Good) {kind : Value} (hkind : Shape.optionalText.Holds kind)
    {first line : Nat} {a : Assembly} (ha : a.Good) : ∀ {part : Part}, part.Coded →
    Gives (assemblePart g first line kind part a) Assembly.Good
  | .text letters, _ => by
    rw [assemblePart]
    exact .some ha
  | .field source here label conversion hasFormat format, .field hconversion hformat => by
    have hempty : Assembly.Good {} := fun n hn => absurd hn List.not_mem_nil
    rw [assemblePart]
    refine .bind (fieldExpression_gives hg source here) fun value hvalue =>
      .bind (assemble_gives hg hkind hempty hformat) fun inner hinner => .some ?_
    intro n hn
    rcases List.mem_append.mp hn with hn | hn
    · have hnext : Assembly.Good { a with run := a.run ++ Letters.ofChars label } := ha
      exact hnext.flush hkind first n hn
    · rw [List.mem_singleton.mp hn]
      refine formattedValue_isPart hvalue hconversion ?_ _
      intro spec hspec
      split at hspec
      · rw [← Option.some.inj hspec]
        exact ⟨joined_is (hinner.flush Shape.Holds.noText line) line, rfl⟩
      · exact absurd hspec (by simp)

theorem assemble_gives (hg : g.Good) {kind : Value} (hkind : Shape.optionalText.Holds kind)
    {first line : Nat} {a : Assembly} (ha : a.Good) : ∀ {parts : List Part}, (∀ p ∈ parts, p.Coded) →
    Gives (assemble g first line kind parts a) Assembly.Good
  | [], _ => by
    rw [assemble]
    exact .some ha
  | part :: rest, hparts => by
    rw [assemble]
    exact .bind (assemblePart_gives hg hkind ha (hparts part List.mem_cons_self)) fun next hnext =>
      assemble_gives hg hkind hnext fun p hp => hparts p (List.mem_cons_of_mem _ hp)

end

theorem assembleQuotation_gives (hg : g.Good) {kind : Value}
    (hkind : Shape.optionalText.Holds kind) (first : Nat) (piece : Quotation × Nat) {a : Assembly}
    (ha : a.Good) : Gives (assembleQuotation g first kind piece a) Assembly.Good := by
  rw [assembleQuotation]
  refine .ite (.bind (templateParts_gives _ _) fun parts hparts => assemble_gives hg hkind ha hparts)
    (.branch .any .any fun letters _ => .some ?_)
  exact ha

theorem foldlM_gives {α β : Type} {P : β → Prop} {f : β → α → Option β}
    (hf : ∀ b a, P b → Gives (f b a) P) (xs : List α) {b : β} (hb : P b) :
    Gives (xs.foldlM f b) P := by
  induction xs generalizing b with
  | nil => exact .some hb
  | cons a rest ih =>
    rw [List.foldlM_cons]
    exact .bind (hf b a hb) fun c hc => ih hc

theorem literalOf_gives (hg : g.Good) (pieces : List (Quotation × Nat)) :
    Gives (literalOf g pieces) (Node.Is .expression) := by
  rw [literalOf]
  refine .after fun ⟨q, first⟩ => .ite ?_ (.ite .none ?_)
  · exact .after fun bytes => .some (constant_is Shape.Holds.noText first _)
  · have hkind : Shape.optionalText.Holds
        (if q.marks.head? = some 'u' then Value.text "u" else .null) := by
      split
      · exact Shape.Holds.optionalText (some "u")
      · exact Shape.Holds.noText
    refine .bind (foldlM_gives (fun a piece ha => assembleQuotation_gives hg hkind first piece ha)
      pieces fun n hn => absurd hn List.not_mem_nil) fun a ha => .ite (.some ?_) (.some ?_)
    · exact joined_is (ha.flush hkind first) first
    · exact constant_is hkind first _

theorem literal_yields (hg : g.Good) : Yields (literal g) (Node.Is .expression) := by
  rw [literal]
  refine .after fun pieces => ?_
  cases hn : literalOf g pieces with
  | none => exact .failure
  | some n => exact .pure (literalOf_gives hg pieces n hn)

end ArchLint.Source
