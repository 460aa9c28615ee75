import ArchLint.Proofs.Expressions

/-!
# Levels and brackets

An expression is told the level of the place where it stands.  It uses the level for one thing only:
to put itself in brackets or not.

* `Form.atLevel`: the same form at another level.
* `Loose`: pieces that are the same at every level, but for a pair of brackets around them.
* `Form.loose_expression`: **a rule is loose**, formatted texts apart.
* `Node.loose_show`: **a well-formed expression is printed alike at every level**, but for a pair of
  brackets around it.
-/

namespace ArchLint.Syntax

open ArchLint.Text (Letter Letters)

/-! ## Brackets -/

def bracketed (pieces : List Piece) : List Piece :=
  .str "(" :: pieces ++ [.str ")"]

/-- Pieces that are the same at every level, but for a pair of brackets around them. -/
def Loose (f : Level → List Piece) : Prop :=
  ∃ core, ∀ level, f level = core ∨ f level = bracketed core

def Form.atLevel (form : Form) (level : Level) : Form :=
  { form with style := { form.style with level := level } }

namespace Loose

theorem const {f : Level → List Piece} (h : ∀ level, f level = f .test) : Loose f :=
  ⟨f .test, fun level => Or.inl (h level)⟩

theorem parens (form : Form) (own : Level) {body : Level → List Piece}
    (h : ∀ level, body level = body .test) :
    Loose fun level => (form.atLevel level).parens own (body level) := by
  refine ⟨body .test, fun level => ?_⟩
  dsimp only
  rw [h, Form.parens]
  split
  · exact Or.inr rfl
  · exact Or.inl rfl

theorem need {form : Form} {field : Field} {rule : Level → Slot → List Piece}
    (h : ∀ slot, Loose fun level => rule level slot) :
    Loose fun level => (form.atLevel level).need field (rule level) := by
  have hslots : ∀ level, (form.atLevel level).slots = form.slots := fun _ => rfl
  have hkind : ∀ level, (form.atLevel level).kind = form.kind := fun _ => rfl
  simp only [Form.need, hslots, hkind]
  cases form.slots.lookup field with
  | some slot => exact h slot
  | none =>
    cases form.kind.isOptional field with
    | true => exact h _
    | false => exact const fun _ => rfl

end Loose

/-! ## Rules at another level -/

namespace Form

variable (form : Form) (level : Level)

theorem operands_atLevel (spelling : String) (own : Level) (items : List Slot) :
    (form.atLevel level).operands spelling own items = form.operands spelling own items := by
  fun_induction Form.operands form spelling own items with
  | case1 => rfl
  | case2 own last => rfl
  | case3 own first rest hrest ih =>
    rw [Form.operands, ih]
    · rfl
    · exact hrest

theorem comparisons_atLevel (pairs : List (Slot × Slot)) :
    (form.atLevel level).comparisons pairs = form.comparisons pairs := by
  induction pairs with
  | nil => rfl
  | cons pair rest ih =>
    obtain ⟨op, operand⟩ := pair
    rw [Form.comparisons, Form.comparisons, ih]
    rfl

theorem statement_eq_nil {form : Form} (h : form.kind.family = some .expression) :
    form.statement = [] := by
  obtain ⟨kind, line, slots, style⟩ := form
  cases kind <;> first | rfl | exact absurd h (by simp [Kind.family])

/-- **A rule is loose**, formatted texts apart. -/
theorem loose_expression (h : form.kind.family = some .expression) (hj : form.kind ≠ .joinedStr)
    (hf : form.kind ≠ .formattedValue) : Loose fun level => (form.atLevel level).expression := by
  obtain ⟨kind, line, slots, style⟩ := form
  cases kind with
  | boolOp =>
    refine Loose.need fun op => ?_
    cases op.kind?.bind Kind.connective? with
    | none => exact Loose.const fun _ => rfl
    | some entry =>
      refine Loose.parens _ entry.2 fun level => ?_
      simp only [operands_atLevel]
      rfl
  | unaryOp | binOp =>
    refine Loose.need fun op => ?_
    split
    · exact Loose.const fun _ => rfl
    · exact Loose.parens _ _ fun level => rfl
  | namedExpr | await | yield | yieldFrom | ifExpr | lambdaExpr =>
    exact Loose.parens _ _ fun level => rfl
  | compare =>
    refine Loose.parens _ .cmp fun level => ?_
    simp only [comparisons_atLevel]
    rfl
  | tuple =>
    refine Loose.need fun elts => ?_
    unfold Form.measure
    cases elts.items? with
    | none => exact Loose.const fun _ => rfl
    | some items =>
      -- the empty tuple has its brackets at every level
      cases items with
      | nil => exact Loose.const fun _ => rfl
      | cons item rest =>
        refine ⟨Form.tupleItems ⟨.tuple, line, slots, style⟩ (item :: rest), fun level => ?_⟩
        dsimp only
        split
        · exact Or.inr rfl
        · exact Or.inl rfl
  | joinedStr => exact absurd rfl hj
  | formattedValue => exact absurd rfl hf
  | dict | set | listComp | setComp | generatorExp | dictComp | call | constant | «attribute»
  | subscript | starred | name | list | slice => exact Loose.const fun level => rfl
  | _ => exact absurd h (by simp [Kind.family])

end Form

theorem Node.show_eq_expression {n : Node} (hfamily : n.kind.family = some .expression)
    {style : Style} (hplace : style.place = .ordinary) :
    n.show style = (n.form style).expression := by
  have hstyle : (n.form style).style.place = .ordinary := hplace
  rw [Node.show_eq, Form.rule, hstyle]
  exact (congrArg _ (Form.statement_eq_nil hfamily)).trans (List.append_nil _)

/-! ## Formatted text at another level -/

theorem mapM_congr {α β : Type} {xs : List α} {f g : α → Except Fault β}
    (h : ∀ x ∈ xs, f x = g x) : xs.mapM f = xs.mapM g := by
  have hmap : ∀ k : α → Except Fault β, xs.mapM k = (xs.map k).mapM id := by
    intro k
    rw [List.mapM_map]
    rfl
  rw [hmap, hmap, List.map_congr_left h]

/-- The node is printed alike at every level when it is a part of a formatted text. -/
def Node.PartLoose (n : Node) : Prop :=
  ∀ (style : Style) (level : Level), n.suits .part = true →
    n.show { style with level := level, place := .part } = n.show { style with place := .part }

namespace Ready

variable {n : Node}

theorem part_values (h : Ready .joinedStr n) (hpart : ∀ c ∈ n.children, c.PartLoose)
    (style : Style) (level : Level) :
    ∃ items, n.slot .values = .list items ∧
      ∀ slot ∈ items, slot.part { style with level := level } = slot.part style := by
  obtain ⟨ns, hns, hall⟩ := h.textParts
  refine ⟨_, hns, fun slot hslot => ?_⟩
  obtain ⟨c, hc, rfl⟩ := List.mem_map.mp hslot
  exact hpart c (hall c hc).1 style level (hall c hc).2.2

theorem part_formatSpec (h : Ready .formattedValue n) (hpart : ∀ c ∈ n.children, c.PartLoose)
    (style : Style) (level : Level) :
    (n.slot .formatSpec).part { style with level := level } = (n.slot .formatSpec).part style := by
  rcases h.format? with hnone | ⟨c, hc, hslot, hsuits⟩
  · rw [hnone]
    rfl
  · rw [hslot]
    exact hpart c hc style level hsuits

theorem replacement_level (h : Ready .formattedValue n) (hpart : ∀ c ∈ n.children, c.PartLoose)
    (style : Style) (level : Level) :
    (n.form { style with level := level }).replacement = (n.form style).replacement := by
  have hstyle : ∀ s : Style, (n.form s).style = s := fun _ => rfl
  have hvalue := h.need_eq (rfl : Kind.formattedValue.shape? .value = some (.one .expression))
  have hcode := h.need_eq (rfl : Kind.formattedValue.shape? .conversion = some .number)
  have hspec :=
    h.need_eq (rfl : Kind.formattedValue.shape? .formatSpec = some (.optional .expression))
  simp only [Form.replacement, hvalue, hcode, hspec, hstyle, h.part_formatSpec hpart]

theorem joined_level (h : Ready .joinedStr n) (hpart : ∀ c ∈ n.children, c.PartLoose)
    (style : Style) (level : Level) :
    (n.form { style with level := level }).joined = (n.form style).joined := by
  obtain ⟨items, hitems, hall⟩ := h.part_values hpart style level
  have hstyle : ∀ s : Style, (n.form s).style = s := fun _ => rfl
  have hvalues := h.need_eq (rfl : Kind.joinedStr.shape? .values = some (.many .expression))
  have hparts := mapM_congr fun slot hslot =>
    congrArg (fun pieces => (assemble pieces).map fun t => (t, slot.kind? == some .constant))
      (hall slot hslot)
  simp only [Form.joined, hvalues, hitems, hstyle, Form.each, Slot.items?, hparts]

end Ready

/-- **A part of a formatted text is printed alike at every level.** -/
theorem Node.partLoose {n : Node} (h : n.isWellFormed = true) : n.PartLoose := by
  induction n using Node.childInduction with
  | step n ih =>
    have hready := Node.ready h
    have hpart : ∀ c ∈ n.children, c.PartLoose := fun c hc => ih c hc (hready.whole c hc)
    intro style level hsuits
    rw [Node.suits, Node.isTextPart, Bool.or_eq_true, Bool.or_eq_true, Bool.and_eq_true,
      decide_eq_true_eq, decide_eq_true_eq, decide_eq_true_eq] at hsuits
    rw [Node.show_eq, Node.show_eq]
    obtain ⟨kind, line, fields⟩ := n
    rcases hsuits with (rfl | ⟨rfl, _⟩) | rfl
    · exact hready.replacement_level hpart { style with place := .part } level
    · rfl
    · obtain ⟨items, hitems, hall⟩ :=
        hready.part_values hpart { style with place := .part } level
      have hvalues :=
        hready.need_eq (rfl : Kind.joinedStr.shape? .values = some (.many .expression))
      change Form.need _ .values _ = Form.need _ .values _
      rw [hvalues, hvalues, hitems]
      exact List.flatMap_congr hall

/-- **A well-formed expression is printed alike at every level**, but for a pair of brackets around
it. -/
theorem Node.loose_show {n : Node} (h : n.isWellFormed = true)
    (hfamily : n.kind.family = some .expression) (style : Style) :
    Loose fun level => n.show { style with level := level, place := .ordinary } := by
  have hready := Node.ready h
  have hpart : ∀ c ∈ n.children, c.PartLoose := fun c hc => Node.partLoose (hready.whole c hc)
  have hrule : ∀ level, n.show { style with level := level, place := .ordinary } =
      (n.form { style with level := level, place := .ordinary }).expression :=
    fun level => Node.show_eq_expression hfamily rfl
  simp only [hrule]
  by_cases hj : n.kind = .joinedStr
  · obtain ⟨kind, line, fields⟩ := n
    obtain rfl : kind = .joinedStr := hj
    exact Loose.const fun level =>
      hready.joined_level hpart { style with level := .test, place := .ordinary } level
  · by_cases hf : n.kind = .formattedValue
    · obtain ⟨kind, line, fields⟩ := n
      obtain rfl : kind = .formattedValue := hf
      exact Loose.const fun level =>
        hready.replacement_level hpart { style with level := .test, place := .ordinary } level
    · exact Form.loose_expression (n.form { style with place := .ordinary }) hfamily hj hf

end ArchLint.Syntax
