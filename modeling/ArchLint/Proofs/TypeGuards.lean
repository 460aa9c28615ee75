import ArchLint.Proofs.Embedding
import ArchLint.Proofs.TypeChecking

/-!
# The bare name of the guard

A conditional is taken for the guard of type checkers by the text of its test.  The name of the guard
is in capitals, and every expression that is no name is printed with some other character: a
bracket, a quote, a digit, a blank or a small letter.  So the text tells the node.

* `Piece.inCapitals`, `Marked`: a text in capitals, and pieces that are more than such texts.
* `Constant.marked_spelling`: **a literal is not spelled in capitals**.
* `Ready.marked_expression`: **a rule writes more than capitals**, that of names apart.
* `Node.chars_eq_iff`: **an expression is printed as a name in capitals only if it is that name**.
-/

namespace ArchLint

open ArchLint.Syntax (Kind Node Field Value Constant Shape Piece Style Slot Form Level Ready)
open ArchLint.Text (Letter Letters)

/-! ## Capitals -/

/-- Whether a character can stand in a name in capitals. -/
def Text.isCapital (c : Char) : Bool :=
  c.isUpper || c = '_'

def Syntax.Piece.inCapitals : Piece → Bool
  | .text t => t.all fun letter => Text.isCapital letter.shown
  | _ => false

/-- Some character of the text is none of a name in capitals. -/
def Text.Marked (text : List Char) : Prop :=
  ∃ c ∈ text, Text.isCapital c = false

namespace Text.Marked

variable {text other : List Char}

theorem of_mem {c : Char} (h : c ∈ text) (hc : isCapital c = false) : Marked text :=
  ⟨c, h, hc⟩

theorem right (h : Marked other) : Marked (text ++ other) := by
  obtain ⟨c, hc, hmark⟩ := h
  exact ⟨c, List.mem_append_right _ hc, hmark⟩

end Text.Marked

namespace Syntax

/-- Some piece is more than text in capitals. -/
def Marked (pieces : List Piece) : Prop :=
  ∃ p ∈ pieces, p.inCapitals = false

theorem Piece.inCapitals_str {s : String} (h : Text.Marked s.toList) :
    (Piece.str s).inCapitals = false := by
  obtain ⟨c, hc, hmark⟩ := h
  rw [Piece.str, Piece.inCapitals, List.all_eq_false]
  refine ⟨.char c, List.mem_map_of_mem hc, ?_⟩
  rw [Letter.shown, hmark]
  exact Bool.false_ne_true

namespace Marked

variable {pieces others : List Piece}

theorem left (h : Marked pieces) : Marked (pieces ++ others) := by
  obtain ⟨p, hp, hmark⟩ := h
  exact ⟨p, List.mem_append_left _ hp, hmark⟩

theorem right (h : Marked others) : Marked (pieces ++ others) := by
  obtain ⟨p, hp, hmark⟩ := h
  exact ⟨p, List.mem_append_right _ hp, hmark⟩

theorem str {s : String} (h : Text.Marked s.toList) : Marked (.str s :: pieces) :=
  ⟨_, List.mem_cons_self, Piece.inCapitals_str h⟩

theorem opening {s : String} {c : Char} (hs : s.toList.head? = some c)
    (hc : Text.isCapital c = false) : Marked (.str s :: pieces) :=
  str (.of_mem (List.mem_of_head? hs) hc)

theorem spaced (word : String) : Marked (.str (" " ++ word ++ " ") :: pieces) := by
  refine str (.of_mem (c := ' ') ?_ (by decide))
  rw [String.toList_append, String.toList_append]
  exact List.mem_append_left _ (List.mem_append_left _ List.mem_cons_self)

theorem parens (form : Form) (level : Level) (h : Marked pieces) :
    Marked (form.parens level pieces) := by
  rw [Form.parens]
  split
  · exact opening rfl (by decide)
  · exact h

end Marked

end Syntax

/-! ## Literals -/

namespace Number.Binary64

open Text (Marked)

theorem marked_layoutDigits (digits : List Char) (point : Int) :
    Marked (layoutDigits true digits point) := by
  unfold layoutDigits
  simp only [if_true]
  split
  · split
    · exact .of_mem List.mem_cons_self (by decide)
    · split
      · exact .right (.of_mem List.mem_cons_self (by decide))
      · exact .right (.of_mem List.mem_cons_self (by decide))
  · exact .right (.of_mem List.mem_cons_self (by decide))

theorem marked_signedText (x : Binary64) :
    Marked (x.signedText ⟨true, "1e309", "(1e309-1e309)"⟩) := by
  refine .right ?_
  cases x with
  | nan => exact .of_mem List.mem_cons_self (by decide)
  | infinite negative => exact .of_mem List.mem_cons_self (by decide)
  | finite negative m e =>
    rw [magnitudeText]
    split
    · exact .of_mem List.mem_cons_self (by decide)
    · exact marked_layoutDigits _ _

theorem marked_complexText (spelling : Spelling) (re im : Binary64) :
    Marked (complexText spelling re im) := by
  rw [complexText]
  split
  · exact .right (.of_mem List.mem_cons_self (by decide))
  · exact .right (.of_mem List.mem_cons_self (by decide))

end Number.Binary64

namespace Text

theorem isCapital_of_isDigit {c : Char} (h : c.isDigit = true) : isCapital c = false := by
  rw [isCapital, Bool.or_eq_false_iff]
  constructor
  · have hupper : c.isUpper = decide ('A'.val ≤ c.val ∧ c.val ≤ 'Z'.val) := rfl
    have hnine : '9'.val.toNat = 57 := rfl
    have hfirst : 'A'.val.toNat = 65 := rfl
    simp only [Char.isDigit, Bool.and_eq_true, decide_eq_true_eq, ge_iff_le,
      UInt32.le_iff_toNat_le] at h
    rw [hupper, decide_eq_false_iff_not, UInt32.le_iff_toNat_le]
    omega
  · refine decide_eq_false ?_
    rintro rfl
    exact absurd h (by decide)

theorem marked_digits (n : Nat) : Marked n.repr.toList := by
  have hdigits : n.repr.toList = Nat.toDigits 10 n := String.toList_ofList
  obtain ⟨c, rest, hcons⟩ := List.exists_cons_of_ne_nil (Nat.toDigits_ne_nil (n := n) (b := 10))
  have hmem : c ∈ Nat.toDigits 10 n := by rw [hcons]; exact List.mem_cons_self
  rw [hdigits]
  exact .of_mem hmem
    (isCapital_of_isDigit (Nat.isDigit_of_mem_toDigits (by decide) (by decide) hmem))

theorem marked_integer (n : Int) : Marked (toString n).toList := by
  have hrepr : toString n = n.repr := rfl
  rw [hrepr, Int.repr_eq_if]
  split
  · exact marked_digits _
  · rw [String.toList_append]
    exact .right (marked_digits _)

theorem isCapital_bestQuote (text : List Char) : isCapital (bestQuote text) = false := by
  rw [bestQuote]
  split <;> decide

theorem marked_quoteLetters (t : Letters) : Marked (quoteLetters t).toList := by
  rw [quoteLetters, String.toList_ofList]
  exact .of_mem List.mem_cons_self (isCapital_bestQuote _)

theorem marked_quoteBytes (bytes : List UInt8) : Marked (quoteBytes bytes).toList := by
  rw [quoteBytes, String.toList_ofList]
  exact .of_mem List.mem_cons_self (by decide)

end Text

/-- **A literal is not spelled in capitals.** -/
theorem Syntax.Constant.marked_spelling (c : Constant) : Text.Marked c.spelling.toList := by
  cases c with
  | text t => exact Text.marked_quoteLetters t
  | bytes b => exact Text.marked_quoteBytes b
  | int n => exact Text.marked_integer n
  | float x =>
    rw [spelling, spellWith, String.toList_ofList]
    exact Number.Binary64.marked_signedText x
  | complex re im =>
    rw [spelling, spellWith, String.toList_ofList]
    exact Number.Binary64.marked_complexText _ re im
  | bool b => cases b <;> exact .of_mem (c := 'e') (by decide) (by decide)
  | none => exact .of_mem (c := 'o') (by decide) (by decide)
  | ellipsis => exact .of_mem (c := 'l') (by decide) (by decide)

/-! ## Rules -/

namespace Syntax

theorem Kind.marked_unaryOperator {kind : Kind} {spelling : String} {level : Level}
    (h : kind.unaryOperator? = some (spelling, level)) : Text.Marked spelling.toList := by
  have hall : ∀ entry ∈ kind.unaryOperator?, entry.1.toList.all Text.isCapital = false := by
    cases kind with
    | other given => simp [Kind.unaryOperator?]
    | _ => decide
  obtain ⟨c, hc, hmark⟩ := List.all_eq_false.mp (hall _ h)
  exact .of_mem hc (Bool.eq_false_iff.mpr hmark)

theorem Form.marked_wordAnd (form : Form) (level : Level) {word : String} {c : Char}
    (hword : word.toList.head? = some c) (hc : Text.isCapital c = false) :
    Marked (form.wordAnd level word) :=
  Marked.parens _ _ (Marked.opening hword hc)

theorem Form.marked_lambda (form : Form) : Marked form.lambda :=
  Marked.parens _ _ (Marked.opening rfl (by decide))

namespace Ready

variable {n : Node}

theorem marked_connective (h : Ready .boolOp n) (style : Style) :
    Marked (n.form style).connective := by
  obtain ⟨⟨spelling, level⟩, hop⟩ := h.operator .op rfl fun k => k.isSome_operator.2.2.1
  obtain ⟨items, hitems, _, hlength⟩ := h.many .values rfl rfl
  have htwo : 2 ≤ items.length := by
    have hsound := Node.isSound_of_isProper h.proper
    rw [Node.isSound, h.kind_eq] at hsound
    rw [hlength]
    exact of_decide_eq_true hsound
  refine h.need rfl ?_
  rw [hop]
  refine Marked.parens _ _ (h.need rfl ?_)
  rw [hitems]
  rcases items with _ | ⟨first, _ | ⟨second, rest⟩⟩
  · exact absurd htwo (by simp)
  · exact absurd htwo (by simp)
  · -- there is a blank between the first operand and the second
    exact Marked.right (Marked.spaced spelling)

theorem marked_unary (h : Ready .unaryOp n) (style : Style) : Marked (n.form style).unary := by
  obtain ⟨⟨spelling, level⟩, hop⟩ := h.operator .op rfl fun k => k.isSome_operator.2.1
  obtain ⟨kind, _, hkind⟩ := Option.bind_eq_some_iff.mp hop
  refine h.need rfl ?_
  rw [hop]
  exact Marked.parens _ _ (Marked.str (Kind.marked_unaryOperator hkind))

theorem marked_binary (h : Ready .binOp n) (style : Style) : Marked (n.form style).binary := by
  obtain ⟨⟨spelling, level⟩, hop⟩ := h.operator .op rfl fun k => k.isSome_operator.1
  refine h.need rfl ?_
  rw [hop]
  exact Marked.parens _ _ (h.need rfl (Marked.right (Marked.spaced spelling)))

theorem marked_comparison (h : Ready .compare n) (style : Style) :
    Marked (n.form style).comparison := by
  obtain ⟨operands, hoperands, _, hcount⟩ := h.many .comparators rfl rfl
  obtain ⟨ops, hops, _, hfamily, hlength⟩ := h.nodes .ops rfl
  have hsound := Node.isSound_of_isProper h.proper
  rw [Node.isSound, h.kind_eq] at hsound
  obtain ⟨hone, hsizes⟩ := Bool.and_eq_true_iff.mp hsound
  have hone : 1 ≤ ops.length := hlength ▸ of_decide_eq_true hone
  have hsizes : ops.length = operands.length := by
    rw [hlength, hcount]
    exact of_decide_eq_true hsizes
  refine Marked.parens _ _ (h.need rfl (h.need rfl ?_))
  rw [hoperands]
  refine Marked.right (h.need rfl ?_)
  rw [hops]
  obtain ⟨op, more, rfl⟩ := List.exists_cons_of_length_pos hone
  obtain ⟨operand, rest, rfl⟩ := List.exists_cons_of_length_pos (hsizes ▸ hone)
  obtain ⟨spelling, hspelling⟩ := Option.isSome_iff_exists.mp
    (op.kind.isSome_operator.2.2.2 (hfamily op List.mem_cons_self).2)
  have hkind : (Slot.node op op.show).kind?.bind Kind.comparison? = some spelling := hspelling
  change Marked (Form.comparisons _ _)
  rw [List.map_cons, List.zip_cons_cons, Form.comparisons, hkind]
  exact Marked.left (Marked.spaced spelling)

theorem marked_constant (h : Ready .constant n) {style : Style} (hplain : style.plain = false) :
    Marked (n.form style).constant := by
  obtain ⟨c, hc, _⟩ := h.literal
  have hstyle : (n.form style).style.plain = false := hplain
  have hspelled : ((n.form style).spelled (.other c)).inCapitals = false := by
    cases c with
    | text t =>
      rw [Form.spelled, hstyle]
      exact Piece.inCapitals_str (Constant.marked_spelling (.text t))
    | _ =>
      unfold Form.spelled
      dsimp only
      split
      · rfl
      · exact Piece.inCapitals_str (Constant.marked_spelling _)
  refine h.need rfl ?_
  rw [hc]
  split
  · exact Marked.opening rfl (by decide)
  · refine h.need rfl (Marked.right ⟨_, List.mem_singleton_self _, hspelled⟩)

theorem marked_tuple (h : Ready .tuple n) {style : Style} (hlevel : style.level = .test) :
    Marked (n.form style).tuple := by
  obtain ⟨items, hitems, _, _⟩ := h.many .elts rfl rfl
  refine h.need rfl ?_
  rw [hitems]
  have habove : (n.form style).style.level.above .tuple = true := by
    change style.level.above .tuple = true
    rw [hlevel]
    rfl
  change Marked (if items.isEmpty || (n.form style).style.level.above .tuple then _ else _)
  rw [habove, Bool.or_true, if_pos rfl]
  exact Marked.opening rfl (by decide)

/-- **A rule writes more than capitals**, that of names apart. -/
theorem marked_expression (h : Ready n.kind n) (hfamily : n.kind.family = some .expression)
    (hname : n.kind ≠ .name) : Marked (n.form {}).expression := by
  obtain ⟨kind, line, fields⟩ := n
  have hfamily : kind.family = some .expression := hfamily
  cases kind with
  | boolOp => exact h.marked_connective {}
  | unaryOp => exact h.marked_unary {}
  | binOp => exact h.marked_binary {}
  | compare => exact h.marked_comparison {}
  | constant => exact h.marked_constant rfl
  | tuple => exact h.marked_tuple rfl
  | name => exact absurd rfl hname
  | namedExpr =>
    refine Marked.parens _ _ (h.need rfl (h.need rfl (Marked.right ?_)))
    exact Marked.opening rfl (by decide)
  | ifExpr =>
    refine Marked.parens _ _ (h.need rfl (h.need rfl (Marked.left (Marked.right ?_))))
    exact Marked.opening rfl (by decide)
  | await => exact Form.marked_wordAnd _ _ rfl (by decide)
  | yield => exact Form.marked_wordAnd _ _ rfl (by decide)
  | yieldFrom => exact Marked.parens _ _ (Marked.opening rfl (by decide))
  | lambdaExpr => exact Form.marked_lambda _
  | «attribute» => exact h.need rfl (Marked.right (Marked.opening rfl (by decide)))
  | subscript => exact h.need rfl (Marked.right (Marked.opening rfl (by decide)))
  | call => exact h.need rfl (Marked.right (Marked.opening rfl (by decide)))
  | slice => exact Marked.left (Marked.right (Marked.opening rfl (by decide)))
  | set =>
    refine h.need rfl ?_
    split
    · exact Marked.opening rfl (by decide)
    · exact Marked.opening rfl (by decide)
  | starred | list | dict | listComp | setComp | generatorExp | dictComp | joinedStr
  | formattedValue => exact Marked.opening rfl (by decide)
  | _ => exact absurd hfamily (by simp [Kind.family])

end Ready

/-! ## Names in capitals -/

/-- A text is read off its letters, unless it holds the stand-in. -/
theorem eq_ofString_of_shown {t : Letters} {text : String} (hreal : '\ufffd' ∉ text.toList)
    (h : t.map Letter.shown = text.toList) : t = Letters.ofString text := by
  have hletters : ∀ letter ∈ t, letter = .char letter.shown := by
    intro letter hletter
    cases letter with
    | char c => rfl
    | half code =>
      refine absurd ?_ hreal
      rw [← h]
      exact List.mem_map_of_mem hletter
  calc t = t.map fun letter => .char letter.shown := by
        rw [← List.map_congr_left hletters, List.map_id']
    _ = Letters.ofString text := by
        rw [Letters.ofString, Letters.ofChars, ← h, List.map_map]
        rfl

theorem Node.kind_eq_name {n : Node} (h : n.isWellFormed = true)
    (hfamily : n.kind.family = some .expression) (hfree : ¬ n.Blocked)
    (hcapitals : ∀ c ∈ n.chars, Text.isCapital c = true) : n.kind = .name := by
  by_contra hname
  obtain ⟨texts, htexts⟩ :=
    (Node.prints h {} (by rw [Node.suits, hfamily]; rfl)).exists_texts hfree
  obtain ⟨p, hp, hmark⟩ := (Node.ready h).marked_expression hfamily hname
  rw [← Node.show_eq_expression hfamily rfl, htexts] at hp
  obtain ⟨t, ht, rfl⟩ := List.mem_map.mp hp
  rw [Piece.inCapitals, List.all_eq_false] at hmark
  obtain ⟨letter, hletter, hlow⟩ := hmark
  refine hlow (hcapitals _ ?_)
  rw [Node.chars, htexts]
  exact List.mem_flatMap.mpr ⟨_, List.mem_map_of_mem ht, List.mem_map_of_mem hletter⟩

theorem Node.chars_name {n : Node} (h : n.isWellFormed = true) (hk : n.kind = .name) :
    ∃ t, n.get? .id = some (.constant (.text t)) ∧ n.chars = t.map Letter.shown := by
  have hready : Ready .name n := hk ▸ Node.ready h
  have hshape : (Field.id, Shape.text) ∈ n.kind.shapes := by
    rw [hk]
    exact Kind.mem_shapes rfl
  have hget := Node.get?_of_required hready.proper hshape (by rw [hk]; rfl)
  obtain ⟨t, ht⟩ :=
    Value.eq_text_of_text? (hready.fits (rfl : Kind.name.shape? .id = some .text))
  refine ⟨t, by rw [hget, ht], ?_⟩
  have hslot : n.slot .id = .other (.text t) := by rw [Node.slot, ht, Value.slot]
  obtain ⟨kind, line, fields⟩ := n
  obtain rfl : kind = .name := hk
  rw [Node.chars, Node.show_eq_expression rfl rfl]
  change ((Node.form (.mk .name line fields) {}).need .id _).flatMap Piece.chars = _
  rw [hready.need_eq rfl, hslot]
  exact List.append_nil _

/-- **An expression is printed as a name in capitals only if it is that name.** -/
theorem Node.chars_eq_iff {n : Node} {text : String} (h : n.isWellFormed = true)
    (hfamily : n.kind.family = some .expression) (hfree : ¬ n.Blocked)
    (hcapitals : text.toList.all Text.isCapital = true) :
    n.chars = text.toList ↔ n.kind = .name ∧ n.get? .id = some (.text text) := by
  have hall := List.all_eq_true.mp hcapitals
  have hreal : '\ufffd' ∉ text.toList := fun hmem => absurd (hall _ hmem) (by decide)
  constructor
  · intro hchars
    have hk := Node.kind_eq_name h hfamily hfree (hchars ▸ hall)
    obtain ⟨t, hget, ht⟩ := Node.chars_name h hk
    refine ⟨hk, ?_⟩
    rw [hget, eq_ofString_of_shown hreal (ht.symm.trans hchars)]
    rfl
  · rintro ⟨hk, hid⟩
    obtain ⟨t, hget, ht⟩ := Node.chars_name h hk
    rw [hid, Value.text, Option.some.injEq, Value.constant.injEq, Constant.text.injEq] at hget
    rw [ht, ← hget]
    exact Letters.map_shown_ofChars text.toList

end Syntax

/-- A guard of type checkers is told by the text of the test alone. -/
theorem Rule.Conditional.kind_eq_typeGuard (c : Rule.Conditional) :
    c.kind = .typeGuard ↔ c.test = typeCheckingName := by
  rw [kind_eq, isTypeChecking, ← typeCheckingName]
  by_cases htest : c.test = typeCheckingName
  · simp [htest]
  · simp only [beq_false_of_ne htest, htest, Bool.false_eq_true, if_false, iff_false]
    split_ifs <;> decide

/-- **The guard of type checkers is exactly the bare name.**  A conditional on a well-formed
expression that prints is a guard if and only if the expression is the name itself, whatever stands
around it; no access, no negation and no compound test is one. -/
theorem type_guard_iff_bare_name (n e : Node)
    (hn : n.kind = .ifStmt ∧ n.get? .test = some (.node e))
    (he : e.isWellFormed = true ∧ e.kind.family = some .expression)
    (hprint : ∃ text, (Value.node e).print = .ok text) (parent : Option String) (depth : Int) :
    ∃ c, Rule.Conditional.ofNode Value.print n parent depth = .ok c ∧
      (c.kind = .typeGuard ↔ e.kind = .name ∧ e.get? .id = some (.text typeCheckingName)) := by
  obtain ⟨hwell, hfamily⟩ := he
  obtain ⟨text, hprint⟩ := hprint
  have hfree := Node.not_blocked_of_print hwell hfamily hprint
  obtain ⟨c, hc, htest⟩ :=
    Rule.Conditional.exists_ofNode hn.1 hn.2 hwell hfamily hfree parent depth
  refine ⟨c, hc, ?_⟩
  rw [Rule.Conditional.kind_eq_typeGuard, ← String.toList_inj, htest]
  exact Node.chars_eq_iff hwell hfamily hfree (by decide)

/-- The test `TYPE_CHECKING`. -/
def bareGuard : Node :=
  .mk .name (some 1) [(.id, .text typeCheckingName)]

/-- The test `typing.TYPE_CHECKING`. -/
def qualifiedGuard : Node :=
  .mk .attribute (some 1)
    [(.value, .node (.mk .name (some 1) [(.id, .text "typing")])),
     (.attr, .text typeCheckingName)]

/-- The bare name is a guard even in a validation, the qualified one is none. -/
theorem type_guard_iff_bare_name_qualified :
    (∃ c, Rule.Conditional.ofNode Value.print
        (.mk .ifStmt (some 1) [(.test, .node bareGuard)]) (some "validate") 2 = .ok c ∧
      c.kind = .typeGuard) ∧
    ∃ c, Rule.Conditional.ofNode Value.print
        (.mk .ifStmt (some 1) [(.test, .node qualifiedGuard)]) none 0 = .ok c ∧
      c.kind ≠ .typeGuard := by
  have hbare : (Value.node bareGuard).print = .ok "TYPE_CHECKING" := by decide +kernel
  have hqualified : (Value.node qualifiedGuard).print = .ok "typing.TYPE_CHECKING" := by
    decide +kernel
  obtain ⟨c, hc, hguard⟩ := type_guard_iff_bare_name
    (.mk .ifStmt (some 1) [(.test, .node bareGuard)]) bareGuard ⟨rfl, rfl⟩ (by decide)
    ⟨_, hbare⟩ (some "validate") 2
  obtain ⟨d, hd, hother⟩ := type_guard_iff_bare_name
    (.mk .ifStmt (some 1) [(.test, .node qualifiedGuard)]) qualifiedGuard ⟨rfl, rfl⟩ (by decide)
    ⟨_, hqualified⟩ none 0
  refine ⟨⟨c, hc, hguard.mpr ⟨rfl, rfl⟩⟩, d, hd, ?_⟩
  rw [ne_eq, hother]
  exact fun h => absurd h.1 (by decide)

end ArchLint
