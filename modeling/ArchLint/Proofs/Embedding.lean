import ArchLint.Proofs.Brackets
import ArchLint.Proofs.Decoding
import ArchLint.Proofs.Faults

/-!
# Signals of embedded tests

A test that stands inside a larger one is printed there as it is printed alone, brackets apart.  So
a word that tells something about the part is found in the whole as well, in lower case too, and
what is read off a test by looking for words is read off every test around it.

* `Text.infix_lowerFrom_iff`: **a word without a sigma is found in lower case letter by letter**.
* `Node.exists_stretch_of_at?`: **what stands in an expression stands in its text**, formatted texts
  apart.
* `Node.embeds`: the text of a part, out of its brackets, stands in the text of the whole.
* `signals_survive_embedding`: **a test gives every signal that a part of it gives**.
-/

namespace ArchLint

open ArchLint.Syntax (Kind Node Value Position Piece Style Place Sound Writes Ready)
open ArchLint.Text (Letter Letters)

/-! ## Lower case letter by letter -/

namespace Text

/-- The lower-case form of a character, whatever stands around it. -/
def lowerAlone (c : Char) : List Char :=
  if c = 'Σ' then ['σ'] else lowerChar c

/-- One form for the two small sigmas. -/
def oneSigma (c : Char) : Char :=
  if c = 'ς' then 'σ' else c

theorem map_oneSigma_lowerFrom (after : Bool) (xs : List Char) :
    (lowerFrom after xs).map oneSigma = (xs.flatMap lowerAlone).map oneSigma := by
  induction xs generalizing after with
  | nil => rfl
  | cons c rest ih =>
    rw [lowerFrom, List.flatMap_cons, List.map_append, List.map_append, ih]
    refine congrArg (· ++ _) ?_
    -- only the large sigma looks at what stands around it
    by_cases hc : c = 'Σ'
    · rw [if_pos hc, lowerAlone, if_pos hc]
      split <;> rfl
    · rw [if_neg hc, lowerAlone, if_neg hc]

theorem infix_map_oneSigma {word xs : List Char} (h : 'σ' ∉ word) (h' : 'ς' ∉ word) :
    word <:+: xs.map oneSigma ↔ word <:+: xs := by
  have hfix : ∀ ys : List Char, 'ς' ∉ ys → ys.map oneSigma = ys := by
    intro ys hys
    have hid : ∀ c ∈ ys, oneSigma c = id c := by
      rintro c hc
      exact if_neg (ne_of_mem_of_not_mem hc hys)
    rw [List.map_congr_left hid, List.map_id]
  constructor
  · intro hword
    obtain ⟨ys, hys, rfl⟩ := List.infix_map_iff.mp hword
    rwa [hfix ys fun hmem => h (List.mem_map.mpr ⟨_, hmem, rfl⟩)]
  · intro hword
    rw [← hfix word h']
    exact hword.map oneSigma

/-- **A word without a sigma is found in lower case letter by letter.** -/
theorem infix_lowerFrom_iff {word xs : List Char} (h : 'σ' ∉ word) (h' : 'ς' ∉ word)
    (after : Bool) : word <:+: lowerFrom after xs ↔ word <:+: xs.flatMap lowerAlone := by
  rw [← infix_map_oneSigma h h', map_oneSigma_lowerFrom, infix_map_oneSigma h h']

theorem toList_lower (text : String) : (lower text).toList = lowerFrom false text.toList :=
  String.toList_ofList

/-! ## Texts in brackets -/

/-- The one text stands in the other, if need be out of its brackets. -/
def Embeds (part whole : List Char) : Prop :=
  ∃ inner, inner <:+: whole ∧ (part = inner ∨ part = '(' :: inner ++ [')'])

/-- A word without brackets that is found in the part is found in the whole. -/
theorem Embeds.finds {part whole word : List Char} (h : Embeds part whole) (hopen : '(' ∉ word)
    (hclose : ')' ∉ word) (hword : word <:+: part) : word <:+: whole := by
  obtain ⟨inner, hinner, rfl | rfl⟩ := h
  · exact hword.trans hinner
  · have hword : word <:+: [] ++ '(' :: (inner ++ ')' :: []) := hword
    rw [infix_append_cons hopen, infix_append_cons hclose] at hword
    rcases hword with hnil | hword | hnil
    · rw [List.infix_nil.mp hnil]
      exact List.nil_infix
    · exact hword.trans hinner
    · rw [List.infix_nil.mp hnil]
      exact List.nil_infix

theorem Embeds.lowerAlone {part whole : List Char} (h : Embeds part whole) :
    Embeds (part.flatMap Text.lowerAlone) (whole.flatMap Text.lowerAlone) := by
  obtain ⟨inner, hinner, rfl | rfl⟩ := h
  · exact ⟨_, hinner.flatMap _, Or.inl rfl⟩
  · refine ⟨_, hinner.flatMap _, Or.inr ?_⟩
    rw [List.cons_append, List.flatMap_cons, List.flatMap_append]
    rfl

end Text

/-! ## Nodes in what is printed -/

/-- Every node that is written stands in the pieces, if it is not blocked. -/
theorem Syntax.Writes.exists_stretch {style : Style} {a : Node → Prop} {pieces : List Piece}
    (h : Writes style a pieces)
    (hprints : ∀ c, a c → c.suits .ordinary = true ∧ c.Prints ∧ ¬ c.Blocked) {c : Node}
    (hmem : a c) : ∃ level place, c.standsAs place = true ∧
      c.show { style with level := level, place := place } <:+: pieces := by
  obtain ⟨segments, rfl, hnodes⟩ := h
  obtain ⟨hsuits, hc, hfree⟩ := hprints c hmem
  obtain ⟨s, hs, hnode⟩ := (hnodes c).mpr hmem
  have hstretch : s.pieces style <:+: segments.flatMap (Syntax.Segment.pieces style) :=
    List.infix_of_mem_flatten (List.mem_map.mpr ⟨s, hs, rfl⟩)
  cases s with
  | text t => exact absurd hnode (by simp [Syntax.Segment.node?])
  | child d level place hstands =>
    obtain rfl : d = c := Option.some.inj hnode
    exact ⟨level, place, hstands, hstretch⟩
  | aside d level =>
    -- a sheet of its own changes nothing in pieces that are all text
    obtain rfl : d = c := Option.some.inj hnode
    refine ⟨level, .ordinary, rfl, ?_⟩
    have hsound := hc { style with level := level, place := .ordinary } hsuits
    obtain ⟨texts, htexts⟩ := hsound.exists_texts hfree
    rw [Syntax.Segment.pieces, htexts, Sound.setAside_texts] at hstretch
    rw [htexts]
    exact hstretch

def Syntax.Node.isTemplate (n : Node) : Bool :=
  n.kind = .joinedStr || n.kind = .formattedValue

theorem Syntax.Node.blocked_of_at? {n s : Node} {p : Position} (hat : n.at? p = some s)
    (h : s.Blocked) : n.Blocked := by
  obtain ⟨q, d, hd, hobstacle⟩ := h
  refine ⟨p ++ q, d, ?_, hobstacle⟩
  rw [Node.at?_append, hat]
  exact hd

theorem Syntax.Node.not_blocked_child {n c : Node} (h : ¬ n.Blocked) (hc : c ∈ n.children) :
    ¬ c.Blocked :=
  fun hblocked => h (Node.blocked_iff.mpr (Or.inr ⟨c, hc, hblocked⟩))

/-- A child of an expression is printed in it, formatted texts apart. -/
theorem Syntax.Node.exists_stretch_child {n c : Node} (h : n.isWellFormed = true)
    (hfree : ¬ n.Blocked) (ht : n.isTemplate = false) {style : Style}
    (hstands : n.standsAs style.place = true) (hshows : n.Shows c) (hp : n.suits .ordinary = true) :
    ∃ level place, c.standsAs place = true ∧
      c.show { style with level := level, place := place } <:+: n.show style := by
  have hready := Node.ready h
  have hconstant : n.kind ≠ .constant := by
    intro hk
    rw [Node.Shows, hk] at hshows
    exact hshows
  have hcomposed : n.kind.isComposed = true := by
    rw [Node.isTemplate, Bool.or_eq_false_iff, decide_eq_false_iff_not,
      decide_eq_false_iff_not] at ht
    rw [Node.suits] at hp
    simp [Kind.isComposed, hp, hconstant, ht]
  refine (hready.writes_show hstands hcomposed).exists_stretch (fun d hd => ?_) hshows
  obtain ⟨hchild, hsuits⟩ := hready.of_shows hd
  exact ⟨hsuits, hready.prints d hchild, Node.not_blocked_child hfree hchild⟩

theorem Syntax.Kind.not_isOperator {kind : Kind}
    (h : kind.family.any Syntax.Family.isPrinted = true) :
    ¬ kind.family.any Syntax.Family.isOperator = true := by
  cases hfamily : kind.family with
  | none => simp
  | some family => cases family <;> simp_all [Syntax.Family.isPrinted, Syntax.Family.isOperator]

/-- Nothing stands in an operator but itself. -/
theorem Syntax.Node.eq_of_at?_operator {n s : Node} {p : Position} (h : n.isProper = true)
    (ho : n.kind.family.any Syntax.Family.isOperator = true) (hat : n.at? p = some s) : s = n := by
  cases p with
  | nil => exact (Option.some.inj hat).symm
  | cons i p =>
    rw [Node.at?, Node.children_eq h, (Kind.shapes_of_isOperator ho).1] at hat
    exact absurd hat (by simp)

/-- **What stands in an expression stands in its text**, formatted texts apart. -/
theorem Syntax.Node.exists_stretch_of_at? {e s : Node} {p : Position} (h : e.isWellFormed = true)
    (hfree : ¬ e.Blocked) (hp : e.suits .ordinary = true) (hat : e.at? p = some s)
    (hs : s.suits .ordinary = true) (hout : ∀ a ∈ e.ancestors p, a.isTemplate = false)
    {style : Style} (hstands : e.standsAs style.place = true) :
    ∃ level place, s.standsAs place = true ∧
      s.show { style with level := level, place := place } <:+: e.show style := by
  induction p generalizing e style with
  | nil =>
    obtain rfl := Option.some.inj hat
    exact ⟨style.level, style.place, hstands, List.infix_rfl⟩
  | cons i p ih =>
    rw [Node.at?] at hat
    obtain ⟨c, hi, hat⟩ := Option.bind_eq_some_iff.mp hat
    rw [Node.ancestors, hi] at hout
    have hc : c ∈ e.children := List.mem_of_getElem? hi
    have hwhole := (Node.isWellFormed_iff.mp h).2 c hc
    rcases (Node.ready h).shows_or_isOperator hp hc with hshows | ho
    · obtain ⟨level, place, hplace, hstretch⟩ :=
        Node.exists_stretch_child h hfree (hout e List.mem_cons_self) hstands hshows hp
      obtain ⟨level', place', hplace', hstretch'⟩ :=
        ih hwhole (Node.not_blocked_child hfree hc) ((Node.ready h).of_shows hshows).2 hat
          (fun a ha => hout a (List.mem_cons_of_mem e ha))
          (show c.standsAs (Style.place { style with level := level, place := place }) = true from
            hplace)
      exact ⟨level', place', hplace', hstretch'.trans hstretch⟩
    · -- an operator holds nothing, and is no expression itself
      refine absurd ho ?_
      rw [← Node.eq_of_at?_operator (Node.isWellFormed_iff.mp hwhole).1 ho hat]
      exact Kind.not_isOperator hs

/-! ## Texts of parts -/

def Syntax.Piece.chars : Piece → List Char
  | .text t => t.map Letter.shown
  | _ => []

def Syntax.Node.chars (n : Node) : List Char :=
  (n.show {}).flatMap Piece.chars

theorem Syntax.Node.not_blocked_of_print {n : Node} {text : String} (h : n.isWellFormed = true)
    (hfamily : n.kind.family = some .expression) (hprint : (Value.node n).print = .ok text) :
    ¬ n.Blocked :=
  (Node.print_answers h hfamily).exists_ok_iff.mp ⟨text, hprint⟩

theorem Syntax.Node.print_eq_chars {n : Node} (h : n.isWellFormed = true)
    (hfamily : n.kind.family = some .expression) (hfree : ¬ n.Blocked) :
    (Value.node n).print = .ok (String.ofList n.chars) := by
  obtain ⟨texts, htexts⟩ :=
    (Node.prints h {} (by rw [Node.suits, hfamily]; rfl)).exists_texts hfree
  rw [Value.print_node, Node.print, Node.chars, htexts, Syntax.printPieces,
    Syntax.assemble_map_text]
  change Except.ok (String.ofList (texts.flatten.map Letter.shown)) = _
  rw [List.flatMap_map, List.map_flatten]
  rfl

theorem Syntax.flatMap_chars_bracketed (pieces : List Piece) :
    (Syntax.bracketed pieces).flatMap Piece.chars =
      '(' :: pieces.flatMap Piece.chars ++ [')'] := by
  rw [Syntax.bracketed, List.cons_append, List.flatMap_cons, List.flatMap_append]
  rfl

theorem Syntax.Node.eq_ordinary_of_standsAs {s : Node} {place : Place}
    (hs : s.kind.family = some .expression) (h : s.standsAs place = true) : place = .ordinary := by
  have harg : ¬ s.kind = .arg := by
    intro hk
    rw [hk] at hs
    exact absurd hs (by decide)
  cases place with
  | ordinary => rfl
  | rest | namedRest => exact absurd (of_decide_eq_true h) harg
  | part | elseIf => exact absurd h Bool.false_ne_true

/-- **The text of a part, out of its brackets, stands in the text of the whole.** -/
theorem Syntax.Node.embeds {e s : Node} {p : Position} (h : e.isWellFormed = true)
    (hfree : ¬ e.Blocked) (he : e.kind.family = some .expression) (hat : e.at? p = some s)
    (hs : s.kind.family = some .expression) (hout : ∀ a ∈ e.ancestors p, a.isTemplate = false) :
    Text.Embeds s.chars e.chars := by
  have hprinted : ∀ {n : Node}, n.kind.family = some .expression → n.suits .ordinary = true := by
    intro n hn
    rw [Node.suits, hn]
    rfl
  obtain ⟨level, place, hplace, hstretch⟩ :=
    Node.exists_stretch_of_at? h hfree (hprinted he) hat (hprinted hs) hout
      (rfl : e.standsAs (Style.place {}) = true)
  obtain rfl := Node.eq_ordinary_of_standsAs hs hplace
  obtain ⟨core, hcore⟩ := Node.loose_show (Node.isWellFormed_of_at? h hat) hs {}
  have hwithin : core <:+: e.show {} := by
    refine List.IsInfix.trans ?_ hstretch
    dsimp only at hcore
    rcases hcore level with heq | heq
    · rw [heq]
    · rw [heq]
      exact ⟨[.str "("], [.str ")"], rfl⟩
  refine ⟨core.flatMap Piece.chars, hwithin.flatMap Piece.chars, ?_⟩
  rcases hcore .test with heq | heq
  · exact Or.inl (congrArg _ heq)
  · exact Or.inr ((congrArg _ heq).trans (Syntax.flatMap_chars_bracketed core))

/-! ## Signals -/

namespace Rule.Conditional

theorem boundaryWords_spelling :
    ∀ word ∈ ["error", "exception", "none", "empty", "exists"],
      'σ' ∉ word.toList ∧ 'ς' ∉ word.toList ∧ '(' ∉ word.toList ∧ ')' ∉ word.toList := by
  decide

theorem lazyWords_spelling :
    ∀ word ∈ ["_cache is None", "_initialized", "not self._", "self._ is None"],
      '(' ∉ word.toList ∧ ')' ∉ word.toList := by
  decide

theorem suggestsBoundary_of_embeds {part whole : Conditional}
    (h : Text.Embeds part.test.toList whole.test.toList) (hpart : part.suggestsBoundary = true) :
    whole.suggestsBoundary = true := by
  rw [suggestsBoundary, Text.holdsAny_iff] at hpart ⊢
  obtain ⟨word, hword, hheld⟩ := hpart
  obtain ⟨hsigma, hlast, hopen, hclose⟩ := boundaryWords_spelling word hword
  refine ⟨word, hword, ?_⟩
  rw [Text.toList_lower, Text.infix_lowerFrom_iff hsigma hlast] at hheld ⊢
  exact h.lowerAlone.finds hopen hclose hheld

theorem isLazyInitialization_of_embeds {part whole : Conditional}
    (h : Text.Embeds part.test.toList whole.test.toList)
    (hpart : part.isLazyInitialization = true) : whole.isLazyInitialization = true := by
  rw [isLazyInitialization, Text.holdsAny_iff] at hpart ⊢
  obtain ⟨word, hword, hheld⟩ := hpart
  obtain ⟨hopen, hclose⟩ := lazyWords_spelling word hword
  exact ⟨word, hword, h.finds hopen hclose hheld⟩

theorem kind_ne_businessLogic {c : Conditional} (h : c.suggestsBoundary = true) :
    c.kind ≠ .businessLogic := by
  rw [kind_eq, h]
  split
  · decide
  · split
    · decide
    · split <;> decide

theorem exists_ofNode {n e : Node} (hk : n.kind = .ifStmt) (hget : n.get? .test = some (.node e))
    (he : e.isWellFormed = true) (hfamily : e.kind.family = some .expression) (hfree : ¬ e.Blocked)
    (parent : Option String) (depth : Int) :
    ∃ c, ofNode Value.print n parent depth = .ok c ∧ c.test.toList = e.chars := by
  obtain ⟨name, hname⟩ := Node.exists_name he
  have htest : testText Value.print n = .ok (String.ofList e.chars) := by
    rw [testText, hget]
    exact Node.print_eq_chars he hfamily hfree
  have hsummary : ∃ summary, n.summary = .ok summary := by
    obtain ⟨kind, line, fields⟩ := n
    obtain rfl : kind = .ifStmt := hk
    have hlookup : fields.lookup .test = some (.node e) := hget
    have hthrough : Node.name (.mk .ifStmt line fields) = .ok name := by
      rw [Node.name, Syntax.nameThrough_eq, hlookup]
      exact hname
    rw [Node.summary, hthrough]
    exact ⟨_, rfl⟩
  obtain ⟨summary, hsummary⟩ := hsummary
  refine ⟨⟨String.ofList e.chars, summary, parent, depth⟩, ?_, String.toList_ofList⟩
  rw [ofNode, htest, hsummary]

end Rule.Conditional

/-- The constant for nothing is printed as its name, perhaps after a mark. -/
theorem Syntax.Node.none_infix_chars {s : Node} (h : s.isWellFormed = true)
    (hk : s.kind = .constant) (hvalue : s.get? .value = some .null) :
    "None".toList <:+: s.chars := by
  have hready : Ready .constant s := hk ▸ Node.ready h
  have hslot : s.slot .value = .other .none := by
    rw [Node.slot, Node.field, hvalue]
    rfl
  obtain ⟨kind, line, fields⟩ := s
  obtain rfl : kind = .constant := hk
  rw [Node.chars, Node.show_eq]
  change _ <:+: ((Node.form (.mk .constant line fields) {}).constant ++ []).flatMap Piece.chars
  rw [List.append_nil, Syntax.Form.constant, hready.need_eq rfl, hslot]
  dsimp only
  rw [hready.need_eq rfl, List.flatMap_append]
  exact (List.suffix_append _ _).isInfix

/-- A test that mentions the constant for nothing tells of something that may be missing. -/
theorem Rule.Conditional.suggestsBoundary_of_none {c : Rule.Conditional}
    (h : "None".toList <:+: c.test.toList) : c.suggestsBoundary = true := by
  have hlower : "none".toList <:+: c.test.toList.flatMap Text.lowerAlone :=
    h.flatMap Text.lowerAlone
  rw [suggestsBoundary, Text.holdsAny_iff]
  refine ⟨"none", by decide, ?_⟩
  rwa [Text.toList_lower, Text.infix_lowerFrom_iff (by decide) (by decide)]

/-- **A test gives every signal that a part of it gives**: one that tells of something that may be
missing, or asks if something was set already, does so inside every larger test that prints,
formatted texts apart.  A test that mentions the constant for nothing is never business logic. -/
theorem signals_survive_embedding (e s n m : Node) (p : Position)
    (he : e.isWellFormed = true ∧ e.kind.family = some .expression)
    (hprint : ∃ text, (Value.node e).print = .ok text)
    (hat : e.at? p = some s) (hs : s.kind.family = some .expression)
    (hout : ∀ a ∈ e.ancestors p, a.isTemplate = false)
    (hn : n.kind = .ifStmt ∧ n.get? .test = some (.node e))
    (hm : m.kind = .ifStmt ∧ m.get? .test = some (.node s)) (parent parent' : Option String)
    (depth depth' : Int) :
    ∃ whole part, Rule.Conditional.ofNode Value.print n parent depth = .ok whole ∧
      Rule.Conditional.ofNode Value.print m parent' depth' = .ok part ∧
      (part.suggestsBoundary = true → whole.suggestsBoundary = true) ∧
      (part.isLazyInitialization = true → whole.isLazyInitialization = true) ∧
      (s.kind = .constant → s.get? .value = some .null → whole.kind ≠ .businessLogic) := by
  obtain ⟨hwell, hfamily⟩ := he
  obtain ⟨text, hprint⟩ := hprint
  have hfree := Node.not_blocked_of_print hwell hfamily hprint
  have hpartWell := Node.isWellFormed_of_at? hwell hat
  have hpartFree : ¬ s.Blocked := fun hblocked => hfree (Node.blocked_of_at? hat hblocked)
  have hembeds := Node.embeds hwell hfree hfamily hat hs hout
  obtain ⟨whole, hwhole, htest⟩ :=
    Rule.Conditional.exists_ofNode hn.1 hn.2 hwell hfamily hfree parent depth
  obtain ⟨part, hpart, htest'⟩ :=
    Rule.Conditional.exists_ofNode hm.1 hm.2 hpartWell hs hpartFree parent' depth'
  rw [← htest, ← htest'] at hembeds
  refine ⟨whole, part, hwhole, hpart, Rule.Conditional.suggestsBoundary_of_embeds hembeds,
    Rule.Conditional.isLazyInitialization_of_embeds hembeds, fun hk hvalue => ?_⟩
  have hnone := Node.none_infix_chars hpartWell hk hvalue
  rw [← htest'] at hnone
  exact Rule.Conditional.kind_ne_businessLogic
    (Rule.Conditional.suggestsBoundary_of_none (hembeds.finds (by decide) (by decide) hnone))

/-- The test `self._cache is None`. -/
def cacheTest : Node :=
  .mk .compare (some 1)
    [(.left, .node (.mk .attribute (some 1)
      [(.value, .node (.mk .name (some 1) [(.id, .text "self")])), (.attr, .text "_cache")])),
     (.ops, .list [.node (.mk .isOp none [])]),
     (.comparators, .list [.node (.mk .constant (some 1) [(.value, .null)])])]

/-- The test `not (ready or self._cache is None)`. -/
def readyTest : Node :=
  .mk .unaryOp (some 1)
    [(.op, .node (.mk .notOp none [])),
     (.operand, .node (.mk .boolOp (some 1)
      [(.op, .node (.mk .orOp none [])),
       (.values, .list [.node (.mk .name (some 1) [(.id, .text "ready")]), .node cacheTest])]))]

/-- The part is lazy initialization, and so is the whole. -/
theorem signals_survive_embedding_cache :
    ∃ whole, Rule.Conditional.ofNode Value.print
        (.mk .ifStmt (some 1) [(.test, .node readyTest)]) (some "load") 1 = .ok whole ∧
      whole.suggestsBoundary = true ∧ whole.isLazyInitialization = true := by
  have hprint : (Value.node readyTest).print = .ok "not (ready or self._cache is None)" := by
    decide +kernel
  have hcache : Rule.Conditional.ofNode Value.print
      (.mk .ifStmt (some 1) [(.test, .node cacheTest)]) none 0 =
        .ok ⟨"self._cache is None", ⟨.controlFlow, 1, .text "unknown_compare"⟩, none, 0⟩ := by
    decide +kernel
  obtain ⟨whole, part, hwhole, hpart, hboundary, hlazy, _⟩ :=
    signals_survive_embedding readyTest cacheTest
      (.mk .ifStmt (some 1) [(.test, .node readyTest)])
      (.mk .ifStmt (some 1) [(.test, .node cacheTest)]) [1, 2] (by decide) ⟨_, hprint⟩ rfl rfl
      (by decide) ⟨rfl, rfl⟩ ⟨rfl, rfl⟩ (some "load") none 1 0
  rw [hcache, Except.ok.injEq] at hpart
  rw [← hpart] at hboundary hlazy
  exact ⟨whole, hwhole, hboundary (by decide +kernel), hlazy (by decide +kernel)⟩

end ArchLint
