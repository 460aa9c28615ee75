import ArchLint.Proofs.Printing

/-!
# What the rules write

One lemma for each rule that prints nodes inside a node: it writes texts and the nodes of the
printed fields, every node in one stretch, and nothing else.  What is to be known of the printed
text follows from that, whatever the class.

* `Segment`, `Writes`: a text or a whole node, and pieces that are made of such segments.
* `Ready.binary`, `Ready.call`, `Ready.lambda` and so on: **a rule writes the printed fields**.
* `Writes.sound`: pieces made of nodes that print stop exactly when one of the nodes is blocked.
-/

namespace ArchLint.Syntax

open ArchLint.Text (Letter Letters)

/-! ## Segments -/

/-- Whether a node can be printed inside another as the place says: as itself, or as a parameter
with stars. -/
def Node.standsAs (c : Node) : Place → Bool
  | .ordinary => true
  | .rest | .namedRest => c.kind = .arg
  | .part | .elseIf => false

/-- A stretch of what a rule writes. -/
inductive Segment where
  | text (t : Letters)
  | child (c : Node) (level : Level) (place : Place) (h : c.standsAs place = true)
  | aside (c : Node) (level : Level)

namespace Segment

def pieces (style : Style) : Segment → List Piece
  | .text t => [.text t]
  | .child c level place _ => c.show { style with level := level, place := place }
  | .aside c level => setAside (c.show { style with level := level, place := .ordinary })

def node? : Segment → Option Node
  | .text _ => none
  | .child c _ _ _ | .aside c _ => some c

end Segment

/-- Pieces that are made of texts and of the given nodes. -/
def Writes (style : Style) (nodes : Node → Prop) (pieces : List Piece) : Prop :=
  ∃ segments : List Segment, segments.flatMap (Segment.pieces style) = pieces ∧
    ∀ c, (∃ s ∈ segments, s.node? = some c) ↔ nodes c

namespace Writes

variable {style : Style} {a b : Node → Prop} {pieces others : List Piece}

theorem nil : Writes style (fun _ => False) [] :=
  ⟨[], rfl, by simp⟩

theorem congr (h : Writes style a pieces) (hab : ∀ c, a c ↔ b c) : Writes style b pieces := by
  obtain ⟨segments, hpieces, hnodes⟩ := h
  exact ⟨segments, hpieces, fun c => (hnodes c).trans (hab c)⟩

theorem append (h : Writes style a pieces) (h' : Writes style b others) :
    Writes style (fun c => a c ∨ b c) (pieces ++ others) := by
  obtain ⟨xs, rfl, hxs⟩ := h
  obtain ⟨ys, rfl, hys⟩ := h'
  refine ⟨xs ++ ys, List.flatMap_append, fun c => ?_⟩
  change _ ↔ a c ∨ b c
  rw [← hxs, ← hys, ← exists_or]
  simp only [List.mem_append, or_and_right]

theorem quiet_append (h : Writes style (fun _ => False) pieces) (h' : Writes style a others) :
    Writes style a (pieces ++ others) :=
  (h.append h').congr fun _ => by rw [false_or]

theorem append_quiet (h : Writes style a pieces) (h' : Writes style (fun _ => False) others) :
    Writes style a (pieces ++ others) :=
  (h.append h').congr fun _ => by rw [or_false]

theorem text (t : Letters) (h : Writes style a pieces) : Writes style a (.text t :: pieces) := by
  obtain ⟨segments, rfl, hnodes⟩ := h
  refine ⟨.text t :: segments, rfl, fun c => ?_⟩
  rw [← hnodes]
  simp [Segment.node?]

theorem str (s : String) (h : Writes style a pieces) : Writes style a (.str s :: pieces) :=
  h.text (Letters.ofString s)

theorem ite {p : Prop} [Decidable p] (h : Writes style a pieces) (h' : Writes style a others) :
    Writes style a (if p then pieces else others) := by
  split
  · exact h
  · exact h'

theorem child {c : Node} {place : Place} (level : Level) (hc : c.standsAs place = true) :
    Writes style (· ∈ [c]) (c.show { style with level := level, place := place }) :=
  ⟨[.child c level place hc], List.append_nil _, by simp [Segment.node?, eq_comm]⟩

theorem aside (c : Node) (level : Level) :
    Writes style (· ∈ [c])
      (setAside (c.show { style with level := level, place := .ordinary })) :=
  ⟨[.aside c level], List.append_nil _, by simp [Segment.node?, eq_comm]⟩

theorem flatMap {α : Type} {xs : List α} {f : α → List Piece} {nodes : α → Node → Prop}
    (h : ∀ x ∈ xs, Writes style (nodes x) (f x)) :
    Writes style (fun c => ∃ x ∈ xs, nodes x c) (xs.flatMap f) := by
  induction xs with
  | nil => exact nil.congr (by simp)
  | cons x rest ih =>
    rw [List.flatMap_cons]
    refine ((h x List.mem_cons_self).append
      (ih fun y hy => h y (List.mem_cons_of_mem x hy))).congr ?_
    simp

theorem between {α : Type} {xs : List α} {f : α → List Piece} {nodes : α → Node → Prop}
    (text : String) (h : ∀ x ∈ xs, Writes style (nodes x) (f x)) :
    Writes style (fun c => ∃ x ∈ xs, nodes x c) (Form.between text (xs.map f)) := by
  induction xs with
  | nil => exact nil.congr (by simp)
  | cons x rest ih =>
    have hx := h x List.mem_cons_self
    have hrest := ih fun y hy => h y (List.mem_cons_of_mem x hy)
    cases rest with
    | nil => exact hx.congr (by simp)
    | cons y more => exact (hx.append (hrest.str text)).congr (by simp)

theorem parens (form : Form) (level : Level) (h : Writes style a pieces) :
    Writes style a (form.parens level pieces) := by
  rw [Form.parens]
  split
  · exact (h.append_quiet (nil.str ")")).str "("
  · exact h

end Writes

/-! ## Slots and fields -/

theorem Slot.IsPrinted.child {slot : Slot} (h : slot.IsPrinted) (n : Node) (style : Style)
    (level : Level) : Writes style (· ∈ slot.nodes) ((n.form style).child level slot) := by
  obtain ⟨c, rfl, _⟩ := h
  exact Writes.child level rfl

theorem Slot.IsPrinted.inside {slot : Slot} (h : slot.IsPrinted) (n : Node) (style : Style) :
    Writes style (· ∈ slot.nodes) ((n.form style).inside slot) :=
  h.child n style .test

theorem Slot.IsPrinted.childAt {slot : Slot} (h : slot.IsPrinted) (n : Node) (style : Style)
    (level : Level) : Writes style (· ∈ slot.nodes) ((n.form style).childAt level slot) := by
  rw [Form.childAt, h.settled]
  exact h.child n style level

theorem Slot.IsPerhaps.ite {slot : Slot} {style : Style} {pieces : List Piece} (h : slot.IsPerhaps)
    (hpieces : slot.IsPrinted → Writes style (· ∈ slot.nodes) pieces) :
    Writes style (· ∈ slot.nodes) (if slot.isSet then pieces else []) := by
  rcases h with rfl | h
  · exact Writes.nil.congr (by simp [Slot.nodes])
  · rw [h.isSet]
    exact hpieces h

theorem Slot.settled_items {items : List Slot} (h : ∀ slot ∈ items, slot.IsPrinted) :
    items.flatMap Slot.settled = [] :=
  List.flatMap_eq_nil_iff.mpr fun slot hslot => (h slot hslot).settled

/-! ## Operators -/

theorem Kind.isSome_operator (kind : Kind) :
    (kind.family = some .binary → kind.binaryOperator?.isSome = true) ∧
      (kind.family = some .unary → kind.unaryOperator?.isSome = true) ∧
      (kind.family = some .connective → kind.connective?.isSome = true) ∧
      (kind.family = some .comparison → kind.comparison?.isSome = true) := by
  cases kind with
  | other given => simp [Kind.family]
  | _ => decide

theorem Node.writes_operands (n : Node) (style : Style) (spelling : String) (level : Level)
    {items : List Slot} (h : ∀ slot ∈ items, slot.IsPrinted) :
    Writes style (fun c => ∃ slot ∈ items, c ∈ slot.nodes)
      ((n.form style).operands spelling level items) := by
  fun_induction Form.operands (n.form style) spelling level items with
  | case1 => exact Writes.nil.congr (by simp)
  | case2 level last =>
    exact ((h last List.mem_cons_self).childAt n style level.next).congr (by simp)
  | case3 level first rest _ ih =>
    have hfirst := (h first List.mem_cons_self).childAt n style level.next
    have hrest := ih fun slot hslot => h slot (List.mem_cons_of_mem first hslot)
    exact (hfirst.append (hrest.str _)).congr (by simp)

theorem Node.writes_comparisons (n : Node) (style : Style) {ops : List Node} {operands : List Slot}
    (hops : ∀ c ∈ ops, c.kind.family = some .comparison) (h : ∀ slot ∈ operands, slot.IsPrinted)
    (hlength : ops.length = operands.length) :
    Writes style (fun c => ∃ slot ∈ operands, c ∈ slot.nodes)
      ((n.form style).comparisons ((ops.map fun c => Slot.node c c.show).zip operands)) := by
  induction ops generalizing operands with
  | nil =>
    rw [List.length_nil, eq_comm, List.length_eq_zero_iff] at hlength
    rw [hlength]
    exact Writes.nil.congr (by simp)
  | cons c more ih =>
    cases operands with
    | nil => exact absurd hlength (by simp)
    | cons operand rest =>
      obtain ⟨spelling, hspelling⟩ := Option.isSome_iff_exists.mp
        (c.kind.isSome_operator.2.2.2 (hops c List.mem_cons_self))
      have hrest := ih (fun d hd => hops d (List.mem_cons_of_mem c hd))
        (fun slot hslot => h slot (List.mem_cons_of_mem operand hslot)) (Nat.succ.inj hlength)
      have hoperand := (h operand List.mem_cons_self).child n style Level.cmp.next
      have hkind : (Slot.node c c.show).kind?.bind Kind.comparison? = some spelling := hspelling
      rw [List.map_cons, List.zip_cons_cons, Form.comparisons, hkind]
      exact ((hoperand.append hrest).str _).congr (by simp)

namespace Ready

variable {kind : Kind} {n : Node} {field : Field} {family : Family}

theorem operator {β : Type} {table : Kind → Option β} (h : Ready kind n) (field : Field)
    (hf : kind.shape? field = some (.one family))
    (htable : ∀ k : Kind, k.family = some family → (table k).isSome = true) :
    ∃ entry, (n.slot field).kind?.bind table = some entry := by
  obtain ⟨c, _, hslot, hfamily⟩ := h.node field hf
  obtain ⟨entry, hentry⟩ := Option.isSome_iff_exists.mp (htable c.kind hfamily)
  refine ⟨entry, ?_⟩
  rw [hslot]
  exact hentry

theorem binary (h : Ready .binOp n) (style : Style) :
    Writes style n.Shows (n.form style).binary := by
  obtain ⟨⟨spelling, level⟩, hop⟩ := h.operator .op rfl fun k => k.isSome_operator.1
  refine h.need rfl ?_
  rw [hop]
  dsimp only
  generalize (if level = .power then (level.next, level) else (level, level.next)) = levels
  refine (Writes.parens _ _ ?_).congr h.shows
  refine h.need rfl (((h.one .left rfl rfl).childAt _ _ _).append (Writes.str _ ?_))
  exact h.need rfl ((h.one .right rfl rfl).childAt _ _ _)

theorem unary (h : Ready .unaryOp n) (style : Style) :
    Writes style n.Shows (n.form style).unary := by
  obtain ⟨⟨spelling, level⟩, hop⟩ := h.operator .op rfl fun k => k.isSome_operator.2.1
  refine h.need rfl ?_
  rw [hop]
  refine (Writes.parens _ _ (Writes.str _ ?_)).congr h.shows
  have hlead : Writes style (fun _ => False) (if level = .factor then [] else [Piece.str " "]) :=
    Writes.nil.ite (Writes.nil.str " ")
  exact hlead.quiet_append (h.need rfl ((h.one .operand rfl rfl).childAt _ _ _))

theorem connective (h : Ready .boolOp n) (style : Style) :
    Writes style n.Shows (n.form style).connective := by
  obtain ⟨⟨spelling, level⟩, hop⟩ := h.operator .op rfl fun k => k.isSome_operator.2.2.1
  obtain ⟨items, hitems, hall, _⟩ := h.many .values rfl rfl
  refine h.need rfl ?_
  rw [hop]
  refine (Writes.parens _ _ (h.need rfl ?_)).congr h.shows
  refine Writes.congr ?_ (Slot.mem_nodes_items hitems hall)
  rw [hitems]
  exact n.writes_operands style spelling level hall

theorem comparison (h : Ready .compare n) (style : Style) :
    Writes style n.Shows (n.form style).comparison := by
  obtain ⟨operands, hoperands, hall, hcount⟩ := h.many .comparators rfl rfl
  obtain ⟨ops, hops, _, hfamily, hlength⟩ := h.nodes .ops rfl
  have hleft := h.one .left rfl rfl
  refine (Writes.parens _ _ (h.need rfl (h.need rfl ?_))).congr h.shows
  have hsizes : ops.length = operands.length := by
    have hsound := Node.isSound_of_isProper h.proper
    rw [Node.isSound, h.kind_eq] at hsound
    rw [hlength, hcount]
    exact of_decide_eq_true (Bool.and_eq_true_iff.mp hsound).2
  have hrest := n.writes_comparisons style (fun c hc => (hfamily c hc).2) hall hsizes
  rw [hoperands]
  change Writes _ _ ((n.slot .left).settled ++ operands.flatMap Slot.settled ++ _ ++ _)
  rw [hleft.settled, Slot.settled_items hall]
  refine (hleft.child _ _ _).append (h.need rfl ?_)
  rw [hops]
  exact hrest.congr (Slot.mem_nodes_items hoperands hall)

/-! ## Expressions with a fixed number of parts -/

theorem namedExpr (h : Ready .namedExpr n) (style : Style) :
    Writes style n.Shows (n.form style).expression := by
  obtain ⟨kind, line, fields⟩ := n
  obtain rfl : kind = .namedExpr := h.kind_eq
  have htarget := h.one .target rfl rfl
  have hvalue := h.one .value rfl rfl
  refine (Writes.parens _ _ (h.need rfl (h.need rfl ?_))).congr h.shows
  rw [htarget.settled, hvalue.settled]
  exact (htarget.child _ _ _).append ((hvalue.child _ _ _).str _)

theorem wordAnd {shape : Shape} (h : Ready kind n) (hf : kind.shape? .value = some shape)
    (hvalue : (n.slot .value).IsPerhaps) (style : Style) (level : Level) (word : String) :
    Writes style (· ∈ (n.slot .value).nodes) ((n.form style).wordAnd level word) := by
  refine Writes.parens _ _ (Writes.str _ (h.need hf ?_))
  exact hvalue.ite fun hgiven => (hgiven.childAt _ _ _).str _

theorem yieldFrom (h : Ready .yieldFrom n) (style : Style) :
    Writes style n.Shows (n.form style).expression := by
  obtain ⟨kind, line, fields⟩ := n
  obtain rfl : kind = .yieldFrom := h.kind_eq
  have hvalue := h.one .value rfl rfl
  refine (Writes.parens _ _ (Writes.str _ (h.need rfl ?_))).congr h.shows
  rw [hvalue.isSet]
  exact hvalue.childAt _ _ _

theorem ifExpr (h : Ready .ifExpr n) (style : Style) :
    Writes style n.Shows (n.form style).expression := by
  obtain ⟨kind, line, fields⟩ := n
  obtain rfl : kind = .ifExpr := h.kind_eq
  have hbody := h.one .body rfl rfl
  have htest := h.one .test rfl rfl
  -- the test is the first field, but the body is printed before it
  refine (Writes.parens _ _ (h.need rfl (h.need rfl ?_))).congr
    fun c => or_assoc.trans (or_left_comm.trans (h.shows c))
  rw [hbody.settled, htest.settled]
  refine ((hbody.child _ _ _).append ((htest.child _ _ _).str _)).append (Writes.str _ ?_)
  exact h.need rfl ((h.one .orelse rfl rfl).childAt _ _ _)

theorem text (h : Ready kind n) (field : Field) (hf : kind.shape? field = some .text) :
    ∃ t, n.slot field = .other (.text t) := by
  obtain ⟨t, ht⟩ := Value.eq_text_of_text? (h.fits hf)
  refine ⟨t, ?_⟩
  rw [Node.slot, ht, Value.slot]

theorem optionalText (h : Ready kind n) (field : Field)
    (hf : kind.shape? field = some .optionalText) :
    n.slot field = .other .none ∨ ∃ t, n.slot field = .other (.text t) := by
  rw [Node.slot]
  rcases Shape.eq_of_fits_optionalText (h.fits hf) with hnull | ⟨t, ht⟩
  · rw [hnull]
    exact Or.inl rfl
  · rw [ht]
    exact Or.inr ⟨t, rfl⟩

theorem access (h : Ready .attribute n) (style : Style) :
    Writes style n.Shows (n.form style).access := by
  obtain ⟨t, ht⟩ := h.text .attr rfl
  refine Writes.congr (h.need rfl ?_) h.shows
  have hblank : Writes style (fun _ => False)
      (if ((n.slot .value).constant?.map Constant.isInteger).getD false then [Piece.str " "]
        else []) :=
    (Writes.nil.str " ").ite Writes.nil
  have hattr : Writes style (fun _ => False)
      ((n.form style).need .attr fun attr => [attr.written]) := by
    refine h.need rfl ?_
    rw [ht]
    exact Writes.nil.text t
  exact (((h.one .value rfl rfl).childAt _ _ _).append_quiet hblank).append_quiet (hattr.str _)

theorem subscript (h : Ready .subscript n) (style : Style) :
    Writes style n.Shows (n.form style).subscript := by
  obtain ⟨c, hc, hslot, _⟩ := h.node .slice rfl
  have hslice := h.one .slice rfl rfl
  refine Writes.congr (h.need rfl (((h.one .value rfl rfl).childAt _ _ _).append
    (Writes.str _ (h.need rfl ?_)))) h.shows
  have hclose : ∀ level, Writes style (· ∈ (n.slot .slice).nodes)
      ((n.form style).child level (.node c c.show) ++ [.str "]"]) := by
    intro level
    rw [← hslot]
    exact (hslice.child _ _ level).append_quiet (Writes.nil.str _)
  rw [hslot]
  dsimp only
  by_cases htuple : c.kind = .tuple
  · have hproper := (Node.isWellFormed_iff.mp (h.whole c hc)).1
    have helts : (Field.elts, Shape.many .expression) ∈ c.kind.shapes := by
      rw [htuple]
      exact Kind.mem_shapes rfl
    rw [if_pos htuple, Node.get?_of_required hproper helts (by rw [htuple]; rfl)]
    exact hclose _
  · rw [if_neg htuple]
    exact hclose .test

theorem slice (h : Ready .slice n) (style : Style) :
    Writes style n.Shows (n.form style).expression := by
  obtain ⟨kind, line, fields⟩ := n
  obtain rfl : kind = .slice := h.kind_eq
  refine Writes.congr (Writes.append (Writes.append (h.need rfl ?_)
    (Writes.str _ (h.need rfl ?_))) (h.need rfl ?_)) fun c => or_assoc.trans (h.shows c)
  · exact (h.perhaps .lower rfl rfl).ite fun hgiven => hgiven.inside _ _
  · exact (h.perhaps .upper rfl rfl).ite fun hgiven => hgiven.inside _ _
  · exact (h.perhaps .step rfl rfl).ite fun hgiven => (hgiven.inside _ _).str _

theorem keyword (h : Ready .keyword n) (style : Style) :
    Writes style n.Shows (n.form style).expression := by
  obtain ⟨kind, line, fields⟩ := n
  obtain rfl : kind = .keyword := h.kind_eq
  refine Writes.congr (h.need rfl (Writes.quiet_append ?_ (h.need rfl ?_))) h.shows
  · rcases h.optionalText .arg rfl with hnone | ⟨t, ht⟩
    · rw [hnone]
      exact Writes.nil.str _
    · rw [ht]
      exact (Writes.nil.str _).text t
  · exact (h.one .value rfl rfl).inside _ _

theorem starred (h : Ready .starred n) (style : Style) :
    Writes style n.Shows (n.form style).expression := by
  obtain ⟨kind, line, fields⟩ := n
  obtain rfl : kind = .starred := h.kind_eq
  refine (Writes.str _ (h.need rfl ?_)).congr h.shows
  exact (h.one .value rfl rfl).childAt _ _ _

theorem name (h : Ready .name n) (style : Style) :
    Writes style n.Shows (n.form style).expression := by
  obtain ⟨kind, line, fields⟩ := n
  obtain rfl : kind = .name := h.kind_eq
  obtain ⟨t, ht⟩ := h.text .id rfl
  refine Writes.congr (h.need rfl ?_) h.shows
  rw [ht]
  exact Writes.nil.text t

end Ready

/-! ## Expressions with lists of parts -/

theorem Node.writes_between (n : Node) (style : Style) (text : String) {items : List Slot}
    (h : ∀ slot ∈ items, slot.IsPrinted) :
    Writes style (fun c => ∃ slot ∈ items, c ∈ slot.nodes)
      (Form.between text (items.map (n.form style).inside)) :=
  Writes.between text fun slot hslot => (h slot hslot).inside n style

theorem Node.writes_tupleItems (n : Node) (style : Style) {items : List Slot}
    (h : ∀ slot ∈ items, slot.IsPrinted) :
    Writes style (fun c => ∃ slot ∈ items, c ∈ slot.nodes) ((n.form style).tupleItems items) := by
  unfold Form.tupleItems
  split
  · rename_i item
    have hitem := (h item List.mem_cons_self).inside n style
    exact (hitem.append_quiet (Writes.nil.str _)).congr (by simp)
  · exact n.writes_between style ", " h

theorem Node.writes_dictEntry (n : Node) (style : Style) {key value : Slot} (hkey : key.IsPerhaps)
    (hvalue : value.IsPrinted) :
    Writes style (fun c => c ∈ key.nodes ∨ c ∈ value.nodes)
      ((n.form style).dictEntry (key, value)) := by
  rcases hkey with rfl | hkey
  · exact ((hvalue.childAt n style .expr).str "**").congr (by simp [Slot.nodes])
  · have hinside := (hkey.inside n style).append ((hvalue.inside n style).str ": ")
    obtain ⟨c, rfl, _⟩ := hkey
    exact hinside

theorem Slot.mem_nodes_zip {xs ys : List Slot} (h : xs.length = ys.length) {c : Node} :
    (∃ pair ∈ xs.zip ys, c ∈ pair.1.nodes ∨ c ∈ pair.2.nodes) ↔
      (∃ x ∈ xs, c ∈ x.nodes) ∨ ∃ y ∈ ys, c ∈ y.nodes := by
  induction xs generalizing ys with
  | nil =>
    rw [List.length_nil, eq_comm, List.length_eq_zero_iff] at h
    simp [h]
  | cons x xs ih =>
    cases ys with
    | nil => exact absurd h (by simp)
    | cons y ys =>
      rw [List.zip_cons_cons]
      simp only [List.mem_cons, exists_eq_or_imp, ih (Nat.succ.inj h)]
      exact or_or_or_comm

namespace Ready

variable {kind : Kind} {n : Node} {field : Field} {family : Family}

theorem commas (h : Ready kind n) (field : Field) (hf : kind.shape? field = some (.many family))
    (hp : family.isPrinted = true) (style : Style) :
    Writes style (· ∈ (n.slot field).nodes) ((n.form style).commas (n.slot field)) := by
  obtain ⟨items, hitems, hall, _⟩ := h.many field hf hp
  refine Writes.congr ?_ (Slot.mem_nodes_items hitems hall)
  rw [hitems]
  exact n.writes_between style ", " hall

theorem call (h : Ready .call n) (style : Style) : Writes style n.Shows (n.form style).call := by
  obtain ⟨args, hargs, hprinted, _⟩ := h.many .args rfl rfl
  obtain ⟨named, hnamed, hprinted', _⟩ := h.many .keywords rfl rfl
  have hpositional := (n.writes_between style ", " hprinted).congr
    (Slot.mem_nodes_items hargs hprinted)
  have hkeywords := (n.writes_between style ", " hprinted').congr
    (Slot.mem_nodes_items hnamed hprinted')
  refine Writes.congr (h.need rfl (((h.one .func rfl rfl).childAt _ _ _).append
    (Writes.str _ (h.need rfl ?_)))) h.shows
  rw [hargs]
  refine hpositional.append (h.need rfl ?_)
  rw [hnamed]
  refine Writes.append_quiet (Writes.quiet_append ?_ hkeywords) (Writes.nil.str _)
  exact Writes.nil.ite (Writes.nil.str _)

theorem tuple (h : Ready .tuple n) (style : Style) :
    Writes style n.Shows (n.form style).tuple := by
  obtain ⟨items, hitems, hall, _⟩ := h.many .elts rfl rfl
  have hshown := (n.writes_tupleItems style hall).congr (Slot.mem_nodes_items hitems hall)
  refine Writes.congr (h.need rfl ?_) h.shows
  rw [hitems]
  exact Writes.ite ((hshown.str _).append_quiet (Writes.nil.str _)) hshown

theorem list (h : Ready .list n) (style : Style) :
    Writes style n.Shows (n.form style).expression := by
  obtain ⟨kind, line, fields⟩ := n
  obtain rfl : kind = .list := h.kind_eq
  refine (Writes.str _ (h.need rfl ?_)).congr h.shows
  exact (h.commas .elts rfl rfl _).append_quiet (Writes.nil.str _)

theorem set (h : Ready .set n) (style : Style) :
    Writes style n.Shows (n.form style).expression := by
  obtain ⟨kind, line, fields⟩ := n
  obtain rfl : kind = .set := h.kind_eq
  obtain ⟨items, hitems, hall, _⟩ := h.many .elts rfl rfl
  have hcommas := h.commas .elts rfl rfl style
  refine Writes.congr (h.need rfl ?_) h.shows
  cases items with
  | nil =>
    rw [hitems]
    exact (Writes.nil.str _).congr fun c =>
      (by simp : False ↔ _).trans (Slot.mem_nodes_items hitems hall c)
  | cons item rest =>
    have hset : ((Node.mk .set line fields).slot .elts).isSet = true := by rw [hitems]; rfl
    rw [hset]
    exact (hcommas.str _).append_quiet (Writes.nil.str _)

theorem dict (h : Ready .dict n) (style : Style) :
    Writes style n.Shows (n.form style).expression := by
  obtain ⟨kind, line, fields⟩ := n
  obtain rfl : kind = .dict := h.kind_eq
  obtain ⟨keys, hkeys, hall, hkeyCount⟩ := h.holes .keys rfl rfl
  obtain ⟨values, hvalues, hall', hvalueCount⟩ := h.many .values rfl rfl
  have hlength : keys.length = values.length := by
    rw [hkeyCount, hvalueCount]
    exact of_decide_eq_true (Node.isSound_of_isProper h.proper)
  have hentries := Writes.between ", " fun entry (hentry : entry ∈ keys.zip values) =>
    (Node.mk .dict line fields).writes_dictEntry style
      (hall entry.1 (List.of_mem_zip hentry).1) (hall' entry.2 (List.of_mem_zip hentry).2)
  refine (Writes.str _ (h.need rfl (h.need rfl ?_))).congr h.shows
  rw [hkeys, hvalues]
  refine (hentries.append_quiet (Writes.nil.str _)).congr fun c => ?_
  rw [Slot.mem_nodes_zip hlength, ← Slot.mem_nodes_list hall, ← hkeys,
    Slot.mem_nodes_items hvalues hall']
  rfl

/-! ## Comprehensions -/

theorem clauses (h : Ready kind n) (hf : kind.shape? .generators = some (.many .clause))
    (style : Style) : Writes style (· ∈ (n.slot .generators).nodes) (n.form style).clauses := by
  obtain ⟨items, hitems, hall, _⟩ := h.many .generators hf rfl
  refine h.need hf (Writes.congr ?_ (Slot.mem_nodes_items hitems hall))
  rw [hitems]
  exact Writes.flatMap fun slot hslot => (hall slot hslot).inside _ _

theorem comprehension (h : Ready kind n) (helt : kind.shape? .elt = some (.one .expression))
    (hgenerators : kind.shape? .generators = some (.many .clause)) (style : Style)
    (opening closing : String) :
    Writes style (fun c => c ∈ (n.slot .elt).nodes ∨ c ∈ (n.slot .generators).nodes)
      ((n.form style).comprehension opening closing) := by
  refine Writes.str _ (h.need helt (Writes.append_quiet ?_ (Writes.nil.str _)))
  exact ((h.one .elt helt rfl).inside _ _).append (h.clauses hgenerators style)

theorem dictComp (h : Ready .dictComp n) (style : Style) :
    Writes style n.Shows (n.form style).expression := by
  obtain ⟨kind, line, fields⟩ := n
  obtain rfl : kind = .dictComp := h.kind_eq
  have hkey := h.one .key rfl rfl
  have hvalue := h.one .value rfl rfl
  refine (Writes.str _ (h.need rfl ((hkey.inside _ _).append
    (Writes.str _ (h.need rfl ?_))))).congr h.shows
  exact ((hvalue.inside _ _).append (h.clauses rfl style)).append_quiet (Writes.nil.str _)

theorem comprehensionClause (h : Ready .comprehension n) (style : Style) :
    Writes style n.Shows (n.form style).comprehensionClause := by
  obtain ⟨tests, htests, hall, _⟩ := h.many .ifs rfl rfl
  have htarget := h.one .target rfl rfl
  have hiter := h.one .iter rfl rfl
  have hshown := (Writes.flatMap fun slot (hslot : slot ∈ tests) =>
    ((hall slot hslot).child n style Level.test.next).str " if ").congr
      (Slot.mem_nodes_items htests hall)
  refine Writes.congr (h.need rfl (Writes.str _ (h.need rfl ((htarget.childAt _ _ _).append
    (Writes.str _ (h.need rfl (h.need rfl ?_))))))) h.shows
  rw [htests]
  change Writes _ _ ((n.slot .iter).settled ++ tests.flatMap Slot.settled ++ _ ++ _)
  rw [hiter.settled, Slot.settled_items hall]
  exact (hiter.child _ _ _).append hshown

/-! ## Parameters -/

theorem parameter (h : Ready .arg n) (style : Style) {name : Slot → Piece}
    (hname : ∀ t, ∃ t', name (.other (.text t)) = .text t') :
    Writes style n.Shows ((n.form style).parameter name) := by
  obtain ⟨t, ht⟩ := h.text .arg rfl
  obtain ⟨t', ht'⟩ := hname t
  refine Writes.congr (h.need rfl ?_) h.shows
  rw [ht, ht']
  refine Writes.text t' (h.need rfl ?_)
  exact (h.perhaps .typeHint rfl rfl).ite fun hgiven => (hgiven.inside _ _).str _

end Ready

theorem Node.writes_parameters (n : Node) (style : Style) (positional index : Nat)
    {pairs : List (Slot × Slot)} (h : ∀ pair ∈ pairs, pair.1.IsPrinted ∧ pair.2.IsPerhaps) :
    Writes style (fun c => ∃ pair ∈ pairs, c ∈ pair.1.nodes ∨ c ∈ pair.2.nodes)
      ((n.form style).parameters positional index pairs) := by
  fun_induction Form.parameters (n.form style) positional index pairs with
  | case1 => exact Writes.nil.congr (by simp)
  | case2 index parameter fallback rest ih =>
    obtain ⟨hparameter, hfallback⟩ := h (parameter, fallback) List.mem_cons_self
    have hrest := ih fun pair hpair => h pair (List.mem_cons_of_mem _ hpair)
    have hcomma : Writes style (fun _ => False) (if index = 0 then [] else [Piece.str ", "]) :=
      Writes.nil.ite (Writes.nil.str _)
    have hslash : Writes style (fun _ => False)
        (if index + 1 = positional then [Piece.str ", /"] else []) :=
      (Writes.nil.str _).ite Writes.nil
    have hgiven := hfallback.ite fun hgiven => (hgiven.inside n style).str "="
    exact ((((hcomma.quiet_append (hparameter.inside n style)).append hgiven).append_quiet
      hslash).append hrest).congr (by simp)

theorem Kind.eq_arg_of_family {kind : Kind} (h : kind.family = some .parameter) : kind = .arg := by
  cases kind with
  | other given => exact absurd h (by simp [Kind.family])
  | _ => revert h; decide

namespace Ready

variable {n : Node} {a : Node → Prop}

/-- The positional parameters and their defaults, and what follows them. -/
theorem positionalThen (h : Ready .arguments n) (style : Style) {rule : Bool → List Piece}
    (hrule : ∀ first, Writes style a (rule first)) :
    Writes style (fun c => n.Holds [.posonlyargs, .args, .defaults] c ∨ a c)
      ((n.form style).positionalThen rule) := by
  obtain ⟨before, hbefore, hall, hbeforeCount⟩ := h.many .posonlyargs rfl rfl
  obtain ⟨args, hargs, hall', hargsCount⟩ := h.many .args rfl rfl
  obtain ⟨given, hgiven, hall'', hgivenCount⟩ := h.many .defaults rfl rfl
  have hcount : given.length ≤ before.length + args.length := by
    have hsound := Node.isSound_of_isProper h.proper
    rw [Node.isSound, h.kind_eq] at hsound
    rw [hbeforeCount, hargsCount, hgivenCount]
    exact of_decide_eq_true (Bool.and_eq_true_iff.mp hsound).2
  have hnodes : ∀ c, (∃ pair ∈ (before ++ args).zip
      (List.replicate ((before ++ args).length - given.length) (Slot.other .none) ++ given),
        c ∈ pair.1.nodes ∨ c ∈ pair.2.nodes) ↔ n.Holds [.posonlyargs, .args, .defaults] c := by
    intro c
    change _ ↔ c ∈ (n.slot .posonlyargs).nodes ∨ c ∈ (n.slot .args).nodes ∨
      c ∈ (n.slot .defaults).nodes
    rw [Slot.mem_nodes_zip (by simp; omega), ← Slot.mem_nodes_items hbefore hall,
      ← Slot.mem_nodes_items hargs hall', ← Slot.mem_nodes_items hgiven hall'']
    simp [or_and_right, exists_or, Slot.nodes, or_assoc]
  refine h.need rfl (h.need rfl ?_)
  rw [hbefore, hargs]
  refine h.need rfl ?_
  rw [hgiven]
  refine (Writes.append (n.writes_parameters style _ _ ?_) (hrule _)).congr
    fun c => or_congr_left (hnodes c)
  rintro ⟨parameter, fallback⟩ hpair
  obtain ⟨hparameter, hfallback⟩ := List.of_mem_zip hpair
  refine ⟨?_, ?_⟩
  · rcases List.mem_append.mp hparameter with hmem | hmem
    · exact hall _ hmem
    · exact hall' _ hmem
  · rcases List.mem_append.mp hfallback with hmem | hmem
    · exact Or.inl (List.eq_of_mem_replicate hmem)
    · exact Or.inr (hall'' _ hmem)

theorem starParameter (h : Ready .arguments n) (field : Field)
    (hf : Kind.arguments.shape? field = some (.optional .parameter)) {place : Place}
    (hplace : place = .rest ∨ place = .namedRest) (style : Style) :
    n.slot field = .other .none ∨ ∃ c : Node, n.slot field = .node c c.show ∧
      Writes style (· ∈ (n.slot field).nodes)
        (c.show { style with level := .test, place := place }) := by
  rcases h.node? field hf with hnone | ⟨c, hc, hslot, hfamily, _⟩
  · exact Or.inl hnone
  · refine Or.inr ⟨c, hslot, ?_⟩
    rw [hslot]
    refine Writes.child .test ?_
    rcases hplace with rfl | rfl <;> exact decide_eq_true (Kind.eq_arg_of_family hfamily)

/-- The parameter with one star, or the star alone, and what follows it. -/
theorem restThen (h : Ready .arguments n) (style : Style) (first : Bool)
    {rule : Bool → List Piece} (hrule : ∀ first, Writes style a (rule first)) :
    Writes style (fun c => c ∈ (n.slot .vararg).nodes ∨ a c)
      ((n.form style).restThen first rule) := by
  have hstar : Writes style (fun _ => False)
      ((if first then [] else [Piece.str ", "]) ++ [Piece.str "*"]) :=
    (Writes.nil.ite (Writes.nil.str _)).quiet_append (Writes.nil.str _)
  refine h.need rfl ?_
  rcases h.starParameter .vararg rfl (Or.inl rfl) style with hnone | ⟨c, hslot, hshown⟩
  · rw [hnone]
    refine Writes.congr ?_ (by simp [Slot.nodes] : ∀ c, a c ↔ _)
    refine h.need rfl (Writes.ite ?_ (hrule first))
    exact hstar.quiet_append (hrule false)
  · rw [hslot] at hshown ⊢
    exact (hstar.quiet_append hshown).append (hrule false)

theorem namedOnly (h : Ready .arguments n) (style : Style) :
    Writes style (n.Holds [.kwonlyargs, .kwDefaults]) (n.form style).namedOnly := by
  obtain ⟨names, hnames, hall, hcount⟩ := h.many .kwonlyargs rfl rfl
  obtain ⟨values, hvalues, hall', hcount'⟩ := h.holes .kwDefaults rfl rfl
  have hlength : names.length = values.length := by
    have hsound := Node.isSound_of_isProper h.proper
    rw [Node.isSound, h.kind_eq] at hsound
    rw [hcount, hcount']
    exact of_decide_eq_true (Bool.and_eq_true_iff.mp hsound).1
  have hpairs := Writes.flatMap fun pair (hpair : pair ∈ names.zip values) =>
    (((hall pair.1 (List.of_mem_zip hpair).1).inside n style).str ", ").append
      ((hall' pair.2 (List.of_mem_zip hpair).2).ite fun hgiven =>
        (hgiven.inside n style).str "=")
  have hnodes : ∀ c, (∃ pair ∈ names.zip values, c ∈ pair.1.nodes ∨ c ∈ pair.2.nodes) ↔
      n.Holds [.kwonlyargs, .kwDefaults] c := by
    intro c
    rw [Slot.mem_nodes_zip hlength, ← Slot.mem_nodes_list hall', ← hvalues,
      Slot.mem_nodes_items hnames hall]
    rfl
  refine h.need rfl (Writes.congr ?_ hnodes)
  cases names with
  | nil =>
    rw [hnames]
    exact hpairs
  | cons first rest =>
    have hset : (n.slot .kwonlyargs).isSet = true := by rw [hnames]; rfl
    rw [if_pos hset]
    refine h.need rfl ?_
    rw [hnames, hvalues]
    exact hpairs

theorem argumentList (h : Ready .arguments n) (style : Style) :
    Writes style n.Shows (n.form style).argumentList := by
  refine Writes.congr (h.positionalThen style fun first => h.restThen style first fun first =>
    Writes.append (b := (· ∈ (n.slot .kwarg).nodes)) (h.namedOnly style) (h.need rfl ?_))
      fun c => (?_ : _ ↔ _).trans (h.shows c)
  · rcases h.starParameter .kwarg rfl (Or.inr rfl) style with hnone | ⟨c, hslot, hshown⟩
    · rw [hnone]
      exact Writes.nil.congr (by simp [Slot.nodes])
    · rw [hslot] at hshown ⊢
      exact Writes.quiet_append (Writes.nil.ite (Writes.nil.str _)) hshown
  · simp only [Node.holds_iff]
    rw [show Kind.arguments.printedFields =
      [.posonlyargs, .args, .vararg, .kwonlyargs, .kwDefaults, .kwarg, .defaults] from rfl]
    simp only [List.mem_cons, List.not_mem_nil, or_false, exists_eq_or_imp, exists_eq_left]
    tauto

theorem lambda (h : Ready .lambdaExpr n) (style : Style) :
    Writes style n.Shows (n.form style).lambda := by
  obtain ⟨c, _, hslot, _⟩ := h.node .args rfl
  have hargs : Writes style (· ∈ (n.slot .args).nodes)
      (setAside ((n.form style).inside (n.slot .args))) := by
    rw [hslot]
    exact Writes.aside c .test
  refine (Writes.parens _ _ (Writes.str _ (h.need rfl ?_))).congr h.shows
  refine Writes.append ?_ (Writes.str _ (h.need rfl ((h.one .body rfl rfl).childAt _ _ _)))
  cases hshown : setAside ((n.form style).inside (n.slot .args)) with
  | nil => rwa [hshown] at hargs
  | cons first rest =>
    rw [hshown] at hargs
    exact hargs.str _

end Ready

/-! ## All rules -/

/-- Whether the rule of the class writes the printed fields one by one. -/
def Kind.isComposed (kind : Kind) : Bool :=
  kind.family.any Family.isPrinted && kind != .constant && kind != .formattedValue &&
    kind != .joinedStr

theorem Node.writes_of_expression {n : Node} {style : Style} (hplace : style.place = .ordinary)
    (hstatement : (n.form style).statement = [])
    (hrule : Writes style n.Shows (n.form style).expression) :
    Writes style n.Shows (n.show style) := by
  have hstyle : (n.form style).style.place = .ordinary := hplace
  rw [Node.show_eq, Form.rule, hstyle]
  dsimp only
  rw [hstatement, List.append_nil]
  exact hrule

theorem Ready.writes_ordinary {kind : Kind} {n : Node} (h : Ready kind n) {style : Style}
    (hplace : style.place = .ordinary) (hc : kind.isComposed = true) :
    Writes style n.Shows (n.show style) := by
  obtain ⟨given, line, fields⟩ := n
  obtain rfl : given = kind := h.kind_eq
  cases given with
  | boolOp => exact Node.writes_of_expression hplace rfl (h.connective style)
  | namedExpr => exact Node.writes_of_expression hplace rfl (h.namedExpr style)
  | binOp => exact Node.writes_of_expression hplace rfl (h.binary style)
  | unaryOp => exact Node.writes_of_expression hplace rfl (h.unary style)
  | lambdaExpr => exact Node.writes_of_expression hplace rfl (h.lambda style)
  | ifExpr => exact Node.writes_of_expression hplace rfl (h.ifExpr style)
  | dict => exact Node.writes_of_expression hplace rfl (h.dict style)
  | set => exact Node.writes_of_expression hplace rfl (h.set style)
  | listComp | setComp | generatorExp =>
    refine Node.writes_of_expression hplace rfl ?_
    exact (h.comprehension rfl rfl style _ _).congr h.shows
  | dictComp => exact Node.writes_of_expression hplace rfl (h.dictComp style)
  | await =>
    have hword := h.wordAnd rfl (Or.inr (h.one .value rfl rfl)) style .await "await"
    exact Node.writes_of_expression hplace rfl (hword.congr h.shows)
  | yield =>
    have hword := h.wordAnd rfl (h.perhaps .value rfl rfl) style .yield "yield"
    exact Node.writes_of_expression hplace rfl (hword.congr h.shows)
  | yieldFrom => exact Node.writes_of_expression hplace rfl (h.yieldFrom style)
  | compare => exact Node.writes_of_expression hplace rfl (h.comparison style)
  | call => exact Node.writes_of_expression hplace rfl (h.call style)
  | «attribute» => exact Node.writes_of_expression hplace rfl (h.access style)
  | subscript => exact Node.writes_of_expression hplace rfl (h.subscript style)
  | starred => exact Node.writes_of_expression hplace rfl (h.starred style)
  | name => exact Node.writes_of_expression hplace rfl (h.name style)
  | list => exact Node.writes_of_expression hplace rfl (h.list style)
  | tuple => exact Node.writes_of_expression hplace rfl (h.tuple style)
  | slice => exact Node.writes_of_expression hplace rfl (h.slice style)
  | comprehension => exact Node.writes_of_expression hplace rfl (h.comprehensionClause style)
  | arguments => exact Node.writes_of_expression hplace rfl (h.argumentList style)
  | arg => exact Node.writes_of_expression hplace rfl (h.parameter style fun t => ⟨t, rfl⟩)
  | keyword => exact Node.writes_of_expression hplace rfl (h.keyword style)
  | _ => exact absurd hc Bool.false_ne_true

/-- **A node is written as texts and the nodes of its printed fields**, wherever it stands. -/
theorem Ready.writes_show {kind : Kind} {n : Node} (h : Ready kind n) {style : Style}
    (hstands : n.standsAs style.place = true) (hc : kind.isComposed = true) :
    Writes style n.Shows (n.show style) := by
  cases hplace : style.place with
  | ordinary => exact h.writes_ordinary hplace hc
  | rest =>
    rw [hplace, Node.standsAs, decide_eq_true_eq] at hstands
    have hstyle : (n.form style).style.place = .rest := hplace
    obtain rfl : kind = .arg := h.kind_eq.symm.trans hstands
    rw [Node.show_eq, Form.rule, hstyle]
    exact h.parameter style fun t => ⟨t, rfl⟩
  | namedRest =>
    rw [hplace, Node.standsAs, decide_eq_true_eq] at hstands
    have hstyle : (n.form style).style.place = .namedRest := hplace
    obtain rfl : kind = .arg := h.kind_eq.symm.trans hstands
    rw [Node.show_eq, Form.rule, hstyle]
    exact h.parameter style fun t => ⟨_, rfl⟩
  | part | elseIf =>
    rw [hplace] at hstands
    exact absurd hstands Bool.false_ne_true

/-! ## Obstacles in what is written -/

theorem Node.suits_of_standsAs {c : Node} {place : Place} (h : c.standsAs place = true)
    (hc : c.suits .ordinary = true) : c.suits place = true := by
  cases place with
  | ordinary => exact hc
  | rest | namedRest => exact h
  | part | elseIf => exact absurd h Bool.false_ne_true

/-- **Pieces made of nodes that print stop exactly when one of the nodes is blocked.** -/
theorem Writes.sound {style : Style} {a : Node → Prop} {pieces : List Piece}
    (h : Writes style a pieces) (hprints : ∀ c, a c → c.suits .ordinary = true ∧ c.Prints) :
    Sound (∃ c, a c ∧ c.Blocked) pieces := by
  obtain ⟨segments, rfl, hnodes⟩ := h
  have hshown : ∀ s ∈ segments, ∀ c, s.node? = some c → c.suits .ordinary = true ∧ c.Prints :=
    fun s hs c hc => hprints c ((hnodes c).mp ⟨s, hs, hc⟩)
  have hsound : ∀ s ∈ segments,
      Sound (∃ c, s.node? = some c ∧ c.Blocked) (s.pieces style) := by
    intro s hs
    cases s with
    | text t => exact (Sound.nil.text t).congr (by simp [Segment.node?])
    | child c level place hstands =>
      obtain ⟨hsuits, hc⟩ := hshown _ hs c rfl
      exact (hc _ (Node.suits_of_standsAs hstands hsuits)).congr (by simp [Segment.node?])
    | aside c level =>
      obtain ⟨hsuits, hc⟩ := hshown _ hs c rfl
      exact (hc _ hsuits).setAside.congr (by simp [Segment.node?])
  refine (Sound.flatMap hsound).congr ?_
  simp only [← hnodes]
  exact ⟨fun ⟨s, hs, c, hc, hb⟩ => ⟨c, ⟨s, hs, hc⟩, hb⟩,
    fun ⟨c, ⟨s, hs, hc⟩, hb⟩ => ⟨s, hs, c, hc, hb⟩⟩

/-- A node whose rule writes its fields stops exactly when it is blocked. -/
theorem Ready.sound_composed {kind : Kind} {n : Node} (h : Ready kind n) {style : Style}
    (hstands : n.standsAs style.place = true) (hc : kind.isComposed = true) :
    Sound n.Blocked (n.show style) := by
  have hquiet : kind.isQuiet = true := by
    rw [Kind.isComposed, Bool.and_eq_true] at hc
    exact hc.1
  have hsound := (h.writes_show hstands hc).sound fun c hshows =>
    ⟨(h.of_shows hshows).2, h.prints c (h.of_shows hshows).1⟩
  refine hsound.congr ?_
  rw [← h.blocked hquiet, Node.anyBlocked_iff]
  simp only [h.shows]

end ArchLint.Syntax
