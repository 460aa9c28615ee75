import ArchLint.Proofs.Pieces
import ArchLint.Proofs.WellFormed

/-!
# Obstacles to printing

Everything that an expression holds is printed, so what stops the printing of a part stops that of
the whole.  Two things do: a whole number with too many digits, and a replacement field whose
expression, as it is printed there, holds a backslash.

* `Node.isObstacle`, `Node.Blocked`: what stops, and what it stands in.
* `Node.Prints`: a node whose pieces stop exactly when it is blocked.
* `Ready`: a proper node of a class, with children that print.
* `Ready.need_eq`: **a rule is given every field of a proper node**.
* `Node.Shows`: the nodes of the printed fields, which are all children but the operators.
* `Ready.blocked_iff`: **a node is blocked as an obstacle or through one of its printed fields**.
-/

namespace ArchLint.Syntax

open ArchLint.Text (Letter Letters)

/-! ## Obstacles -/

def fieldStyle : Style :=
  { level := Level.test.next, plain := true }

/-- Whether printing stops at the node itself. -/
def Node.isObstacle (n : Node) : Bool :=
  match n.kind with
  | .constant =>
    match n.field .value with
    | .constant c => c.isTooLong
    | _ => false
  | .formattedValue =>
    match assemble ((n.field .value).slot.pieces fieldStyle) with
    | .ok expression => expression.contains (.char '\\')
    | .error _ => false
  | _ => false

/-- An obstacle stands in the tree. -/
def Node.Blocked (tree : Node) : Prop :=
  ∃ p n, tree.at? p = some n ∧ n.isObstacle = true

theorem Node.blocked_iff {n : Node} :
    n.Blocked ↔ n.isObstacle = true ∨ ∃ c ∈ n.children, c.Blocked := by
  constructor
  · rintro ⟨p, d, hat, hd⟩
    cases p with
    | nil =>
      rw [← Option.some.inj hat] at hd
      exact Or.inl hd
    | cons i p =>
      rw [Node.at?] at hat
      cases hi : n.children[i]? with
      | none => rw [hi] at hat; simp at hat
      | some c =>
        rw [hi] at hat
        exact Or.inr ⟨c, List.mem_of_getElem? hi, p, d, hat, hd⟩
  · rintro (hd | ⟨c, hc, p, d, hat, hd⟩)
    · exact ⟨[], n, rfl, hd⟩
    · obtain ⟨i, hi⟩ := List.getElem?_of_mem hc
      refine ⟨i :: p, d, ?_, hd⟩
      rw [Node.at?, hi]
      exact hat

/-! ## Slots -/

def Slot.node? : Slot → Option Node
  | .node n _ => some n
  | _ => none

def Slot.nodes : Slot → List Node
  | .node n _ => [n]
  | .list items => items.filterMap Slot.node?
  | .other _ => []

def Slot.Blocked (slot : Slot) : Prop :=
  ∃ c ∈ slot.nodes, c.Blocked

def Node.slot (n : Node) (field : Field) : Slot :=
  (n.field field).slot

theorem Value.nodes_slot (v : Value) : v.slot.nodes = v.nodes := by
  cases v with
  | node n => rfl
  | constant c => rfl
  | list items =>
    rw [Value.slot, slotsOfItems_eq, Slot.nodes, Value.nodes, List.filterMap_map]
    refine congrArg (fun f => items.filterMap f) (funext fun item => ?_)
    cases item <;> rfl

@[simp] theorem Slot.blocked_node {c : Node} {print : Style → List Piece} :
    (Slot.node c print).Blocked ↔ c.Blocked := by
  simp [Slot.Blocked, Slot.nodes]

@[simp] theorem Slot.blocked_other {c : Constant} : (Slot.other c).Blocked ↔ False := by
  simp [Slot.Blocked, Slot.nodes]

/-! ## What children do -/

/-- Whether nodes of the family stand in expressions and are printed there. -/
def Family.isPrinted : Family → Bool
  | .expression | .clause | .parameters | .parameter | .keyword => true
  | _ => false

/-- As what a node can be printed. -/
def Node.suits (n : Node) : Place → Bool
  | .ordinary => n.kind.family.any Family.isPrinted
  | .part => n.isTextPart || n.kind = .joinedStr
  | .rest | .namedRest => n.kind = .arg
  | .elseIf => false

/-- The node is printed, in every style that suits it, unless it is blocked. -/
def Node.Prints (n : Node) : Prop :=
  ∀ style : Style, n.suits style.place = true → Sound n.Blocked (n.show style)

/-- A proper node of a class, with children that print. -/
structure Ready (kind : Kind) (n : Node) : Prop where
  kind_eq : n.kind = kind
  proper : n.isProper = true
  whole : ∀ c ∈ n.children, c.isWellFormed = true
  prints : ∀ c ∈ n.children, c.Prints

/-- The slot of a node that prints as itself. -/
def Slot.IsPrinted (slot : Slot) : Prop :=
  ∃ c : Node, slot = .node c c.show ∧
    ∀ style : Style, style.place = .ordinary → Sound c.Blocked (c.show style)

/-- Nothing, or the slot of a node that prints as itself. -/
def Slot.IsPerhaps (slot : Slot) : Prop :=
  slot = .other .none ∨ slot.IsPrinted

namespace Slot.IsPrinted

variable {slot : Slot}

theorem settled (h : slot.IsPrinted) : slot.settled = [] := by
  obtain ⟨c, rfl, _⟩ := h
  rfl

theorem isSet (h : slot.IsPrinted) : slot.isSet = true := by
  obtain ⟨c, rfl, _⟩ := h
  rfl

end Slot.IsPrinted

theorem Slot.mem_nodes_list {items : List Slot} (h : ∀ slot ∈ items, slot.IsPerhaps) {c : Node} :
    c ∈ (Slot.list items).nodes ↔ ∃ slot ∈ items, c ∈ slot.nodes := by
  rw [Slot.nodes, List.mem_filterMap]
  refine exists_congr fun slot => and_congr_right fun hslot => ?_
  rcases h slot hslot with rfl | ⟨d, rfl, _⟩
  · simp [Slot.node?, Slot.nodes]
  · simp [Slot.node?, Slot.nodes, eq_comm]

theorem Slot.mem_nodes_items {slot : Slot} {items : List Slot} (hslot : slot = .list items)
    (h : ∀ item ∈ items, item.IsPrinted) (c : Node) :
    (∃ item ∈ items, c ∈ item.nodes) ↔ c ∈ slot.nodes := by
  rw [hslot, Slot.mem_nodes_list fun item hitem => Or.inr (h item hitem)]

theorem Slot.blocked_items {slot : Slot} {items : List Slot} (hslot : slot = .list items)
    (h : ∀ item ∈ items, item.IsPrinted) : (∃ item ∈ items, item.Blocked) ↔ slot.Blocked := by
  simp only [Slot.Blocked, ← Slot.mem_nodes_items hslot h]
  exact ⟨fun ⟨item, hitem, c, hc, hb⟩ => ⟨c, ⟨item, hitem, hc⟩, hb⟩,
    fun ⟨c, ⟨item, hitem, hc⟩, hb⟩ => ⟨item, hitem, c, hc, hb⟩⟩

/-! ## Fields of a ready node -/

def Node.form (n : Node) (style : Style) : Form :=
  ⟨n.kind, n.line, n.fields.map fun (field, value) => (field, value.slot), style⟩

theorem Node.show_eq (n : Node) (style : Style) : n.show style = (n.form style).rule := by
  obtain ⟨kind, line, fields⟩ := n
  exact Node.show_mk kind line fields style

theorem Node.lookup_slots (n : Node) (style : Style) (field : Field) :
    (n.form style).slots.lookup field = (n.get? field).map Value.slot := by
  rw [Node.form, Node.get?]
  generalize n.fields = fields
  induction fields with
  | nil => rfl
  | cons head rest ih =>
    obtain ⟨given, value⟩ := head
    rw [List.map_cons, List.lookup_cons, List.lookup_cons]
    cases field == given with
    | true => rfl
    | false => exact ih

def Kind.shape? (kind : Kind) (field : Field) : Option Shape :=
  kind.shapes.lookup field

theorem Kind.mem_shapes {kind : Kind} {field : Field} {shape : Shape}
    (h : kind.shape? field = some shape) : (field, shape) ∈ kind.shapes := by
  obtain ⟨before, after, heq, _⟩ := List.lookup_eq_some_iff.mp h
  rw [heq]
  exact List.mem_append_right _ List.mem_cons_self

def Shape.family? : Shape → Option Family
  | .one family | .optional family | .many family | .holes family => some family
  | _ => none

theorem Shape.family?_eq {shape : Shape} {v : Value} {c : Node} (h : shape.fits v = true)
    (hc : c ∈ v.nodes) : ∃ family, shape.family? = some family ∧ c.kind.family = some family := by
  cases shape with
  | one family =>
    obtain ⟨d, rfl, hfamily⟩ := Value.eq_node_of_isOf h
    rw [List.mem_singleton.mp hc]
    exact ⟨family, rfl, hfamily⟩
  | optional family =>
    rcases Shape.eq_of_fits_optional h with rfl | ⟨d, rfl, hfamily⟩
    · exact absurd hc List.not_mem_nil
    · rw [List.mem_singleton.mp hc]
      exact ⟨family, rfl, hfamily⟩
  | many family =>
    obtain ⟨ns, rfl, hfamily⟩ := Shape.eq_of_fits_many h
    obtain ⟨item, hitem, hnode⟩ := List.mem_filterMap.mp hc
    obtain ⟨d, hd, rfl⟩ := List.mem_map.mp hitem
    rw [← Option.some.inj hnode]
    exact ⟨family, rfl, hfamily d hd⟩
  | holes family =>
    obtain ⟨items, rfl, hfamily⟩ := Shape.eq_of_fits_holes h
    obtain ⟨item, hitem, hnode⟩ := List.mem_filterMap.mp hc
    rcases hfamily item hitem with rfl | ⟨d, rfl, hd⟩
    · exact absurd hnode (by simp [Value.node?])
    · rw [← Option.some.inj hnode]
      exact ⟨family, rfl, hd⟩
  | text =>
    obtain ⟨t, rfl⟩ := Value.eq_text_of_text? h
    exact absurd hc List.not_mem_nil
  | optionalText =>
    rcases Shape.eq_of_fits_optionalText h with rfl | ⟨t, rfl⟩ <;> exact absurd hc List.not_mem_nil
  | texts =>
    cases v with
    | list items =>
      obtain ⟨item, hitem, hnode⟩ := List.mem_filterMap.mp hc
      obtain ⟨t, rfl⟩ := Value.eq_text_of_text? (List.all_eq_true.mp h item hitem)
      exact absurd hnode (by simp [Value.node?])
    | _ => exact absurd h (by simp [Shape.fits])
  | number =>
    obtain ⟨k, rfl⟩ := Shape.eq_of_fits_number h
    exact absurd hc List.not_mem_nil
  | optionalNumber =>
    rcases Bool.or_eq_true_iff.mp h with h | h
    · rw [Value.eq_null_of_isNull h] at hc
      exact absurd hc List.not_mem_nil
    · obtain ⟨k, rfl⟩ := Shape.eq_of_fits_number h
      exact absurd hc List.not_mem_nil
  | literal =>
    obtain ⟨k, rfl⟩ := Shape.eq_of_fits_literal h
    exact absurd hc List.not_mem_nil
  | empty =>
    cases v with
    | list items =>
      cases items with
      | nil => exact absurd hc List.not_mem_nil
      | cons item rest => exact absurd h (by simp [Shape.fits])
    | _ => exact absurd h (by simp [Shape.fits])

namespace Ready

variable {kind : Kind} {n : Node} {field : Field} {shape : Shape} {family : Family}

theorem fits (h : Ready kind n) (hf : kind.shape? field = some shape) :
    shape.fits (n.field field) = true :=
  Node.field_fits h.proper (h.kind_eq ▸ Kind.mem_shapes hf)

/-- **A rule is given every field of a proper node.** -/
theorem need_eq (h : Ready kind n) (hf : kind.shape? field = some shape) (style : Style)
    (rule : Slot → List Piece) : (n.form style).need field rule = rule (n.slot field) := by
  rw [Form.need, Node.lookup_slots, Node.slot, Node.field]
  cases hget : n.get? field with
  | some value => rfl
  | none =>
    cases ho : n.kind.isOptional field with
    | true =>
      have hkind : (n.form style).kind = n.kind := rfl
      rw [Option.map_none, hkind, ho]
      rfl
    | false =>
      have hthere := Node.get?_of_required h.proper (h.kind_eq ▸ Kind.mem_shapes hf) ho
      rw [hget] at hthere
      exact absurd hthere (by simp)

theorem need {P : List Piece → Prop} (h : Ready kind n) (hf : kind.shape? field = some shape)
    {style : Style} {rule : Slot → List Piece} (hrule : P (rule (n.slot field))) :
    P ((n.form style).need field rule) := by
  rw [h.need_eq hf]
  exact hrule

theorem mem_children (h : Ready kind n) (hf : (field, shape) ∈ kind.shapes) {c : Node}
    (hc : c ∈ (n.field field).nodes) : c ∈ n.children := by
  rw [Node.children_eq h.proper, h.kind_eq]
  exact List.mem_flatMap.mpr ⟨_, hf, hc⟩

theorem node (h : Ready kind n) (field : Field) (hf : kind.shape? field = some (.one family)) :
    ∃ c ∈ n.children, n.slot field = .node c c.show ∧ c.kind.family = some family := by
  obtain ⟨c, hc, hfamily⟩ := Value.eq_node_of_isOf (h.fits hf)
  refine ⟨c, h.mem_children (Kind.mem_shapes hf) ?_, ?_, hfamily⟩
  · rw [hc]
    exact List.mem_singleton_self c
  · rw [Node.slot, hc, Value.slot]

theorem node? (h : Ready kind n) (field : Field)
    (hf : kind.shape? field = some (.optional family)) :
    n.slot field = .other .none ∨
      ∃ c ∈ n.children, n.slot field = .node c c.show ∧ c.kind.family = some family ∧
        c ∈ (n.field field).nodes := by
  rcases Shape.eq_of_fits_optional (h.fits hf) with hnull | ⟨c, hc, hfamily⟩
  · refine Or.inl ?_
    rw [Node.slot, hnull]
    rfl
  · have hmem : c ∈ (n.field field).nodes := by
      rw [hc]
      exact List.mem_singleton_self c
    refine Or.inr ⟨c, h.mem_children (Kind.mem_shapes hf) hmem, ?_, hfamily, hmem⟩
    rw [Node.slot, hc, Value.slot]

theorem nodes (h : Ready kind n) (field : Field) (hf : kind.shape? field = some (.many family)) :
    ∃ ns : List Node, n.slot field = .list (ns.map fun c => .node c c.show) ∧
      (n.field field).nodes = ns ∧ (∀ c ∈ ns, c ∈ n.children ∧ c.kind.family = some family) ∧
      ns.length = n.size field := by
  obtain ⟨ns, hns, hfamily⟩ := Shape.eq_of_fits_many (h.fits hf)
  have hnodes : (n.field field).nodes = ns := by
    rw [hns, Value.nodes, List.filterMap_map]
    exact List.filterMap_some
  refine ⟨ns, ?_, hnodes, ?_, ?_⟩
  · rw [Node.slot, hns, Value.slot, slotsOfItems_eq, List.map_map]
    rfl
  · intro c hc
    rw [← hnodes] at hc
    exact ⟨h.mem_children (Kind.mem_shapes hf) hc, hfamily c (hnodes ▸ hc)⟩
  · rw [Node.size, hns, Value.items, List.length_map]

theorem isPrinted (h : Ready kind n) {c : Node} (hc : c ∈ n.children)
    (hfamily : c.kind.family = some family) (hp : family.isPrinted = true) :
    (Slot.node c c.show).IsPrinted := by
  refine ⟨c, rfl, fun style hplace => h.prints c hc style ?_⟩
  rw [hplace, Node.suits, hfamily]
  exact hp

theorem one (h : Ready kind n) (field : Field) (hf : kind.shape? field = some (.one family))
    (hp : family.isPrinted = true) : (n.slot field).IsPrinted := by
  obtain ⟨c, hc, hslot, hfamily⟩ := h.node field hf
  rw [hslot]
  exact h.isPrinted hc hfamily hp

theorem perhaps (h : Ready kind n) (field : Field)
    (hf : kind.shape? field = some (.optional family)) (hp : family.isPrinted = true) :
    (n.slot field).IsPerhaps := by
  rcases h.node? field hf with hnone | ⟨c, hc, hslot, hfamily, _⟩
  · exact Or.inl hnone
  · rw [hslot]
    exact Or.inr (h.isPrinted hc hfamily hp)

theorem many (h : Ready kind n) (field : Field) (hf : kind.shape? field = some (.many family))
    (hp : family.isPrinted = true) :
    ∃ items, n.slot field = .list items ∧ (∀ slot ∈ items, slot.IsPrinted) ∧
      items.length = n.size field := by
  obtain ⟨ns, hns, _, hall, hlength⟩ := h.nodes field hf
  refine ⟨_, hns, ?_, by rw [List.length_map, hlength]⟩
  intro slot hslot
  obtain ⟨c, hc, rfl⟩ := List.mem_map.mp hslot
  exact h.isPrinted (hall c hc).1 (hall c hc).2 hp

theorem holes (h : Ready kind n) (field : Field)
    (hf : kind.shape? field = some (.holes family))
    (hp : family.isPrinted = true) :
    ∃ items, n.slot field = .list items ∧ (∀ slot ∈ items, slot.IsPerhaps) ∧
      items.length = n.size field := by
  obtain ⟨items, hitems, hall⟩ := Shape.eq_of_fits_holes (h.fits hf)
  refine ⟨items.map Value.slot, ?_, ?_, ?_⟩
  · rw [Node.slot, hitems, Value.slot, slotsOfItems_eq]
  · intro slot hslot
    obtain ⟨item, hitem, rfl⟩ := List.mem_map.mp hslot
    rcases hall item hitem with rfl | ⟨c, rfl, hfamily⟩
    · exact Or.inl rfl
    · refine Or.inr (h.isPrinted (h.mem_children (Kind.mem_shapes hf) ?_) hfamily hp)
      rw [hitems]
      exact List.mem_filterMap.mpr ⟨_, hitem, rfl⟩
  · rw [Node.size, hitems, Value.items, List.length_map]

end Ready

/-! ## Where obstacles stand -/

def Kind.printedFields (kind : Kind) : List Field :=
  (kind.shapes.filter fun entry => entry.2.family?.any Family.isPrinted).map (·.1)

/-- Whether nodes of the class are printed and are never obstacles themselves. -/
def Kind.isQuiet (kind : Kind) : Bool :=
  kind.family.any Family.isPrinted && kind != .constant && kind != .formattedValue

def Node.Holds (n : Node) : List Field → Node → Prop
  | [], _ => False
  | [field], c => c ∈ (n.slot field).nodes
  | field :: more, c => c ∈ (n.slot field).nodes ∨ n.Holds more c

theorem Node.holds_iff {n : Node} {fields : List Field} {c : Node} :
    n.Holds fields c ↔ ∃ field ∈ fields, c ∈ (n.slot field).nodes := by
  fun_induction Node.Holds n fields c with
  | case1 => simp
  | case2 => simp
  | case3 c field more _ ih => simp [ih]

def Node.Shows (n c : Node) : Prop :=
  n.Holds n.kind.printedFields c

def Node.AnyBlocked (n : Node) : List Field → Prop
  | [] => False
  | [field] => (n.slot field).Blocked
  | field :: more => (n.slot field).Blocked ∨ n.AnyBlocked more

theorem Node.anyBlocked_iff {n : Node} {fields : List Field} :
    n.AnyBlocked fields ↔ ∃ c, n.Holds fields c ∧ c.Blocked := by
  fun_induction Node.AnyBlocked n fields with
  | case1 => simp [Node.Holds]
  | case2 field => simp [Node.Holds, Slot.Blocked]
  | case3 field more hmore ih =>
    simp only [Node.Holds, ih, Slot.Blocked, or_and_right, exists_or]

theorem Kind.isPrinted_or_isOperator {kind : Kind}
    (h : kind.family.any Family.isPrinted = true) :
    ∀ entry ∈ kind.shapes, entry.2.family?.isSome = true →
      entry.2.family?.any Family.isPrinted = true ∨
        entry.2.family?.any Family.isOperator = true := by
  cases kind with
  | other given => exact fun entry hentry => absurd hentry List.not_mem_nil
  | _ => revert h; decide

theorem Node.isObstacle_eq_false {n : Node} (hc : n.kind ≠ .constant)
    (hf : n.kind ≠ .formattedValue) : n.isObstacle = false := by
  unfold Node.isObstacle
  split
  · exact absurd ‹_› hc
  · exact absurd ‹_› hf
  · rfl

theorem Node.not_blocked_of_isOperator {c : Node} (h : c.isProper = true)
    (ho : c.kind.family.any Family.isOperator = true) : ¬ c.Blocked := by
  obtain ⟨hshapes, hc, hf⟩ := Kind.shapes_of_isOperator ho
  rw [Node.blocked_iff, Node.children_eq h, hshapes, Node.isObstacle_eq_false hc hf]
  simp

namespace Ready

variable {kind : Kind} {n : Node}

theorem shows (h : Ready kind n) (c : Node) : n.Holds kind.printedFields c ↔ n.Shows c := by
  rw [Node.Shows, h.kind_eq]

/-- A node of a printed field is a child, and prints as itself. -/
theorem of_shows (h : Ready kind n) {c : Node} (hc : n.Shows c) :
    c ∈ n.children ∧ c.suits .ordinary = true := by
  rw [← h.shows, Node.holds_iff] at hc
  obtain ⟨field, hfield, hc⟩ := hc
  obtain ⟨⟨field, shape⟩, hentry, rfl⟩ := List.mem_map.mp hfield
  obtain ⟨hentry, hprinted⟩ := List.mem_filter.mp hentry
  rw [Node.slot, Value.nodes_slot] at hc
  obtain ⟨family, hshape, hfamily⟩ :=
    Shape.family?_eq (Node.field_fits h.proper (h.kind_eq ▸ hentry)) hc
  refine ⟨h.mem_children hentry hc, ?_⟩
  rw [hshape] at hprinted
  rw [Node.suits, hfamily]
  exact hprinted

/-- A child stands in a printed field, or it is an operator. -/
theorem shows_or_isOperator (h : Ready kind n) (hp : kind.family.any Family.isPrinted = true)
    {c : Node} (hc : c ∈ n.children) : n.Shows c ∨ c.kind.family.any Family.isOperator = true := by
  rw [Node.children_eq h.proper, h.kind_eq] at hc
  obtain ⟨⟨field, shape⟩, hentry, hmem⟩ := List.mem_flatMap.mp hc
  obtain ⟨family, hshape, hfamily⟩ :=
    Shape.family?_eq (Node.field_fits h.proper (h.kind_eq ▸ hentry)) hmem
  have hsome : shape.family?.isSome = true := by rw [hshape]; rfl
  rcases Kind.isPrinted_or_isOperator hp _ hentry hsome with hprinted | ho
  · rw [← h.shows, Node.holds_iff]
    refine Or.inl ⟨field, List.mem_map.mpr ⟨_, List.mem_filter.mpr ⟨hentry, hprinted⟩, rfl⟩, ?_⟩
    rw [Node.slot, Value.nodes_slot]
    exact hmem
  · rw [hshape, ← hfamily] at ho
    exact Or.inr ho

/-- **A node is blocked as an obstacle or through one of its printed fields.** -/
theorem blocked_iff (h : Ready kind n) (hp : kind.family.any Family.isPrinted = true) :
    n.isObstacle = true ∨ n.AnyBlocked kind.printedFields ↔ n.Blocked := by
  rw [Node.anyBlocked_iff, Node.blocked_iff]
  refine or_congr_right ⟨?_, ?_⟩
  · rintro ⟨c, hc, hblocked⟩
    exact ⟨c, (h.of_shows ((h.shows c).mp hc)).1, hblocked⟩
  · rintro ⟨c, hc, hblocked⟩
    rcases h.shows_or_isOperator hp hc with hshows | ho
    · exact ⟨c, (h.shows c).mpr hshows, hblocked⟩
    · have hproper := (Node.isWellFormed_iff.mp (h.whole c hc)).1
      exact absurd hblocked (Node.not_blocked_of_isOperator hproper ho)

theorem blocked (h : Ready kind n) (hq : kind.isQuiet = true) :
    n.AnyBlocked kind.printedFields ↔ n.Blocked := by
  rw [Kind.isQuiet, Bool.and_eq_true, Bool.and_eq_true, bne_iff_ne, bne_iff_ne] at hq
  obtain ⟨⟨hp, hc⟩, hf⟩ := hq
  rw [← h.blocked_iff hp, Node.isObstacle_eq_false (h.kind_eq ▸ hc) (h.kind_eq ▸ hf)]
  simp

end Ready

end ArchLint.Syntax
