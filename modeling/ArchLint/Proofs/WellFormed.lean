import ArchLint.Proofs.LevelOrder
import ArchLint.Syntax.Printer

/-!
# Well-formed trees

A tree can hold anything in any field.  The trees of programs do not: every class of nodes has its
fields, in order, and every field has a shape.  This file says which trees those are.

* `Kind.shapes`: the fields of a class and their shapes.
* `Node.isProper`: whether a node has the fields of its class, with values of their shapes.
* `Node.isWellFormed`: whether all nodes of a tree are proper.
* `Node.field_fits`, `Node.children_eq`: **a proper node is its fields**; one that it can do without
  counts as empty.
-/

namespace ArchLint.Syntax

/-- What a node can stand for. -/
inductive Family where
  | root | statement | expression | pattern | clause | handler | parameters | parameter | keyword
  | importName | resource | matchCase | connective | binary | unary | comparison
  deriving DecidableEq, Repr

/-- The family of the nodes of a class. -/
def Kind.family : Kind → Option Family
  | .moduleBody | .interactive | .expression => some .root
  | .functionDef | .asyncFunctionDef | .classDef | .returnStmt | .deleteStmt | .assign | .augAssign
  | .annAssign | .forStmt | .asyncFor | .whileStmt | .ifStmt | .withStmt | .asyncWith | .matchStmt
  | .raiseStmt | .tryStmt | .tryStar | .assertStmt | .importStmt | .importFrom | .globalStmt
  | .nonlocalStmt | .exprStmt | .pass | .breakStmt | .continueStmt => some .statement
  | .boolOp | .namedExpr | .binOp | .unaryOp | .lambdaExpr | .ifExpr | .dict | .set | .listComp
  | .setComp | .dictComp | .generatorExp | .await | .yield | .yieldFrom | .compare | .call
  | .formattedValue | .joinedStr | .constant | .attribute | .subscript | .starred | .name | .list
  | .tuple | .slice => some .expression
  | .comprehension => some .clause
  | .exceptHandler => some .handler
  | .arguments => some .parameters
  | .arg => some .parameter
  | .keyword => some .keyword
  | .importAlias => some .importName
  | .withItem => some .resource
  | .matchCase => some .matchCase
  | .matchValue | .matchSingleton | .matchSequence | .matchMapping | .matchClass | .matchStar
  | .matchAs | .matchOr => some .pattern
  | .andOp | .orOp => some .connective
  | .add | .sub | .mult | .matMult | .div | .mod | .pow | .lShift | .rShift | .bitOr | .bitXor
  | .bitAnd | .floorDiv => some .binary
  | .invert | .notOp | .uAdd | .uSub => some .unary
  | .eq | .notEq | .lt | .lte | .gt | .gte | .isOp | .isNot | .inOp | .notIn => some .comparison
  | .other _ => none

def Family.isOperator : Family → Bool
  | .connective | .binary | .unary | .comparison => true
  | _ => false

/-- What a field can hold. -/
inductive Shape where
  /-- One node, or perhaps none. -/
  | one (family : Family)
  | optional (family : Family)
  /-- A list of nodes, in which some items may be missing. -/
  | many (family : Family)
  | holes (family : Family)
  | text
  | optionalText
  | texts
  | number
  | optionalNumber
  | literal
  | empty
  deriving DecidableEq, Repr

def Value.isOf (family : Family) : Value → Bool
  | .node n => n.kind.family == some family
  | _ => false

def Value.isNull : Value → Bool
  | .null => true
  | _ => false

def Value.isNumber : Value → Bool
  | .int _ => true
  | _ => false

def Shape.fits : Shape → Value → Bool
  | .one family, v => v.isOf family
  | .optional family, v => v.isNull || v.isOf family
  | .many family, .list items => items.all (·.isOf family)
  | .holes family, .list items => items.all fun v => v.isNull || v.isOf family
  | .text, v => v.text?.isSome
  | .optionalText, v => v.isNull || v.text?.isSome
  | .texts, .list items => items.all (·.text?.isSome)
  | .number, v => v.isNumber
  | .optionalNumber, v => v.isNull || v.isNumber
  | .literal, .constant _ => true
  | .empty, .list [] => true
  | _, _ => false

theorem Value.eq_node_of_isOf {family : Family} {v : Value} (h : v.isOf family = true) :
    ∃ n, v = .node n ∧ n.kind.family = some family := by
  cases v with
  | node n => exact ⟨n, rfl, eq_of_beq h⟩
  | list items => exact absurd h (by simp [Value.isOf])
  | constant c => exact absurd h (by simp [Value.isOf])

theorem Value.eq_null_of_isNull {v : Value} (h : v.isNull = true) : v = .null := by
  unfold Value.isNull at h
  split at h
  · rfl
  · exact absurd h (by decide)

theorem Value.eq_text_of_text? {v : Value} (h : v.text?.isSome = true) :
    ∃ t, v = .constant (.text t) := by
  unfold Value.text? at h
  split at h
  · exact ⟨_, rfl⟩
  · exact absurd h (by decide)

theorem Shape.eq_of_fits_optional {family : Family} {v : Value}
    (h : (Shape.optional family).fits v = true) :
    v = .null ∨ ∃ n, v = .node n ∧ n.kind.family = some family := by
  rcases Bool.or_eq_true_iff.mp h with h | h
  · exact Or.inl (Value.eq_null_of_isNull h)
  · exact Or.inr (Value.eq_node_of_isOf h)

theorem Shape.eq_of_fits_many {family : Family} {v : Value}
    (h : (Shape.many family).fits v = true) :
    ∃ ns : List Node, v = .list (ns.map .node) ∧ ∀ n ∈ ns, n.kind.family = some family := by
  cases v with
  | node n => exact absurd h (by simp [Shape.fits])
  | constant c => exact absurd h (by simp [Shape.fits])
  | list items =>
    rw [Shape.fits, List.all_eq_true] at h
    refine ⟨items.filterMap Value.node?, ?_, ?_⟩
    · refine congrArg _ ?_
      induction items with
      | nil => rfl
      | cons item rest ih =>
        obtain ⟨n, rfl, _⟩ := Value.eq_node_of_isOf (h item List.mem_cons_self)
        have hnode : (Value.node n).node? = some n := rfl
        rw [List.filterMap_cons_some hnode, List.map_cons,
          ← ih fun x hx => h x (List.mem_cons_of_mem _ hx)]
    · intro n hn
      obtain ⟨item, hitem, hnode⟩ := List.mem_filterMap.mp hn
      obtain ⟨m, rfl, hm⟩ := Value.eq_node_of_isOf (h item hitem)
      rw [← Option.some.inj hnode]
      exact hm

theorem Shape.eq_of_fits_holes {family : Family} {v : Value}
    (h : (Shape.holes family).fits v = true) :
    ∃ items, v = .list items ∧ ∀ item ∈ items,
      item = .null ∨ ∃ n, item = .node n ∧ n.kind.family = some family := by
  cases v with
  | node n => exact absurd h (by simp [Shape.fits])
  | constant c => exact absurd h (by simp [Shape.fits])
  | list items =>
    rw [Shape.fits, List.all_eq_true] at h
    exact ⟨items, rfl, fun item hitem => Shape.eq_of_fits_optional (h item hitem)⟩

theorem Shape.eq_of_fits_optionalText {v : Value} (h : Shape.optionalText.fits v = true) :
    v = .null ∨ ∃ t, v = .constant (.text t) := by
  rcases Bool.or_eq_true_iff.mp h with h | h
  · exact Or.inl (Value.eq_null_of_isNull h)
  · exact Or.inr (Value.eq_text_of_text? h)

theorem Shape.eq_of_fits_number {v : Value} (h : Shape.number.fits v = true) :
    ∃ k, v = .int k := by
  rw [Shape.fits] at h
  unfold Value.isNumber at h
  split at h
  · exact ⟨_, rfl⟩
  · exact absurd h (by decide)

theorem Shape.eq_of_fits_literal {v : Value} (h : Shape.literal.fits v = true) :
    ∃ c, v = .constant c := by
  cases v with
  | node n => exact absurd h (by simp [Shape.fits])
  | constant c => exact ⟨c, rfl⟩
  | list items => exact absurd h (by simp [Shape.fits])

/-- The fields of a class in the order of traversal, and their shapes. -/
def Kind.shapes : Kind → List (Field × Shape)
  | .moduleBody => [(.body, .many .statement), (.typeIgnores, .empty)]
  | .interactive => [(.body, .many .statement)]
  | .expression => [(.body, .one .expression)]
  | .functionDef | .asyncFunctionDef =>
    [(.name, .text), (.args, .one .parameters), (.body, .many .statement),
     (.decoratorList, .many .expression), (.returns, .optional .expression)]
  | .classDef =>
    [(.name, .text), (.bases, .many .expression), (.keywords, .many .keyword),
     (.body, .many .statement), (.decoratorList, .many .expression)]
  | .returnStmt | .yield => [(.value, .optional .expression)]
  | .deleteStmt => [(.targets, .many .expression)]
  | .assign => [(.targets, .many .expression), (.value, .one .expression)]
  | .augAssign => [(.target, .one .expression), (.op, .one .binary), (.value, .one .expression)]
  | .annAssign =>
    [(.target, .one .expression), (.typeHint, .one .expression), (.value, .optional .expression),
     (.simple, .number)]
  | .forStmt | .asyncFor =>
    [(.target, .one .expression), (.iter, .one .expression), (.body, .many .statement),
     (.orelse, .many .statement)]
  | .whileStmt | .ifStmt =>
    [(.test, .one .expression), (.body, .many .statement), (.orelse, .many .statement)]
  | .withStmt | .asyncWith => [(.items, .many .resource), (.body, .many .statement)]
  | .matchStmt => [(.subject, .one .expression), (.cases, .many .matchCase)]
  | .raiseStmt => [(.exc, .optional .expression), (.cause, .optional .expression)]
  | .tryStmt | .tryStar =>
    [(.body, .many .statement), (.handlers, .many .handler), (.orelse, .many .statement),
     (.finalbody, .many .statement)]
  | .assertStmt => [(.test, .one .expression), (.msg, .optional .expression)]
  | .importStmt => [(.names, .many .importName)]
  | .globalStmt | .nonlocalStmt => [(.names, .texts)]
  | .importFrom =>
    [(.moduleName, .optionalText), (.names, .many .importName), (.level, .optionalNumber)]
  | .exprStmt | .await | .yieldFrom | .starred | .matchValue => [(.value, .one .expression)]
  | .boolOp => [(.op, .one .connective), (.values, .many .expression)]
  | .namedExpr => [(.target, .one .expression), (.value, .one .expression)]
  | .binOp => [(.left, .one .expression), (.op, .one .binary), (.right, .one .expression)]
  | .unaryOp => [(.op, .one .unary), (.operand, .one .expression)]
  | .lambdaExpr => [(.args, .one .parameters), (.body, .one .expression)]
  | .ifExpr =>
    [(.test, .one .expression), (.body, .one .expression), (.orelse, .one .expression)]
  | .dict => [(.keys, .holes .expression), (.values, .many .expression)]
  | .set | .list | .tuple => [(.elts, .many .expression)]
  | .listComp | .setComp | .generatorExp =>
    [(.elt, .one .expression), (.generators, .many .clause)]
  | .dictComp =>
    [(.key, .one .expression), (.value, .one .expression), (.generators, .many .clause)]
  | .compare =>
    [(.left, .one .expression), (.ops, .many .comparison), (.comparators, .many .expression)]
  | .call => [(.func, .one .expression), (.args, .many .expression), (.keywords, .many .keyword)]
  | .formattedValue =>
    [(.value, .one .expression), (.conversion, .number), (.formatSpec, .optional .expression)]
  | .joinedStr => [(.values, .many .expression)]
  | .constant => [(.value, .literal), (.kind, .optionalText)]
  | .attribute => [(.value, .one .expression), (.attr, .text)]
  | .subscript => [(.value, .one .expression), (.slice, .one .expression)]
  | .name => [(.id, .text)]
  | .slice =>
    [(.lower, .optional .expression), (.upper, .optional .expression),
     (.step, .optional .expression)]
  | .comprehension =>
    [(.target, .one .expression), (.iter, .one .expression), (.ifs, .many .expression),
     (.isAsync, .number)]
  | .exceptHandler =>
    [(.exceptType, .optional .expression), (.name, .optionalText), (.body, .many .statement)]
  | .arguments =>
    [(.posonlyargs, .many .parameter), (.args, .many .parameter), (.vararg, .optional .parameter),
     (.kwonlyargs, .many .parameter), (.kwDefaults, .holes .expression),
     (.kwarg, .optional .parameter), (.defaults, .many .expression)]
  | .arg => [(.arg, .text), (.typeHint, .optional .expression)]
  | .keyword => [(.arg, .optionalText), (.value, .one .expression)]
  | .importAlias => [(.name, .text), (.asname, .optionalText)]
  | .withItem => [(.contextExpr, .one .expression), (.optionalVars, .optional .expression)]
  | .matchCase =>
    [(.pattern, .one .pattern), (.guard, .optional .expression), (.body, .many .statement)]
  | .matchSingleton => [(.value, .literal)]
  | .matchSequence | .matchOr => [(.patterns, .many .pattern)]
  | .matchMapping =>
    [(.keys, .many .expression), (.patterns, .many .pattern), (.rest, .optionalText)]
  | .matchClass =>
    [(.cls, .one .expression), (.patterns, .many .pattern), (.kwdAttrs, .texts),
     (.kwdPatterns, .many .pattern)]
  | .matchStar => [(.name, .optionalText)]
  | .matchAs => [(.pattern, .optional .pattern), (.name, .optionalText)]
  | _ => []

/-- The table of shapes has the fields of the table of classes. -/
theorem Kind.shapes_fields (kind : Kind) : kind.shapes.map (·.1) = kind.fields.map (·.1) := by
  cases kind <;> rfl

theorem Kind.nodup_shapes (kind : Kind) : (kind.shapes.map (·.1)).Nodup := by
  rw [Kind.shapes_fields]
  cases kind with
  | other given => exact List.nodup_nil
  | _ => decide

theorem Kind.shapes_of_isOperator {kind : Kind} (h : kind.family.any Family.isOperator = true) :
    kind.shapes = [] ∧ kind ≠ .constant ∧ kind ≠ .formattedValue := by
  cases kind with
  | other given => exact absurd h (by simp [Kind.family])
  | _ => revert h; decide

theorem Kind.fits_null {kind : Kind} {field : Field} {shape : Shape}
    (h : (field, shape) ∈ kind.shapes) (ho : kind.isOptional field = true) :
    shape.fits .null = true := by
  have hall : ∀ entry ∈ kind.shapes, kind.isOptional entry.1 = true →
      entry.2.fits .null = true := by
    cases kind with
    | other given => exact fun entry hentry => absurd hentry List.not_mem_nil
    | _ => decide
  exact hall _ h ho

/-! ## Proper nodes -/

/-- Whether fields are those of a table, in order and of their shapes; those that a node of the class
can do without may be left out. -/
def fieldsFit (kind : Kind) : List (Field × Shape) → List (Field × Value) → Bool
  | [], [] => true
  | [], _ :: _ => false
  | (field, _) :: more, [] => kind.isOptional field && fieldsFit kind more []
  | (field, shape) :: more, (given, value) :: rest =>
    if given = field then shape.fits value && fieldsFit kind more rest
    else kind.isOptional field && fieldsFit kind more ((given, value) :: rest)

def Node.field (n : Node) (field : Field) : Value :=
  (n.get? field).getD .null

def Value.items : Value → List Value
  | .list items => items
  | _ => []

def Node.size (n : Node) (field : Field) : Nat :=
  (n.field field).items.length

/-- Whether a node can be a part of a formatted text: a text, or a replacement field. -/
def Node.isTextPart (n : Node) : Bool :=
  n.kind = .formattedValue || (n.kind = .constant && (n.field .value).text?.isSome)

/-- The codes of conversions: none, `s`, `r` and `a`. -/
def conversionCodes : List Int := [-1, 115, 114, 97]

/-- Whether the fields of a node agree with each other. -/
def Node.isSound (n : Node) : Bool :=
  match n.kind with
  | .boolOp => 2 ≤ n.size .values
  | .compare => 1 ≤ n.size .ops && n.size .ops = n.size .comparators
  | .dict => n.size .keys = n.size .values
  | .arguments =>
    n.size .kwonlyargs = n.size .kwDefaults && n.size .defaults ≤ n.size .posonlyargs + n.size .args
  | .joinedStr => (n.field .values).nodes.all Node.isTextPart
  | .formattedValue =>
    conversionCodes.any (fun code => n.field .conversion == .int code) &&
      (n.field .formatSpec).nodes.all (·.kind = .joinedStr)
  | _ => true

/-- Whether a node has the fields of its class, with values of their shapes that agree. -/
def Node.isProper (n : Node) : Bool :=
  n.kind.family.isSome && fieldsFit n.kind n.kind.shapes n.fields && n.isSound

/-- Whether all nodes of a tree are proper. -/
def Node.isWellFormed (tree : Node) : Bool :=
  tree.walk.all fun (_, n) => n.isProper

theorem Node.isWellFormed_iff_at? {tree : Node} :
    tree.isWellFormed = true ↔ ∀ p n, tree.at? p = some n → n.isProper = true := by
  rw [Node.isWellFormed, List.all_eq_true, Prod.forall]
  refine forall_congr' fun p => forall_congr' fun n => ?_
  rw [Node.mem_walk]

theorem Node.isWellFormed_of_at? {tree n : Node} {p : Position} (h : tree.isWellFormed = true)
    (hat : tree.at? p = some n) : n.isWellFormed = true := by
  rw [Node.isWellFormed_iff_at?] at h ⊢
  intro q d hd
  refine h (p ++ q) d ?_
  rw [Node.at?_append, hat]
  exact hd

theorem Node.isWellFormed_iff {tree : Node} :
    tree.isWellFormed = true ↔
      tree.isProper = true ∧ ∀ c ∈ tree.children, c.isWellFormed = true := by
  simp only [Node.isWellFormed_iff_at?]
  constructor
  · intro h
    refine ⟨h [] tree rfl, ?_⟩
    intro c hc p n hat
    obtain ⟨i, hi⟩ := List.getElem?_of_mem hc
    refine h (i :: p) n ?_
    rw [Node.at?, hi]
    exact hat
  · rintro ⟨hproper, hchildren⟩ p n hat
    cases p with
    | nil =>
      rw [← Option.some.inj hat]
      exact hproper
    | cons i p =>
      rw [Node.at?] at hat
      cases hi : tree.children[i]? with
      | none => rw [hi] at hat; simp at hat
      | some c =>
        rw [hi] at hat
        exact hchildren c (List.mem_of_getElem? hi) p n hat

/-! ## A proper node is its fields -/

theorem fieldsFit_notMem {kind : Kind} {shapes : List (Field × Shape)}
    {fields : List (Field × Value)} (h : fieldsFit kind shapes fields = true) {field : Field}
    (hf : field ∉ shapes.map (·.1)) : fields.lookup field = none := by
  fun_induction fieldsFit kind shapes fields with
  | case1 => rfl
  | case2 => simp at h
  | case3 => rfl
  | case4 shape more other value rest ih =>
    rw [List.map_cons, List.mem_cons, not_or] at hf
    rw [List.lookup_cons, beq_false_of_ne hf.1]
    exact ih (Bool.and_eq_true_iff.mp h).2 hf.2
  | case5 other shape more given value rest hne ih =>
    rw [List.map_cons, List.mem_cons, not_or] at hf
    exact ih (Bool.and_eq_true_iff.mp h).2 hf.2

theorem fieldsFit_mem {kind : Kind} {shapes : List (Field × Shape)} {fields : List (Field × Value)}
    (h : fieldsFit kind shapes fields = true) (hnodup : (shapes.map (·.1)).Nodup) {field : Field}
    {shape : Shape} (hf : (field, shape) ∈ shapes) :
    (∃ value, fields.lookup field = some value ∧ shape.fits value = true) ∨
      fields.lookup field = none ∧ kind.isOptional field = true := by
  fun_induction fieldsFit kind shapes fields with
  | case1 => simp at hf
  | case2 => simp at hf
  | case3 other otherShape more ih =>
    obtain ⟨hoptional, hmore⟩ := Bool.and_eq_true_iff.mp h
    rw [List.map_cons, List.nodup_cons] at hnodup
    rcases List.mem_cons.mp hf with heq | hmem
    · rw [Prod.mk.injEq] at heq
      rw [heq.1]
      exact Or.inr ⟨rfl, hoptional⟩
    · exact ih hmore hnodup.2 hmem
  | case4 otherShape more other value rest ih =>
    obtain ⟨hfits, hmore⟩ := Bool.and_eq_true_iff.mp h
    rw [List.map_cons, List.nodup_cons] at hnodup
    rw [List.lookup_cons]
    rcases List.mem_cons.mp hf with heq | hmem
    · rw [Prod.mk.injEq] at heq
      rw [heq.1, heq.2, beq_self_eq_true]
      exact Or.inl ⟨value, rfl, hfits⟩
    · have hne : field ≠ other := fun heq => hnodup.1 (List.mem_map.mpr ⟨_, hmem, heq⟩)
      rw [beq_false_of_ne hne]
      exact ih hmore hnodup.2 hmem
  | case5 other otherShape more given value rest hne ih =>
    obtain ⟨hoptional, hmore⟩ := Bool.and_eq_true_iff.mp h
    rw [List.map_cons, List.nodup_cons] at hnodup
    rcases List.mem_cons.mp hf with heq | hmem
    · rw [Prod.mk.injEq] at heq
      rw [heq.1]
      exact Or.inr ⟨fieldsFit_notMem hmore hnodup.1, hoptional⟩
    · exact ih hmore hnodup.2 hmem

theorem fieldsFit_nodes {kind : Kind} {shapes : List (Field × Shape)}
    {fields : List (Field × Value)} (h : fieldsFit kind shapes fields = true)
    (hnodup : (shapes.map (·.1)).Nodup) :
    fields.flatMap (·.2.nodes) =
      shapes.flatMap fun entry => ((fields.lookup entry.1).getD .null).nodes := by
  fun_induction fieldsFit kind shapes fields with
  | case1 => rfl
  | case2 => simp at h
  | case3 other shape more ih =>
    rw [List.map_cons, List.nodup_cons] at hnodup
    rw [List.flatMap_cons, ← ih (Bool.and_eq_true_iff.mp h).2 hnodup.2]
    rfl
  | case4 shape more other value rest ih =>
    rw [List.map_cons, List.nodup_cons] at hnodup
    have hrest : (more.flatMap fun entry =>
        ((((other, value) :: rest).lookup entry.1).getD .null).nodes) =
          more.flatMap fun entry => ((rest.lookup entry.1).getD .null).nodes := by
      refine List.flatMap_congr ?_
      intro entry hmem
      have hne : entry.1 ≠ other := fun heq => hnodup.1 (List.mem_map.mpr ⟨_, hmem, heq⟩)
      rw [List.lookup_cons, beq_false_of_ne hne]
    rw [List.flatMap_cons, List.flatMap_cons, hrest, ih (Bool.and_eq_true_iff.mp h).2 hnodup.2,
      List.lookup_cons_self, Option.getD_some]
  | case5 other shape more given value rest hne ih =>
    obtain ⟨_, hmore⟩ := Bool.and_eq_true_iff.mp h
    rw [List.map_cons, List.nodup_cons] at hnodup
    rw [ih hmore hnodup.2, List.flatMap_cons, fieldsFit_notMem hmore hnodup.1]
    rfl

theorem Node.fieldsFit_of_isProper {n : Node} (h : n.isProper = true) :
    fieldsFit n.kind n.kind.shapes n.fields = true := by
  rw [Node.isProper, Bool.and_eq_true, Bool.and_eq_true] at h
  exact h.1.2

theorem Node.isSound_of_isProper {n : Node} (h : n.isProper = true) : n.isSound = true := by
  rw [Node.isProper, Bool.and_eq_true] at h
  exact h.2

/-- **A field of a proper node has its shape.** -/
theorem Node.field_fits {n : Node} (h : n.isProper = true) {field : Field} {shape : Shape}
    (hf : (field, shape) ∈ n.kind.shapes) : shape.fits (n.field field) = true := by
  rw [Node.field, Node.get?]
  rcases fieldsFit_mem (Node.fieldsFit_of_isProper h) n.kind.nodup_shapes hf with
    ⟨value, hvalue, hfits⟩ | ⟨hnone, hoptional⟩
  · rw [hvalue]
    exact hfits
  · rw [hnone]
    exact Kind.fits_null hf hoptional

theorem Node.get?_of_required {n : Node} (h : n.isProper = true) {field : Field} {shape : Shape}
    (hf : (field, shape) ∈ n.kind.shapes) (hr : n.kind.isOptional field = false) :
    n.get? field = some (n.field field) := by
  rw [Node.field, Node.get?]
  rcases fieldsFit_mem (Node.fieldsFit_of_isProper h) n.kind.nodup_shapes hf with
    ⟨value, hvalue, _⟩ | ⟨_, hoptional⟩
  · rw [hvalue]
    rfl
  · rw [hr] at hoptional
    exact absurd hoptional (by decide)

/-- **The children of a proper node are those of its fields.** -/
theorem Node.children_eq {n : Node} (h : n.isProper = true) :
    n.children = n.kind.shapes.flatMap fun entry => (n.field entry.1).nodes :=
  fieldsFit_nodes (Node.fieldsFit_of_isProper h) n.kind.nodup_shapes

end ArchLint.Syntax
