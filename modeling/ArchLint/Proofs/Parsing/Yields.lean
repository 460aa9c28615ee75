import ArchLint.Proofs.WellFormed
import ArchLint.Source.Parser

/-!
# What parsers yield

A parser that reads something may read anything, but what it reads has a property.  The property is
followed here through the ways in which parsers are put together; the rules of the grammar are then
gone through one by one.

* `Gives`, `Yields`: a result that may be missing, or everything that a parser reads, has a property.
* `Yields.bind`, `Yields.repeatWhile`, `Yields.extend`, …: parsers that are made of others.
* `Node.Is`: a well-formed node of a family.
* `Node.Is.build`: **a node whose fields hold what they should is well-formed**.
-/

namespace ArchLint.Source

open ArchLint.Syntax

/-! ## Results that may be missing -/

/-- The result has the property, if there is one. -/
def Gives {α : Type} (o : Option α) (P : α → Prop) : Prop :=
  ∀ a, o = some a → P a

namespace Gives

variable {α β : Type} {o o' : Option α} {P : α → Prop} {R : β → Prop}

theorem any : Gives o fun _ => True :=
  fun _ _ => trivial

theorem some {a : α} (h : P a) : Gives (Option.some a) P := by
  intro b hb
  rw [← Option.some.inj hb]
  exact h

theorem none : Gives Option.none P :=
  fun _ hnone => absurd hnone (by simp)

theorem bind {f : α → Option β} (ho : Gives o P) (hf : ∀ a, P a → Gives (f a) R) :
    Gives (o >>= f) R := by
  intro b hb
  obtain ⟨a, ha, hfa⟩ := Option.bind_eq_some_iff.mp hb
  exact hf a (ho a ha) b hfa

theorem after {f : α → Option β} (hf : ∀ a, Gives (f a) R) : Gives (o >>= f) R :=
  bind any fun a _ => hf a

theorem map {f : α → β} (h : Gives o fun a => R (f a)) : Gives (o.map f) R := by
  intro b hb
  obtain ⟨a, ha, rfl⟩ := Option.map_eq_some_iff.mp hb
  exact h a ha

theorem ite {c : Prop} [Decidable c] (h : Gives o P) (h' : Gives o' P) :
    Gives (if c then o else o') P := by
  split
  · exact h
  · exact h'

theorem branch {c : Prop} [Decidable c] {f : α → Option β} (h : Gives o P) (h' : Gives o' P)
    (hf : ∀ a, P a → Gives (f a) R) : Gives (if c then o >>= f else o' >>= f) R :=
  ite (bind h hf) (bind h' hf)

end Gives

/-! ## Parsers -/

/-- Everything that the parser reads has the property. -/
def Yields {α : Type} (p : Parser α) (P : α → Prop) : Prop :=
  ∀ tokens a rest, p tokens = some (a, rest) → P a

namespace Yields

variable {α β : Type} {p q : Parser α} {P Q : α → Prop} {R : β → Prop}

theorem any : Yields p fun _ => True :=
  fun _ _ _ _ => trivial

theorem mono (h : Yields p P) (hPQ : ∀ a, P a → Q a) : Yields p Q :=
  fun tokens a rest hread => hPQ a (h tokens a rest hread)

theorem pure {a : α} (h : P a) : Yields (Pure.pure a) P := by
  intro tokens b rest hread
  obtain ⟨rfl, rfl⟩ := Prod.mk.inj (Option.some.inj hread)
  exact h

theorem failure : Yields (Alternative.failure : Parser α) P := by
  intro tokens a rest hread
  have hnone : (Alternative.failure : Parser α) tokens = none := rfl
  rw [hnone] at hread
  exact absurd hread (by simp)

theorem bind {f : α → Parser β} (hp : Yields p P) (hf : ∀ a, P a → Yields (f a) R) :
    Yields (p >>= f) R := by
  intro tokens b rest hread
  cases hfirst : p tokens with
  | none =>
    have hnone : (p >>= f) tokens = none := by simp [Bind.bind, StateT.bind, hfirst]
    rw [hnone] at hread
    exact absurd hread (by simp)
  | some first =>
    obtain ⟨a, after⟩ := first
    have hthen : (p >>= f) tokens = f a after := by simp [Bind.bind, StateT.bind, hfirst]
    rw [hthen] at hread
    exact hf a (hp tokens a after hfirst) after b rest hread

theorem after {f : α → Parser β} (hf : ∀ a, Yields (f a) R) : Yields (p >>= f) R :=
  bind any fun a _ => hf a

theorem map {f : α → β} (h : Yields p fun a => R (f a)) : Yields (f <$> p) R := by
  intro tokens b rest hread
  cases hfirst : p tokens with
  | none =>
    have hnone : (f <$> p) tokens = none := by simp [Functor.map, StateT.map, hfirst]
    rw [hnone] at hread
    exact absurd hread (by simp)
  | some first =>
    obtain ⟨a, after⟩ := first
    have hthen : (f <$> p) tokens = some (f a, after) := by
      simp [Functor.map, StateT.map, hfirst]
    rw [hthen] at hread
    obtain ⟨rfl, rfl⟩ := Prod.mk.inj (Option.some.inj hread)
    exact h tokens a after hfirst

theorem optional (h : Yields p P) :
    Yields (Option.some <$> p) fun found => ∀ a ∈ found, P a := by
  refine map (h.mono ?_)
  intro a ha b hb
  rw [← Option.some.inj hb]
  exact ha

theorem ite {c : Prop} [Decidable c] (hp : Yields p P) (hq : Yields q P) :
    Yields (if c then p else q) P := by
  split
  · exact hp
  · exact hq

theorem branch {c : Prop} [Decidable c] {f : α → Parser β} (hp : Yields p P) (hq : Yields q P)
    (hf : ∀ a, P a → Yields (f a) R) : Yields (if c then p >>= f else q >>= f) R :=
  ite (bind hp hf) (bind hq hf)

theorem maybe {c : Prop} [Decidable c] {p : Parser Unit} {f : Unit → Parser β}
    (hf : ∀ u, Yields (f u) R) : Yields (if c then p >>= f else f ()) R :=
  ite (after hf) (hf ())

theorem orElse (hp : Yields p P) (hq : Yields q P) : Yields (Parser.orElse p q) P := by
  intro tokens a rest hread
  rw [Parser.orElse] at hread
  split at hread
  · rename_i result hfirst
    obtain rfl := Option.some.inj hread
    exact hp tokens a rest hfirst
  · exact hq tokens a rest hread

/-! ## Repetition -/

theorem repeatWhile {more : Parser Bool} {item : Parser α} (h : Yields item P) (limit : Nat) :
    Yields (Parser.repeatWhile more item limit) fun as => ∀ a ∈ as, P a := by
  induction limit with
  | zero => exact pure (by simp)
  | succ limit ih =>
    rw [Parser.repeatWhile]
    refine after fun goesOn => ite (bind h fun a ha => bind ih fun as has => pure ?_)
      (pure (by simp))
    exact List.forall_mem_cons.mpr ⟨ha, has⟩

theorem extend {step : α → Parser (Option α)}
    (hstep : ∀ a, P a → Yields (step a) fun found => ∀ b ∈ found, P b) (limit : Nat) {a : α}
    (ha : P a) : Yields (Parser.extend step limit a) P := by
  induction limit generalizing a with
  | zero => exact pure ha
  | succ limit ih =>
    rw [Parser.extend]
    refine bind (hstep a ha) fun found hfound => ?_
    cases found with
    | none => exact pure ha
    | some b => exact ih (hfound b rfl)

theorem afterCommas {starts : Parser Bool} {item : Parser α} (h : Yields item P) (limit : Nat) :
    Yields (Parser.afterCommas starts item limit) fun as => ∀ a ∈ as, P a := by
  induction limit with
  | zero => exact pure (by simp)
  | succ limit ih =>
    rw [Parser.afterCommas]
    refine after fun comma => ite (after fun goesOn => ite ?_ (pure (by simp))) (pure (by simp))
    refine bind h fun a ha => bind ih fun as has => pure ?_
    exact List.forall_mem_cons.mpr ⟨ha, has⟩

theorem commaList {starts : Parser Bool} {item : Parser α} (h : Yields item P) (limit : Nat) :
    Yields (Parser.commaList starts item limit) fun found => ∀ a ∈ found.1, P a := by
  rw [Parser.commaList]
  refine bind h fun a ha => after fun comma => bind (afterCommas h limit) fun as has => pure ?_
  exact List.forall_mem_cons.mpr ⟨ha, has⟩

end Yields

end ArchLint.Source

/-! ## Nodes -/

namespace ArchLint.Syntax

/-- A well-formed node of the family. -/
structure Node.Is (family : Family) (n : Node) : Prop where
  family_eq : n.kind.family = some family
  whole : n.isWellFormed = true

/-- The value has the shape, and the nodes in it are well-formed. -/
structure Shape.Holds (shape : Shape) (v : Value) : Prop where
  fits : shape.fits v = true
  whole : ∀ c ∈ v.nodes, c.isWellFormed = true

namespace Shape.Holds

variable {family : Family}

theorem one {n : Node} (h : n.Is family) : (Shape.one family).Holds (.node n) := by
  refine ⟨beq_iff_eq.mpr h.family_eq, ?_⟩
  intro c hc
  rw [List.mem_singleton.mp hc]
  exact h.whole

theorem none : (Shape.optional family).Holds .null :=
  ⟨rfl, fun _ hc => absurd hc List.not_mem_nil⟩

theorem some {n : Node} (h : n.Is family) : (Shape.optional family).Holds (.node n) :=
  ⟨(one h).fits, (one h).whole⟩

theorem optional {o : Option Node} (h : ∀ n ∈ o, n.Is family) :
    (Shape.optional family).Holds (Source.optionalNode o) := by
  cases o with
  | none => exact none
  | some n => exact some (h n rfl)

theorem holes {items : List Value} (h : ∀ v ∈ items, (Shape.optional family).Holds v) :
    (Shape.holes family).Holds (.list items) := by
  refine ⟨List.all_eq_true.mpr fun v hv => (h v hv).fits, ?_⟩
  intro c hc
  obtain ⟨v, hv, hnode⟩ := List.mem_filterMap.mp hc
  refine (h v hv).whole c ?_
  cases v with
  | node d =>
    rw [← Option.some.inj hnode]
    exact List.mem_singleton_self d
  | _ => exact absurd hnode (by simp [Value.node?])

theorem many {ns : List Node} (h : ∀ n ∈ ns, n.Is family) :
    (Shape.many family).Holds (Source.nodeList ns) := by
  have hall : ∀ v ∈ ns.map Value.node, v.isOf family = true ∧
      ∀ c ∈ v.nodes, c.isWellFormed = true := by
    intro v hv
    obtain ⟨n, hn, rfl⟩ := List.mem_map.mp hv
    exact ⟨(one (h n hn)).fits, (one (h n hn)).whole⟩
  refine ⟨List.all_eq_true.mpr fun v hv => (hall v hv).1, ?_⟩
  intro c hc
  obtain ⟨v, hv, hnode⟩ := List.mem_filterMap.mp hc
  obtain ⟨n, hn, rfl⟩ := List.mem_map.mp hv
  rw [← Option.some.inj hnode]
  exact (h n hn).whole

theorem text (s : String) : Shape.text.Holds (.text s) :=
  ⟨by rw [Shape.fits, Value.text?_text]; rfl, fun _ hc => absurd hc List.not_mem_nil⟩

theorem noText : Shape.optionalText.Holds .null :=
  ⟨rfl, fun _ hc => absurd hc List.not_mem_nil⟩

theorem optionalText (o : Option String) : Shape.optionalText.Holds (Source.optionalText o) := by
  cases o with
  | none => exact noText
  | some s =>
    refine ⟨?_, (text s).whole⟩
    rw [Source.optionalText, Shape.fits, Value.text?_text]
    exact Bool.or_true _

theorem texts (names : List String) : Shape.texts.Holds (.list (names.map .text)) := by
  refine ⟨List.all_eq_true.mpr ?_, ?_⟩
  · intro v hv
    obtain ⟨s, _, rfl⟩ := List.mem_map.mp hv
    exact (text s).fits
  · intro c hc
    obtain ⟨v, hv, hnode⟩ := List.mem_filterMap.mp hc
    obtain ⟨s, _, rfl⟩ := List.mem_map.mp hv
    exact absurd hnode (by simp [Value.text, Value.node?])

theorem number (k : Int) : Shape.number.Holds (.int k) :=
  ⟨rfl, fun _ hc => absurd hc List.not_mem_nil⟩

theorem optionalNumber (k : Int) : Shape.optionalNumber.Holds (.int k) :=
  ⟨rfl, fun _ hc => absurd hc List.not_mem_nil⟩

theorem literal (c : Constant) : Shape.literal.Holds (.constant c) :=
  ⟨rfl, fun _ hc => absurd hc List.not_mem_nil⟩

theorem empty : Shape.empty.Holds (.list []) :=
  ⟨rfl, fun _ hc => absurd hc List.not_mem_nil⟩

end Shape.Holds

/-- Fields hold what a table says, in order. -/
inductive FieldsHold : List (Field × Shape) → List (Field × Value) → Prop where
  | nil : FieldsHold [] []
  | cons {field : Field} {shape : Shape} {value : Value} {more : List (Field × Shape)}
      {rest : List (Field × Value)} :
      shape.Holds value → FieldsHold more rest →
        FieldsHold ((field, shape) :: more) ((field, value) :: rest)

theorem FieldsHold.fit {shapes : List (Field × Shape)} {fields : List (Field × Value)}
    (h : FieldsHold shapes fields) (kind : Kind) : fieldsFit kind shapes fields = true := by
  induction h with
  | nil => rfl
  | cons hvalue _ ih => rw [fieldsFit, if_pos rfl, hvalue.fits, ih]; rfl

theorem FieldsHold.whole {shapes : List (Field × Shape)} {fields : List (Field × Value)}
    (h : FieldsHold shapes fields) :
    ∀ c ∈ fields.flatMap fun (_, value) => value.nodes, c.isWellFormed = true := by
  induction h with
  | nil => exact fun c hc => absurd hc List.not_mem_nil
  | cons hvalue _ ih =>
    intro c hc
    rw [List.flatMap_cons] at hc
    rcases List.mem_append.mp hc with hc | hc
    · exact hvalue.whole c hc
    · exact ih c hc

/-- **A node whose fields hold what they should is well-formed.** -/
theorem Node.Is.build {family : Family} {kind : Kind} {line : Option Int}
    {fields : List (Field × Value)} (hfamily : kind.family = some family)
    (hfields : FieldsHold kind.shapes fields) (hsound : (Node.mk kind line fields).isSound = true) :
    (Node.mk kind line fields).Is family := by
  refine ⟨hfamily, Node.isWellFormed_iff.mpr ⟨?_, hfields.whole⟩⟩
  rw [Node.isProper, hsound]
  have hfit : fieldsFit kind kind.shapes fields = true := hfields.fit kind
  have hsome : kind.family.isSome = true := by rw [hfamily]; rfl
  simp only [Node.kind, Node.fields, hfit, hsome, Bool.and_self]

end ArchLint.Syntax
