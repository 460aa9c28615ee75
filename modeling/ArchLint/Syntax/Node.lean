import ArchLint.Number.Binary64
import ArchLint.Syntax.Kind
import ArchLint.Text.Letter

/-!
# Syntax trees

A node has a class, a line when it is known, and values for some of its fields.  Trees that are
read from elsewhere may lack fields or hold anything in them, so nothing is assumed about either:
`Node.get?` is the only way to a field.

* `Node.count_eq`: a tree has as many nodes as its root and the trees below it.
* `Node.childInduction`: what passes from the children of a node to the node holds of every tree.
-/

namespace ArchLint.Syntax

open ArchLint.Number (Binary64)
open ArchLint.Text (Letters)

inductive Constant where
  | text (t : Letters)
  | bytes (b : List UInt8)
  | int (n : Int)
  | float (x : Binary64)
  | complex (re im : Binary64)
  | bool (b : Bool)
  | none
  | ellipsis
  deriving DecidableEq, Repr

namespace Constant

/-- Whether the value counts as given: nothing, what is empty, zero and false do not. -/
def isSet : Constant → Bool
  | .text t => !t.isEmpty
  | .bytes b => !b.isEmpty
  | .int n => n != 0
  | .float x => !x.isZero
  | .complex re im => !(re.isZero && im.isZero)
  | .bool b => b
  | .none => false
  | .ellipsis => true

/-- The class of the value, as messages show it. -/
def label : Constant → String
  | .text _ => "str"
  | .bytes _ => "bytes"
  | .int _ => "int"
  | .float _ => "float"
  | .complex _ _ => "complex"
  | .bool _ => "bool"
  | .none => "NoneType"
  | .ellipsis => "ellipsis"

end Constant

mutual

/-- A node of a syntax tree, with its fields in the order of traversal. -/
inductive Node where
  | mk (kind : Kind) (line : Option Int) (fields : List (Field × Value))

inductive Value where
  | node (n : Node)
  | list (items : List Value)
  | constant (c : Constant)

end

deriving instance Repr for Node, Value

instance : Inhabited Node := ⟨.mk .pass none []⟩
instance : Inhabited Value := ⟨.constant .none⟩

/-! ## Equality -/

mutual

def Node.decEq : (a b : Node) → Decidable (a = b)
  | .mk kind line fields, .mk kind' line' fields' =>
    have := decEqFields fields fields'
    decidable_of_iff (kind = kind' ∧ line = line' ∧ fields = fields') (by simp)

def decEqFields : (a b : List (Field × Value)) → Decidable (a = b)
  | [], [] => .isTrue rfl
  | [], _ :: _ => .isFalse (by simp)
  | _ :: _, [] => .isFalse (by simp)
  | (field, value) :: rest, (field', value') :: rest' =>
    have := value.decEq value'
    have := decEqFields rest rest'
    decidable_of_iff (field = field' ∧ value = value' ∧ rest = rest') (by simp [and_assoc])

def Value.decEq : (a b : Value) → Decidable (a = b)
  | .node n, .node n' =>
    have := n.decEq n'
    decidable_of_iff (n = n') (by simp)
  | .list items, .list items' =>
    have := decEqItems items items'
    decidable_of_iff (items = items') (by simp)
  | .constant c, .constant c' => decidable_of_iff (c = c') (by simp)
  | .node _, .list _ => .isFalse (by simp)
  | .node _, .constant _ => .isFalse (by simp)
  | .list _, .node _ => .isFalse (by simp)
  | .list _, .constant _ => .isFalse (by simp)
  | .constant _, .node _ => .isFalse (by simp)
  | .constant _, .list _ => .isFalse (by simp)

def decEqItems : (a b : List Value) → Decidable (a = b)
  | [], [] => .isTrue rfl
  | [], _ :: _ => .isFalse (by simp)
  | _ :: _, [] => .isFalse (by simp)
  | value :: rest, value' :: rest' =>
    have := value.decEq value'
    have := decEqItems rest rest'
    decidable_of_iff (value = value' ∧ rest = rest') (by simp)

end

instance : DecidableEq Node := Node.decEq
instance : DecidableEq Value := Value.decEq

namespace Value

@[match_pattern] abbrev null : Value := .constant .none

@[match_pattern] abbrev int (n : Int) : Value := .constant (.int n)

@[match_pattern] abbrev bool (b : Bool) : Value := .constant (.bool b)

def text (s : String) : Value := .constant (.text (Letters.ofString s))

def text? : Value → Option String
  | .constant (.text t) => some (Letters.toString t)
  | _ => none

@[simp] theorem text?_text (s : String) : (text s).text? = some s := by
  simp [text, text?]

def node? : Value → Option Node
  | .node n => some n
  | _ => none

/-- The nodes of a field: itself, or those of a list. -/
def nodes : Value → List Node
  | .node n => [n]
  | .list items => items.filterMap node?
  | .constant _ => []

def isSet : Value → Bool
  | .node _ => true
  | .list items => !items.isEmpty
  | .constant c => c.isSet

def label : Value → String
  | .node (.mk kind _ _) => kind.label
  | .list _ => "list"
  | .constant c => c.label

end Value

namespace Node

def kind : Node → Kind
  | .mk kind _ _ => kind

/-- The line of the node's first token, when it is known. -/
def line : Node → Option Int
  | .mk _ line _ => line

def fields : Node → List (Field × Value)
  | .mk _ _ fields => fields

/-- A node with the given fields, put in the order of traversal; fields that nodes of the class do
not have are left out. -/
def ofFields (kind : Kind) (line : Option Int) (fields : List (Field × Value)) : Node :=
  .mk kind line (kind.fields.filterMap fun (f, _) => (fields.lookup f).map fun v => (f, v))

def get? (n : Node) (field : Field) : Option Value :=
  n.fields.lookup field

/-- What a field is to those who ask for it: nothing when the node can do without it and does. -/
def attribute? (n : Node) (field : Field) : Option Value :=
  match n.get? field with
  | some value => some value
  | none => if n.kind.isOptional field then some .null else none

/-- The line of the node, 0 when it is not known. -/
def lineNumber (n : Node) : Int :=
  n.line.getD 0

/-- The nodes directly below, in the order of traversal. -/
def children (n : Node) : List Node :=
  n.fields.flatMap fun (_, value) => value.nodes

end Node

/-! ## Size -/

mutual

def Node.count : Node → Nat
  | .mk _ _ fields => 1 + countFields fields

def countFields : List (Field × Value) → Nat
  | [] => 0
  | (_, value) :: rest => value.count + countFields rest

/-- The number of nodes in a value, other than lists within lists. -/
def Value.count : Value → Nat
  | .node n => n.count
  | .list items => countItems items
  | .constant _ => 0

def countItems : List Value → Nat
  | [] => 0
  | .node n :: rest => n.count + countItems rest
  | _ :: rest => countItems rest

end

def countAll (trees : List Node) : Nat :=
  trees.foldr (fun n total => n.count + total) 0

theorem countAll_cons (n : Node) (rest : List Node) :
    countAll (n :: rest) = n.count + countAll rest := rfl

theorem countAll_append (xs ys : List Node) : countAll (xs ++ ys) = countAll xs + countAll ys := by
  induction xs with
  | nil => simp [countAll]
  | cons n rest ih => rw [List.cons_append, countAll_cons, countAll_cons, ih, Nat.add_assoc]

theorem countItems_eq (items : List Value) :
    countItems items = countAll (items.filterMap Value.node?) := by
  induction items with
  | nil => rfl
  | cons v rest ih => cases v <;> simp [countItems, Value.node?, ih, List.filterMap_cons, countAll_cons]

theorem Value.count_eq (v : Value) : v.count = countAll v.nodes := by
  cases v <;> simp [Value.count, Value.nodes, countItems_eq, countAll]

theorem countFields_eq (fields : List (Field × Value)) :
    countFields fields = countAll (fields.flatMap fun (_, v) => v.nodes) := by
  induction fields with
  | nil => rfl
  | cons head rest ih =>
    obtain ⟨f, v⟩ := head
    rw [countFields, List.flatMap_cons, countAll_append, Value.count_eq, ih]

namespace Node

theorem count_eq (n : Node) : n.count = 1 + countAll n.children := by
  cases n
  rw [Node.count, countFields_eq]
  rfl

theorem count_pos (n : Node) : 0 < n.count := by
  rw [count_eq]
  omega

theorem count_le_countAll {n : Node} {trees : List Node} (h : n ∈ trees) :
    n.count ≤ countAll trees := by
  induction trees with
  | nil => simp at h
  | cons m rest ih =>
    rw [countAll_cons]
    rcases List.mem_cons.mp h with rfl | h
    · omega
    · have := ih h
      omega

theorem count_lt_of_mem {n c : Node} (h : c ∈ n.children) : c.count < n.count := by
  rw [count_eq n]
  have := count_le_countAll h
  omega

/-- **Induction over children.**  What holds of a node whenever it holds of the nodes directly below
it holds of every node. -/
theorem childInduction {P : Node → Prop} (step : ∀ n, (∀ c ∈ n.children, P c) → P n) :
    ∀ n, P n := by
  intro n
  induction hn : n.count using Nat.strongRecOn generalizing n with
  | _ m ih =>
    refine step n fun c hc => ih c.count ?_ c rfl
    have := count_lt_of_mem hc
    omega

end Node
end ArchLint.Syntax
