import ArchLint.Syntax.Printer.Statement

/-!
# The printer

Ties the rules together: every field of a node is turned into a slot that knows how to print what
it holds, and the rule of the node's class does the rest.

* `Node.show_mk`: a node is printed by the rule of its class, from its fields printed one by one.
-/

namespace ArchLint.Syntax

open ArchLint.Text (Letters)

/-- The rule of a node: as a part of a formatted text, as a parameter with stars, else as an
expression or as a statement, of which one is empty. -/
def Form.rule (form : Form) : List Piece :=
  match form.style.place with
  | .part => form.asPart
  | .rest => form.parameter Slot.written
  | .namedRest => form.parameter (Slot.writtenAfter "**")
  | .ordinary | .elseIf => form.expression ++ form.statement

mutual

def Node.show : Node → Style → List Piece
  | .mk kind line fields => fun style => Form.rule ⟨kind, line, slotsOfFields fields, style⟩

def slotsOfFields : List (Field × Value) → List (Field × Slot)
  | [] => []
  | (field, value) :: rest => (field, value.slot) :: slotsOfFields rest

def Value.slot : Value → Slot
  | .node n => .node n n.show
  | .list items => .list (slotsOfItems items)
  | .constant c => .other c

def slotsOfItems : List Value → List Slot
  | [] => []
  | value :: rest => value.slot :: slotsOfItems rest

end

theorem slotsOfFields_eq (fields : List (Field × Value)) :
    slotsOfFields fields = fields.map fun (field, value) => (field, value.slot) := by
  induction fields with
  | nil => rfl
  | cons head rest ih =>
    obtain ⟨field, value⟩ := head
    simp [slotsOfFields, ih]

theorem slotsOfItems_eq (items : List Value) : slotsOfItems items = items.map Value.slot := by
  induction items with
  | nil => rfl
  | cons value rest ih => simp [slotsOfItems, ih]

theorem Node.show_mk (kind : Kind) (line : Option Int) (fields : List (Field × Value))
    (style : Style) :
    (Node.mk kind line fields).show style =
      Form.rule ⟨kind, line, fields.map fun (field, value) => (field, value.slot), style⟩ := by
  rw [Node.show, slotsOfFields_eq]

def printPieces (pieces : List Piece) : Except Fault String :=
  (assemble pieces).map Letters.toString

def Node.print (n : Node) : Except Fault String :=
  printPieces (n.show {})

/-- The value of a field as source text: a node, or the nodes of a list one after the other. -/
def Value.print (v : Value) : Except Fault String :=
  printPieces (v.slot.pieces {})

theorem Value.print_node (n : Node) : (Value.node n).print = n.print := by
  simp only [Value.print, Node.print, Value.slot, Slot.pieces]

end ArchLint.Syntax
