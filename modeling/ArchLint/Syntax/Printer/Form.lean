import ArchLint.Syntax.Printer.Level
import ArchLint.Syntax.Printer.Piece
import ArchLint.Syntax.Spelling

/-!
# Forms

The rules of the printer do not recurse: a rule is given a node as a `Form`, in which every field
that holds a node comes with a way to print it, and answers with pieces.  A field can hold anything,
so a rule asks for what it needs, in a fixed order, and stops at the first thing that is not there.
-/

namespace ArchLint.Syntax

open ArchLint.Text (Letter Letters)

/-- As what a node is printed. -/
inductive Place where
  /-- As itself. -/
  | ordinary
  /-- As a part of a formatted text. -/
  | part
  /-- As a conditional that continues the one before it. -/
  | elseIf
  /-- As the parameter that takes the other positional arguments. -/
  | rest
  /-- As the parameter that takes the other named arguments. -/
  | namedRest
  deriving DecidableEq, Repr, Inhabited

/-- How a node is to be printed. -/
structure Style where
  /-- The level of the place where it stands. -/
  level : Level := .test
  /-- The depth of indentation. -/
  indent : Nat := 0
  /-- Whether backslashes are to be avoided, as inside a replacement field. -/
  plain : Bool := false
  /-- Whether the handlers around it are for groups. -/
  group : Bool := false
  place : Place := .ordinary

/-- What a field holds, with a way to print each node. -/
inductive Slot where
  | node (n : Node) (print : Style → List Piece)
  | list (items : List Slot)
  | other (c : Constant)

mutual

def Slot.value : Slot → Value
  | .node n _ => .node n
  | .list items => .list (slotValues items)
  | .other c => .constant c

def slotValues : List Slot → List Value
  | [] => []
  | slot :: rest => slot.value :: slotValues rest

end

mutual

/-- The slot, printed: a node, or the items of a list one after the other. -/
def Slot.pieces (style : Style) : Slot → List Piece
  | .node _ print => print style
  | .list items => itemPieces style items
  | .other c => [.stop (.lacks c.label "_fields")]

def itemPieces (style : Style) : List Slot → List Piece
  | [] => []
  | slot :: rest => slot.pieces style ++ itemPieces style rest

end

namespace Slot

def isSet : Slot → Bool
  | .node _ _ => true
  | .list items => !items.isEmpty
  | .other c => c.isSet

def label : Slot → String
  | .node n _ => n.kind.label
  | .list _ => "list"
  | .other c => c.label

def kind? : Slot → Option Kind
  | .node n _ => some n.kind
  | _ => none

def constant? : Slot → Option Constant
  | .node n _ =>
    match n.kind, n.get? .value with
    | .constant, some (.constant c) => some c
    | _, _ => none
  | _ => none

/-- The items of a list, the letters of a text, the numbers of bytes. -/
def items? : Slot → Option (List Slot)
  | .list items => some items
  | .other (.text t) => some (t.map fun letter => .other (.text [letter]))
  | .other (.bytes b) => some (b.map fun n => .other (.int n.toNat))
  | _ => none

def written : Slot → Piece
  | .other (.text t) => .text t
  | slot => .odd slot.label

/-- The text of the slot after another text, in one piece. -/
def writtenAfter (lead : String) : Slot → Piece
  | .other (.text t) => .text (Letters.ofString lead ++ t)
  | slot => .stop (.notJoinable "str" slot.label)

/-- What the slot shows, whatever it is. -/
def shown (slot : Slot) : String :=
  slot.value.shown

def isText (slot : Slot) (s : String) : Bool :=
  slot.value == .text s

/-- A level can be set for a node and for a literal, but not for a list. -/
def settled : Slot → List Piece
  | .list _ => [.stop (.unhashable "list")]
  | _ => []

def part (style : Style) : Slot → List Piece
  | .node _ print => print { style with place := .part }
  | slot => [.stop (.strayPart slot.value.repr)]

end Slot

/-- A node as the rules see it. -/
structure Form where
  kind : Kind
  line : Option Int
  slots : List (Field × Slot)
  style : Style

namespace Form

/-- Goes on with a field; without it, the fault is that it is missing. -/
def need (form : Form) (field : Field) (rule : Slot → List Piece) : List Piece :=
  match form.slots.lookup field with
  | some slot => rule slot
  | none =>
    if form.kind.isOptional field then rule (.other .none)
    else [.stop (.missingField form.kind field)]

def each (slot : Slot) (rule : List Slot → List Piece) : List Piece :=
  match slot.items? with
  | some items => rule items
  | none => [.stop (.notIterable slot.label)]

/-- Goes on with the items of a slot that is spread out. -/
def spread (slot : Slot) (rule : List Slot → List Piece) : List Piece :=
  match slot.items? with
  | some items => rule items
  | none => [.stop (.notSpreadable slot.label)]

/-- Goes on with the items of a slot whose length is asked for. -/
def measure (slot : Slot) (rule : List Slot → List Piece) : List Piece :=
  match slot.items? with
  | some items => rule items
  | none => [.stop (.noLength slot.label)]

/-- Goes on when the line of the node is known. -/
def withLine (form : Form) (pieces : List Piece) : List Piece :=
  if form.line.isSome then pieces else [.stop (.missingLine form.kind)]

def below (form : Form) (level : Level) : Style :=
  { form.style with level := level, place := .ordinary }

/-- What stands inside the node, at a level that is set already. -/
def child (form : Form) (level : Level) (slot : Slot) : List Piece :=
  slot.pieces (form.below level)

/-- What stands inside the node, at the level that every place has. -/
def inside (form : Form) (slot : Slot) : List Piece :=
  form.child .test slot

/-- What stands inside the node, for which the level is set first. -/
def childAt (form : Form) (level : Level) (slot : Slot) : List Piece :=
  slot.settled ++ form.child level slot

/-- Brackets around a rule's text when the node's own level is below that of its place. -/
def parens (form : Form) (level : Level) (body : List Piece) : List Piece :=
  if form.style.level.above level then .str "(" :: body ++ [.str ")"] else body

/-- The lists with the given text between them. -/
def between (text : String) : List (List Piece) → List Piece
  | [] => []
  | [last] => last
  | first :: rest => first ++ .str text :: between text rest

def commas (form : Form) (slot : Slot) : List Piece :=
  each slot fun items => between ", " (items.map form.inside)

/-- A tuple's items: commas between them, and one after a single item. -/
def tupleItems (form : Form) : List Slot → List Piece
  | [item] => form.inside item ++ [.str ","]
  | items => between ", " (items.map form.inside)

def lineStart (form : Form) : String :=
  String.ofList (List.replicate (4 * form.style.indent) ' ')

/-- A new line at the node's indentation. -/
def fill (form : Form) (text : String) : List Piece :=
  [.lineEnd, .str (form.lineStart ++ text)]

/-- A new line at the node's indentation that ends in the text of a slot. -/
def fillWith (form : Form) (text : String) (slot : Slot) : List Piece :=
  match slot.writtenAfter (form.lineStart ++ text) with
  | .stop fault => [.stop fault]
  | piece => [.lineEnd, piece]

/-- Statements one step further in. -/
def indented (form : Form) (slot : Slot) : List Piece :=
  slot.pieces { form.below .test with indent := form.style.indent + 1 }

/-- A block: a colon, then statements one step further in. -/
def block (form : Form) (field : Field) : List Piece :=
  .str ":" :: form.need field form.indented

/-- A further block with a heading of its own, when it has statements. -/
def extraBlock (form : Form) (heading : String) (field : Field) : List Piece :=
  form.need field fun slot =>
    if slot.isSet then form.fill heading ++ .str ":" :: form.indented slot else []

/-- A text before a part, when it is given. -/
def optional (form : Form) (lead : String) (field : Field) : List Piece :=
  form.need field fun slot => if slot.isSet then .str lead :: form.inside slot else []

end Form
end ArchLint.Syntax
