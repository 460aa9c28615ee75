import ArchLint.Syntax.Kind

/-!
# Binding levels of expressions

How tightly expressions bind, from the loosest to the tightest.  A node that stands in a place of a
higher level than its own is put in brackets.  The operators are listed with their spelling and
their level.
-/

namespace ArchLint.Syntax

inductive Level where
  | namedExpr | tuple | yield | test | or | and | not | cmp | expr | bxor | band | shift | arith
  | term | factor | power | await | atom
  deriving DecidableEq, Repr, Inhabited

namespace Level

/-- The rank of a level, the loosest first. -/
def rank : Level → Nat
  | .namedExpr => 0
  | .tuple => 1
  | .yield => 2
  | .test => 3
  | .or => 4
  | .and => 5
  | .not => 6
  | .cmp => 7
  | .expr => 8
  | .bxor => 9
  | .band => 10
  | .shift => 11
  | .arith => 12
  | .term => 13
  | .factor => 14
  | .power => 15
  | .await => 16
  | .atom => 17

/-- The level one step tighter; nothing is tighter than an atom. -/
def next : Level → Level
  | .namedExpr => .tuple
  | .tuple => .yield
  | .yield => .test
  | .test => .or
  | .or => .and
  | .and => .not
  | .not => .cmp
  | .cmp => .expr
  | .expr => .bxor
  | .bxor => .band
  | .band => .shift
  | .shift => .arith
  | .arith => .term
  | .term => .factor
  | .factor => .power
  | .power => .await
  | .await => .atom
  | .atom => .atom

/-- Whether `a` binds tighter than `b`. -/
def above (a b : Level) : Bool :=
  b.rank < a.rank

end Level

/-- The spelling of an operator between two operands, and its level. -/
def Kind.binaryOperator? : Kind → Option (String × Level)
  | .bitOr => some ("|", .expr)
  | .bitXor => some ("^", .bxor)
  | .bitAnd => some ("&", .band)
  | .lShift => some ("<<", .shift)
  | .rShift => some (">>", .shift)
  | .add => some ("+", .arith)
  | .sub => some ("-", .arith)
  | .mult => some ("*", .term)
  | .matMult => some ("@", .term)
  | .div => some ("/", .term)
  | .mod => some ("%", .term)
  | .floorDiv => some ("//", .term)
  | .pow => some ("**", .power)
  | _ => none

/-- The spelling of an operator before its operand, and its level. -/
def Kind.unaryOperator? : Kind → Option (String × Level)
  | .invert => some ("~", .factor)
  | .uAdd => some ("+", .factor)
  | .uSub => some ("-", .factor)
  | .notOp => some ("not", .not)
  | _ => none

def Kind.comparison? : Kind → Option String
  | .eq => some "=="
  | .notEq => some "!="
  | .lt => some "<"
  | .lte => some "<="
  | .gt => some ">"
  | .gte => some ">="
  | .isOp => some "is"
  | .isNot => some "is not"
  | .inOp => some "in"
  | .notIn => some "not in"
  | _ => none

def Kind.connective? : Kind → Option (String × Level)
  | .andOp => some ("and", .and)
  | .orOp => some ("or", .or)
  | _ => none

end ArchLint.Syntax
