import ArchLint.Syntax.Node

/-!
# Faults of a syntax tree

What can be wrong with a tree that was not read from source: a field that is not there, an operator
of the wrong kind, a value of the wrong class.  A tree that was read from source can have two faults
only: a replacement field that cannot be written without a backslash, and a whole number with too
many digits.

Where a fault names a class, it is the class of the value at fault, as messages show it.
-/

namespace ArchLint.Syntax

inductive Fault where
  /-- A node without a field that its class requires. -/
  | missingField (kind : Kind) (field : Field)
  /-- A node without a line where the line is needed. -/
  | missingLine (kind : Kind)
  /-- A value of a class that does not have what is asked of it. -/
  | lacks (label member : String)
  /-- An operator of another kind than its place asks for. -/
  | wrongOperator (label : String)
  /-- Something that is no text among the pieces of a text, with its place. -/
  | notText (place : Nat) (label : String)
  /-- Something without items where items are needed. -/
  | notIterable (label : String)
  /-- Something without items where items are to be spread out. -/
  | notSpreadable (label : String)
  /-- Something without a length where one is needed. -/
  | noLength (label : String)
  /-- Something that cannot be looked up. -/
  | unhashable (label : String)
  /-- Text or a list that is to be continued by something of another class. -/
  | notJoinable (label other : String)
  /-- Two values that have no sum. -/
  | notAddable (label other : String)
  /-- A number of repetitions that is no whole number. -/
  | notACount (label : String)
  /-- A number of repetitions that is too large. -/
  | largeCount
  /-- A code point that is no whole number. -/
  | notAnInteger (label : String)
  /-- A conversion that is no character. -/
  | badConversion
  /-- A conversion that is too large to be looked at. -/
  | largeConversion
  /-- The expression of a replacement field that needs a backslash. -/
  | backslashInField
  /-- A whole number with too many digits. -/
  | tooManyDigits
  /-- A part of a formatted text that is neither text nor a replacement field. -/
  | strayPart (shown : String)
  /-- A delegation without an expression. -/
  | missingDelegate
  /-- A cause without an exception. -/
  | causeWithoutException
  /-- Lists of different lengths that belong together. -/
  | unequalLists (second : Bool)
  deriving DecidableEq, Repr

namespace Fault

def message : Fault → String
  | .missingField kind field =>
    "'" ++ kind.label ++ "' object has no attribute '" ++ field.label ++ "'"
  | .missingLine kind => "'" ++ kind.label ++ "' object has no attribute 'lineno'"
  | .lacks label member => "'" ++ label ++ "' object has no attribute '" ++ member ++ "'"
  | .wrongOperator label => "'" ++ label ++ "'"
  | .notText place label =>
    "sequence item " ++ toString place ++ ": expected str instance, " ++ label ++ " found"
  | .notIterable label => "'" ++ label ++ "' object is not iterable"
  | .notSpreadable label => "Value after * must be an iterable, not " ++ label
  | .noLength label => "object of type '" ++ label ++ "' has no len()"
  | .unhashable label => "unhashable type: '" ++ label ++ "'"
  | .notJoinable label other =>
    "can only concatenate " ++ label ++ " (not \"" ++ other ++ "\") to " ++ label
  | .notAddable label other =>
    "unsupported operand type(s) for +: '" ++ label ++ "' and '" ++ other ++ "'"
  | .notACount label => "can't multiply sequence by non-int of type '" ++ label ++ "'"
  | .largeCount => "cannot fit 'int' into an index-sized integer"
  | .notAnInteger label => "'" ++ label ++ "' object cannot be interpreted as an integer"
  | .badConversion => "chr() arg not in range(0x110000)"
  | .largeConversion => "Python int too large to convert to C int"
  | .backslashInField => "Unable to avoid backslash in f-string expression part"
  | .tooManyDigits =>
    "Exceeds the limit (4300 digits) for integer string conversion; " ++
      "use sys.set_int_max_str_digits() to increase the limit"
  | .strayPart shown => "Unexpected node inside JoinedStr, " ++ shown
  | .missingDelegate => "Node can't be used without a value attribute."
  | .causeWithoutException => "Node can't use cause without an exception."
  | .unequalLists second =>
    "zip() argument 2 is " ++ (if second then "longer" else "shorter") ++ " than argument 1"

end Fault
end ArchLint.Syntax
