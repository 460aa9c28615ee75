import ArchLint.Number.Decimal
import ArchLint.Syntax.Fault
import ArchLint.Text.Quoted

/-!
# Spelling of values

How the value of a literal is written in source, and how any value is shown in messages.
-/

namespace ArchLint.Syntax

open ArchLint.Number (Binary64)
open ArchLint.Text (Letters)

namespace Constant

/-- The spelling of a value, given that of numbers without digits. -/
def spellWith (real : Binary64.Spelling) : Constant → String
  | .text t => Text.quoteLetters t
  | .bytes b => Text.quoteBytes b
  | .int n => toString n
  | .float x => String.ofList (x.signedText real)
  | .complex re im => String.ofList (Binary64.complexText { real with whole := false } re im)
  | .bool true => "True"
  | .bool false => "False"
  | .none => "None"
  | .ellipsis => "Ellipsis"

/-- The spelling of a literal: infinity is a literal too large for a number, and what is not a
number is a difference of two of those. -/
def spelling : Constant → String :=
  spellWith ⟨true, "1e309", "(1e309-1e309)"⟩

/-- The value as messages show it. -/
def repr : Constant → String :=
  spellWith ⟨true, "inf", "nan"⟩

/-- Whether the value is a whole number with more digits than can be written. -/
def isTooLong : Constant → Bool
  | .int n => Number.maxDigits < Number.digitCount n.natAbs
  | _ => false

/-- Whether the value is a whole number, truth values included. -/
def isInteger : Constant → Bool
  | .int _ => true
  | .bool _ => true
  | _ => false

end Constant

mutual

def Value.repr : Value → String
  | .node (.mk kind _ _) => "<ast." ++ kind.label ++ " object>"
  | .list items => "[" ++ reprItems items ++ "]"
  | .constant c => c.repr

def reprItems : List Value → String
  | [] => ""
  | [last] => last.repr
  | first :: rest => first.repr ++ ", " ++ reprItems rest

end

/-- The value as it stands in a text: text is not quoted. -/
def Value.shown (v : Value) : String :=
  v.text?.getD v.repr

end ArchLint.Syntax
