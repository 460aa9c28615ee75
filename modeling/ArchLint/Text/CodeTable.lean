import ArchLint.Text.CodeRange
import ArchLint.Text.Pieces

/-!
# Tables on code points

A standard's mapping from code points to lists of numbers is kept as a table: `"c0=41,300"` maps the
code point C0 to 41 and 300.  In an entry for a range the image is one number and grows along with
the range: `"ff21-ff3a=41"` maps FF22 to 42.
-/

namespace ArchLint.Text

/-- Ranges of code points with the image of the first one. -/
abbrev CodeTable := List (Nat × Nat × List Nat)

namespace CodeTable

def ofEntry (entry : List Char) : Nat × Nat × List Nat :=
  let (first, last) := CodeRanges.ofEntry (entry.takeWhile (· != '='))
  (first, last, (pieces ',' ((entry.dropWhile (· != '=')).drop 1)).map hexValue)

def ofText (table : String) : CodeTable :=
  (CodeRanges.entries table.toList).map ofEntry

/-- The image of a code point, shifted as far as it lies from the start of its range. -/
def get? (table : CodeTable) (code : Nat) : Option (List Nat) :=
  (table.find? fun (first, last, _) => first ≤ code && code ≤ last).map fun (first, _, image) =>
    match image with
    | [single] => [single + (code - first)]
    | _ => image

/-- The code point with the given image, which is no range. -/
def preimage? (table : CodeTable) (image : List Nat) : Option Nat :=
  (table.find? fun (_, _, found) => found == image).map (·.1)

end CodeTable
end ArchLint.Text
