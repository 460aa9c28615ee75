/-!
# Ranges of code points

A property of characters that a standard defines is kept as a table: hexadecimal ranges in rising
order, `"ad 600-605"` being the code point AD and those from 600 to 605.
-/

namespace ArchLint.Text

/-- The value of a hexadecimal digit; other characters count as zero. -/
def hexDigitValue (c : Char) : Nat :=
  if '0' ≤ c ∧ c ≤ '9' then c.toNat - '0'.toNat
  else if 'a' ≤ c ∧ c ≤ 'f' then c.toNat - 'a'.toNat + 10
  else if 'A' ≤ c ∧ c ≤ 'F' then c.toNat - 'A'.toNat + 10
  else 0

def hexValue (digits : List Char) : Nat :=
  digits.foldl (fun n c => 16 * n + hexDigitValue c) 0

/-- Inclusive ranges of code points. -/
abbrev CodeRanges := List (Nat × Nat)

namespace CodeRanges

/-- One entry of a table: `"600-605"`, or `"ad"` for a single code point. -/
def ofEntry (entry : List Char) : Nat × Nat :=
  let first := entry.takeWhile (· != '-')
  match entry.dropWhile (· != '-') with
  | [] => (hexValue first, hexValue first)
  | _ :: last => (hexValue first, hexValue last)

/-- The entries of a table, set apart by blanks and line ends. -/
def entries (table : List Char) : List (List Char) :=
  let (last, done) := table.foldr (fun c (entry, done) =>
    if c = ' ' ∨ c = '\n' then ([], entry :: done) else (c :: entry, done)) ([], [])
  (last :: done).filter fun entry => !entry.isEmpty

def ofText (table : String) : CodeRanges :=
  (entries table.toList).map ofEntry

def mem (ranges : CodeRanges) (code : Nat) : Bool :=
  ranges.any fun r => r.1 ≤ code && code ≤ r.2

end CodeRanges
end ArchLint.Text
