import ArchLint.Text.CodeRange
import ArchLint.Text.Pieces

/-!
# Rolls of character names

The names that a standard gives to characters are kept as rolls.  A roll is a text of entries with
commas between them.  An entry says how many words a name shares with the one before it, and what
its other words are: in `"61:0LATIN SMALL LETTER A,3B,3C"` the third name is `LATIN SMALL LETTER C`.
A name belongs to the character after that of the name before, unless the entry starts with a code
point of its own.
-/

namespace ArchLint.Text.Name

abbrev Words := List (List Char)

/-- The words of a text; of an empty text there are none. -/
def wordsOf (text : List Char) : Words :=
  if text.isEmpty then [] else pieces ' ' text

structure Entry where
  /-- The code point, when it is not the next one. -/
  code? : Option Nat
  /-- How many words are those of the name before. -/
  shared : Nat
  /-- The words after these. -/
  words : Words
  deriving DecidableEq, Repr

namespace Entry

def ofBody (code? : Option Nat) : List Char → Entry
  | [] => ⟨code?, 0, []⟩
  | digit :: text => ⟨code?, hexDigitValue digit, wordsOf text⟩

def ofText (text : List Char) : Entry :=
  let text := text.dropWhile fun c => c = ' ' || c = '\n'
  let head := text.takeWhile (· != ':')
  match text.drop head.length with
  | [] => ofBody none text
  | _ :: body => ofBody (some (hexValue head)) body

/-- The name that the entry stands for, after another one. -/
def nameAfter (entry : Entry) (before : Words) : Words :=
  before.take entry.shared ++ entry.words

end Entry

/-- The character with the given name among the entries that follow a name; `next` is the character
after that of the name. -/
def findAfter (name : Words) : List Entry → Nat → Words → Option Nat
  | [], _, _ => none
  | entry :: rest, next, before =>
    let code := entry.code?.getD next
    let found := entry.nameAfter before
    if found = name then some code else findAfter name rest (code + 1) found

def findOn (roll : String) (name : Words) : Option Nat :=
  findAfter name ((pieces ',' roll.toList).map Entry.ofText) 0 []

end ArchLint.Text.Name
