import ArchLint.Text.Composition
import ArchLint.Text.Decomposition

/-!
# Normal form of identifiers

Two spellings of one identifier are made equal: characters are decomposed, the marks on a letter are
put in order, and what can be written as one character is.  Plain ASCII is its own normal form.
-/

namespace ArchLint.Text

/-- The class of a mark; letters have the class 0. -/
def markClass (code : Nat) : Nat :=
  match markClasses.find? fun (first, last, _) => first ≤ code && code ≤ last with
  | some (_, _, [k]) => k
  | _ => 0

def decompose (code : Nat) : List Nat :=
  if code < 128 then [code] else (decompositions.get? code).getD [code]

/-- Puts a code point in front of others, behind the marks that go before it. -/
def insertMark (code : Nat) : List Nat → List Nat
  | [] => [code]
  | next :: rest =>
    if 0 < markClass next && markClass next < markClass code then next :: insertMark code rest
    else code :: next :: rest

def orderMarks (codes : List Nat) : List Nat :=
  codes.foldr insertMark []

/-- The syllable that is written with a leading consonant and a vowel, or with a syllable and a
closing consonant. -/
def syllable? (a b : Nat) : Option Nat :=
  if 0x1100 ≤ a && a < 0x1113 && 0x1161 ≤ b && b < 0x1176 then
    some (0xac00 + ((a - 0x1100) * 21 + (b - 0x1161)) * 28)
  else if 0xac00 ≤ a && a < 0xd7a4 && (a - 0xac00) % 28 = 0 && 0x11a8 ≤ b && b < 0x11c3 then
    some (a + (b - 0x11a7))
  else none

def composePair? (a b : Nat) : Option Nat :=
  (syllable? a b).orElse fun _ => compositions.preimage? [a, b]

/-- Composes code points after a letter with its marks so far, last mark first.  A mark is composed
with the letter unless a mark of the same or a higher class stands between them. -/
def composeFrom (letter : Nat) (marks : List Nat) : List Nat → List Nat
  | [] => letter :: marks.reverse
  | code :: rest =>
    let near := match marks with
      | [] => true
      | last :: _ => markClass last < markClass code
    match if near then composePair? letter code else none with
    | some both => composeFrom both marks rest
    | none =>
      if markClass code = 0 then letter :: marks.reverse ++ composeFrom code [] rest
      else composeFrom letter (code :: marks) rest

def normalize (text : String) : String :=
  if text.toList.all (·.toNat < 128) then text
  else
    match orderMarks (text.toList.flatMap fun c => decompose c.toNat) with
    | [] => ""
    | first :: rest => String.ofList ((composeFrom first [] rest).map Char.ofNat)

end ArchLint.Text
