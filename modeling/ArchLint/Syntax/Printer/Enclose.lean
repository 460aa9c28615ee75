import ArchLint.Text.Quoted
import ArchLint.Text.Search

/-!
# Choosing quotes

Text inside a replacement field cannot hold a backslash, so it is written between the first quotes
that make escapes needless; the parts of a formatted text must agree on one kind of quotes.
`Enclose.fit` writes one part and says which kinds of quotes remain possible.
-/

namespace ArchLint.Syntax.Enclose

open ArchLint.Text

/-- A kind of quotes, by its mark. -/
abbrev Mark := List Char

def single : List Mark := [['\x27'], ['"']]

def triple : List Mark := [['"', '"', '"'], ['\x27', '\x27', '\x27']]

/-- All quotes, the best first. -/
def all : List Mark := single ++ triple

/-- A letter of a text: backslashes and what is not printable are escaped; line ends and tabs only
when `blanks` says so. -/
def escape (blanks : Bool) : Letter → List Char
  | .half code => quoteLetter '"' (.half code)
  | .char c =>
    if !blanks && (c = '\n' || c = '\t') then [c]
    else if c = '\\' || !isPrintable c then escapeCode c
    else [c]

/-- The quoted form of a text without its quotes, and the quote that it was made for. -/
def quotedBody (text : Letters) : List Char × Char :=
  let q := bestQuote (text.map Letter.shown)
  (text.flatMap (quoteLetter q), q)

/-- Puts a backslash before the last character. -/
def guardLast (text : List Char) : List Char :=
  match text.getLast? with
  | some c => text.dropLast ++ ['\\', c]
  | none => text

/-- Writes a text for one of the given kinds of quotes: the text, and the kinds that suit it, the
best first.  When none does, the text is quoted outright. -/
def fit (text : Letters) (marks : List Mark) (blanks : Bool) : List Char × List Mark :=
  let escaped := text.flatMap (escape blanks)
  let spanning := if escaped.contains '\n' then marks.filter triple.contains else marks
  match spanning.filter fun mark => !occursIn mark escaped with
  | [] =>
    let (body, q) := quotedBody text
    (body, [(marks.find? (·.contains q)).getD [q]])
  | possible =>
    match escaped.getLast? with
    | none => (escaped, possible)
    | some last =>
      let clash (mark : Mark) : Bool := mark.head? == some last
      let sorted := possible.filter (fun mark => !clash mark) ++ possible.filter clash
      if (sorted.head?.map clash).getD false then (guardLast escaped, sorted)
      else (escaped, sorted)

/-- A text between the quotes that need the fewest escapes among the given ones. -/
def write (text : Letters) (marks : List Mark) : List Char :=
  let (body, possible) := fit text marks false
  let mark := possible.headD []
  mark ++ body ++ mark

/-- Writes the parts of a formatted text one after the other, each for the quotes that the parts
before it left; `none` when they cannot agree.  A part that is plain text may escape line ends and
tabs. -/
def fitParts : List (Letters × Bool) → List Mark → Option (List Char × List Mark)
  | [], marks => some ([], marks)
  | (text, isPlain) :: rest, marks =>
    let (body, possible) := fit text marks isPlain
    if possible.any marks.contains then
      (fitParts rest possible).map fun (more, last) => (body ++ more, last)
    else none

/-- The parts of a formatted text, in the quotes on which they agree; else between triple quotes
with everything escaped that a quoted text would escape. -/
def writeParts (parts : List (Letters × Bool)) : List Char :=
  match fitParts parts all with
  | some (body, marks) =>
    let mark := marks.headD []
    mark ++ body ++ mark
  | none =>
    let mark := ['\x27', '\x27', '\x27']
    mark ++ parts.flatMap (fun (text, _) => text.flatMap (quoteLetter '\x27')) ++ mark

end ArchLint.Syntax.Enclose
