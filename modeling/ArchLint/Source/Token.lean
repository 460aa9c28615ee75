import ArchLint.Syntax.Node
import ArchLint.Text.Identifier

/-!
# Tokens

The pieces into which source text is cut.  The blocks of a program are marked by tokens of their own,
`indent` and `dedent`, so that later stages need not look at blanks.
-/

namespace ArchLint.Source

open ArchLint.Syntax (Constant)

/-- A text literal as it is written. -/
structure Quotation where
  /-- The letters before the quote. -/
  marks : List Char
  /-- What stands between the quotes. -/
  body : List Char
  deriving DecidableEq, Repr

namespace Quotation

/-- Whether one of the letters before the quote is the given one, in either case. -/
def isMarked (q : Quotation) (c : Char) : Bool :=
  q.marks.any fun m => m.toLower = c

def isBytes (q : Quotation) : Bool := q.isMarked 'b'

/-- Whether backslashes stand for themselves. -/
def isRaw (q : Quotation) : Bool := q.isMarked 'r'

def isTemplate (q : Quotation) : Bool := q.isMarked 'f'

end Quotation

inductive Lexeme where
  /-- A keyword or an identifier. -/
  | word (text : String)
  | number (value : Constant)
  | quotation (q : Quotation)
  /-- An operator or a delimiter. -/
  | symbol (text : String)
  | lineEnd
  | indent
  | dedent
  | fileEnd
  deriving DecidableEq, Repr

structure Token where
  lexeme : Lexeme
  line : Nat
  deriving DecidableEq, Repr

def keywords : List String :=
  ["False", "None", "True", "and", "as", "assert", "async", "await", "break", "class", "continue",
   "def", "del", "elif", "else", "except", "finally", "for", "from", "global", "if", "import",
   "in", "is", "lambda", "nonlocal", "not", "or", "pass", "raise", "return", "try", "while",
   "with", "yield"]

/-- Whether a character can stand in a word; which characters beyond ASCII can is decided for whole
words. -/
def isWordPart (c : Char) : Bool :=
  c.isAlphanum || c = '_' || 128 ≤ c.toNat

def isWordStart (c : Char) : Bool :=
  isWordPart c && !c.isDigit

/-- The operators and delimiters of three, two and one characters. -/
def symbols : List (List String) :=
  [["**=", "//=", "<<=", ">>=", "..."],
   ["!=", "%=", "&=", "**", "*=", "+=", "-=", "->", "//", "/=", ":=", "<<", "<=", "<>", "==", ">=",
    ">>", "@=", "^=", "|="],
   ["%", "&", "(", ")", "*", "+", ",", "-", ".", "/", ":", ";", "<", "=", ">", "@", "[", "]", "^",
    "\x7b", "|", "\x7d", "~"]]

/-- The longest symbol with which a text starts, and what follows it. -/
def symbolAt? (text : List Char) : Option (String × List Char) :=
  symbols.findSome? fun sized =>
    (sized.find? fun s => s.toList.isPrefixOf text).map fun s => (s, text.drop s.length)

end ArchLint.Source
