import ArchLint.Text.Letter
import ArchLint.Text.Printable

/-!
# Quoted text

The quoted form of a text or of bytes, as it stands in messages and in printed expressions: single
quotes, unless the text holds a single quote and no double one; backslashes, the quote itself and
everything that is not printable are escaped.
-/

namespace ArchLint.Text

/-- The digits of a number in base sixteen, padded with zeros to the given width. -/
def hexDigits (width n : Nat) : List Char :=
  let digits := Nat.toDigits 16 n
  List.replicate (width - digits.length) '0' ++ digits

/-- The escape of a character: short for the usual blanks and the backslash, else by code point. -/
def escapeCode (c : Char) : List Char :=
  if c = '\n' then ['\\', 'n']
  else if c = '\r' then ['\\', 'r']
  else if c = '\t' then ['\\', 't']
  else if c = '\\' then ['\\', '\\']
  else if c.toNat < 0x100 then '\\' :: 'x' :: hexDigits 2 c.toNat
  else if c.toNat < 0x10000 then '\\' :: 'u' :: hexDigits 4 c.toNat
  else '\\' :: 'U' :: hexDigits 8 c.toNat

/-- The quote that suits a text best: double when it holds a single quote and no double one. -/
def bestQuote (text : List Char) : Char :=
  if text.contains '\x27' && !text.contains '"' then '"' else '\x27'

def quoteChar (quote c : Char) : List Char :=
  if c = quote then ['\\', c]
  else if c = '\\' || !isPrintable c then escapeCode c
  else [c]

/-- A letter inside quotes; half of a surrogate pair is never printable. -/
def quoteLetter (quote : Char) : Letter → List Char
  | .char c => quoteChar quote c
  | .half code => '\\' :: 'u' :: hexDigits 4 code

def quoteLetters (text : Letters) : String :=
  let q := bestQuote (text.map Letter.shown)
  String.ofList (q :: text.flatMap (quoteLetter q) ++ [q])

def quote (text : String) : String :=
  quoteLetters (Letters.ofString text)

/-- A byte inside quotes: only printable ASCII stands for itself. -/
def quoteByte (quote : Char) (b : UInt8) : List Char :=
  let c := Char.ofNat b.toNat
  if c = quote then ['\\', c]
  else if c = '\\' || c = '\n' || c = '\r' || c = '\t' then escapeCode c
  else if b.toNat < 32 || 127 ≤ b.toNat then '\\' :: 'x' :: hexDigits 2 b.toNat
  else [c]

def quoteBytes (bytes : List UInt8) : String :=
  let q := bestQuote (bytes.map fun b => Char.ofNat b.toNat)
  String.ofList ('b' :: q :: bytes.flatMap (quoteByte q) ++ [q])

end ArchLint.Text
