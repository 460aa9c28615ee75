import ArchLint.Text.Letter
import ArchLint.Text.Name

/-!
# Escapes

What the characters between quotes stand for.  A backslash starts an escape; one that is not known
stands for itself, and so does one at the very end.  An escape by number that lacks digits is
refused.
-/

namespace ArchLint.Source

open ArchLint.Text (Letter Letters)

def isHexDigit (c : Char) : Bool :=
  c.isDigit || ('a' ≤ c && c ≤ 'f') || ('A' ≤ c && c ≤ 'F')

def isOctalDigit (c : Char) : Bool :=
  '0' ≤ c && c ≤ '7'

/-- The number of an octal escape: up to three digits. -/
def octalEscape (text : List Char) : Nat × List Char :=
  let digits := (text.take 3).takeWhile isOctalDigit
  (digits.foldl (fun n c => 8 * n + Text.hexDigitValue c) 0, text.drop digits.length)

/-- The number of a hexadecimal escape with so many digits. -/
def hexEscape (width : Nat) (text : List Char) : Option (Nat × List Char) :=
  let digits := text.take width
  if digits.length = width && digits.all isHexDigit then
    some (Text.hexValue digits, text.drop width)
  else none

def shortEscape? : Char → Option Char
  | '\\' => some '\\'
  | '\x27' => some '\x27'
  | '"' => some '"'
  | 'a' => some '\x07'
  | 'b' => some '\x08'
  | 'f' => some '\x0c'
  | 'n' => some '\n'
  | 'r' => some '\r'
  | 't' => some '\t'
  | 'v' => some '\x0b'
  | _ => none

/-- A character given by name, in curly brackets; there has to be one of that name. -/
def namedEscape (text : List Char) : Option (Letters × List Char) :=
  match text with
  | '\x7b' :: rest =>
    let name := rest.takeWhile (· != '\x7d')
    match rest.drop name.length with
    | _ :: after => (Text.Name.find? name).map fun code => ([Letter.ofCode code], after)
    | [] => none
  | _ => none

/-- What the escape after a backslash stands for, in text, and what follows it. -/
def textEscape (text : List Char) : Option (Letters × List Char) :=
  match text with
  | [] => some ([.char '\\'], [])
  | c :: rest =>
    if c = '\n' then some ([], rest)
    else if isOctalDigit c then
      let (n, after) := octalEscape text
      some ([Letter.ofCode n], after)
    else if c = 'x' then (hexEscape 2 rest).map fun (n, after) => ([Letter.ofCode n], after)
    else if c = 'u' then (hexEscape 4 rest).map fun (n, after) => ([Letter.ofCode n], after)
    else if c = 'U' then
      (hexEscape 8 rest).bind fun (n, after) =>
        if n ≤ 0x10ffff then some ([Letter.ofCode n], after) else none
    else if c = 'N' then namedEscape rest
    else match shortEscape? c with
      | some d => some ([.char d], rest)
      | none => some ([.char '\\', .char c], rest)

/-- What the escape after a backslash stands for, in bytes, and what follows it. -/
def byteEscape (text : List Char) : Option (Letters × List Char) :=
  match text with
  | [] => some ([.char '\\'], [])
  | c :: rest =>
    if c = '\n' then some ([], rest)
    else if isOctalDigit c then
      let (n, after) := octalEscape text
      some ([Letter.ofCode (n % 256)], after)
    else if c = 'x' then (hexEscape 2 rest).map fun (n, after) => ([Letter.ofCode n], after)
    else match shortEscape? c with
      | some d => some ([.char d], rest)
      | none => some ([.char '\\', .char c], rest)

/-- Replaces the escapes of a text, at most as many as the first argument says. -/
def unescapeFrom (escape : List Char → Option (Letters × List Char)) :
    Nat → List Char → Option Letters
  | 0, text => some (Letters.ofChars text)
  | fuel + 1, text =>
    let plain := text.takeWhile (· != '\\')
    match text.drop plain.length with
    | [] => some (Letters.ofChars plain)
    | _ :: rest =>
      match escape rest with
      | some (letters, after) =>
        (unescapeFrom escape fuel after).map fun more => Letters.ofChars plain ++ letters ++ more
      | none => none

/-- The text that characters between quotes stand for. -/
def unescapeText (text : List Char) : Option Letters :=
  unescapeFrom textEscape text.length text

/-- The bytes that characters between quotes stand for, which are ASCII. -/
def unescapeBytes (raw : Bool) (text : List Char) : Option (List UInt8) :=
  if text.all fun c => c.toNat < 128 then
    let letters := if raw then some (Letters.ofChars text)
      else unescapeFrom byteEscape text.length text
    letters.map fun found => found.map fun letter => UInt8.ofNat letter.shown.toNat
  else none

end ArchLint.Source
