import ArchLint.Number.Decimal
import ArchLint.Source.Token

/-!
# Numerals

Whole numbers in four bases, floating-point numbers and imaginary numbers.  Single underscores may
stand between digits.  A numeral must not run into a word, except into an operator word such as
`or`.
-/

namespace ArchLint.Source

open ArchLint.Syntax (Constant)
open ArchLint.Number (Binary64 digitsValue maxDigits)

/-- Digits, with an underscore in front of any of them, and what follows; an underscore with no digit
after it is refused. -/
def digitRun (isDigit : Char → Bool) : List Char → Option (List Char × List Char)
  | [] => some ([], [])
  | c :: rest =>
    if c = '_' then
      match rest with
      | d :: _ => if isDigit d then digitRun isDigit rest else none
      | [] => none
    else if isDigit c then (digitRun isDigit rest).map fun (digits, after) => (c :: digits, after)
    else some ([], c :: rest)

def wordsAfterNumeral : List String :=
  ["and", "else", "for", "if", "in", "is", "not", "or"]

def endsNumeral (rest : List Char) : Bool :=
  match rest with
  | [] => true
  | c :: _ => !isWordPart c || wordsAfterNumeral.any fun w => w.toList.isPrefixOf rest

/-- Accepts a value when the numeral can end there. -/
def closeNumeral (value : Constant) (rest : List Char) : Option (Constant × List Char) :=
  if endsNumeral rest then some (value, rest) else none

def isDigitOf (base : Nat) (c : Char) : Bool :=
  (c.isDigit || ('a' ≤ c && c ≤ 'f') || ('A' ≤ c && c ≤ 'F')) && Text.hexDigitValue c < base

/-- A whole number in the given base, after the mark of the base. -/
def basedNumeral (base : Nat) (text : List Char) : Option (Constant × List Char) :=
  match digitRun (isDigitOf base) text with
  | some (d :: ds, rest) =>
    closeNumeral (.int ((d :: ds).foldl (fun n c => base * n + Text.hexDigitValue c) 0 : Nat)) rest
  | _ => none

/-- The floating-point number of digits before and after the point and a power of ten. -/
def floatValue (whole fraction exponent : List Char) : Binary64 :=
  let power := if exponent.isEmpty then [] else 'e' :: exponent
  let digits := if whole.isEmpty then ['0'] else whole
  (Binary64.ofUnsigned? false (digits ++ '.' :: fraction ++ power)).getD (.zero false)

/-- The end of a numeral: an imaginary mark, or nothing. -/
def imaginaryOr (real : Constant) (value : Binary64) (rest : List Char) :
    Option (Constant × List Char) :=
  match rest with
  | c :: after =>
    if c = 'j' || c = 'J' then closeNumeral (.complex (.zero false) value) after
    else closeNumeral real rest
  | [] => closeNumeral real rest

/-- A power of ten, with its sign, after the mark `e`; `none` inside when there is no digit. -/
def exponentAt (text : List Char) : Option (Option (List Char × List Char)) :=
  match text with
  | c :: d :: rest =>
    if c = '+' || c = '-' then
      if d.isDigit then (digitRun Char.isDigit (d :: rest)).map fun (ds, after) => some (c :: ds, after)
      else none
    else if c.isDigit then (digitRun Char.isDigit text).map some
    else some none
  | [c] =>
    if c = '+' || c = '-' then none
    else if c.isDigit then some (some ([c], []))
    else some none
  | [] => some none

/-- The end of a numeral after its whole part and fraction, where `real` is its value if no exponent
follows. -/
def exponentOr (real : Constant) (whole fraction rest : List Char) : Option (Constant × List Char) :=
  let plain := imaginaryOr real (floatValue whole fraction []) rest
  match rest with
  | c :: after =>
    if c = 'e' || c = 'E' then
      match exponentAt after with
      | some (some (exponent, last)) =>
        let value := floatValue whole fraction exponent
        imaginaryOr (.float value) value last
      | some none => closeNumeral real rest
      | none => none
    else plain
  | [] => plain

def fractionAfter (whole text : List Char) : Option (Constant × List Char) :=
  match text with
  | c :: _ =>
    if c.isDigit then
      (digitRun Char.isDigit text).bind fun (fraction, rest) =>
        exponentOr (.float (floatValue whole fraction [])) whole fraction rest
    else exponentOr (.float (floatValue whole [] [])) whole [] text
  | [] => exponentOr (.float (floatValue whole [] [])) whole [] text

/-- A numeral in base ten.  A whole number has no zeros in front, unless it is zero, and not too many
digits. -/
def decimalNumeral (text : List Char) : Option (Constant × List Char) :=
  match digitRun Char.isDigit text with
  | some (digits, rest) =>
    let isWhole := if digits.head? = some '0' then digits.all (· = '0')
      else digits.length ≤ maxDigits
    match rest with
    | '.' :: after => fractionAfter digits after
    | c :: _ =>
      let floats := c = 'e' || c = 'E' || c = 'j' || c = 'J'
      let real := if isWhole then .int (digitsValue digits) else .float (floatValue digits [] [])
      if isWhole || floats then exponentOr real digits [] rest else none
    | [] => if isWhole then closeNumeral (.int (digitsValue digits)) [] else none
  | none => none

/-- The numeral with which a text starts, and what follows it.  The text starts with a digit, or with
a point and a digit. -/
def numeral (text : List Char) : Option (Constant × List Char) :=
  match text with
  | '.' :: rest => fractionAfter [] rest
  | '0' :: c :: rest =>
    if c = 'x' || c = 'X' then basedNumeral 16 rest
    else if c = 'o' || c = 'O' then basedNumeral 8 rest
    else if c = 'b' || c = 'B' then basedNumeral 2 rest
    else decimalNumeral text
  | _ => decimalNumeral text

end ArchLint.Source
