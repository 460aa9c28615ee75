import ArchLint.Number.Binary64

/-!
# Decimal text of numbers

Floating-point numbers are written with the fewest digits that read back as the same number, or
with one place after the point.  Reading goes the other way, from digits and a power of ten to the
nearest number.
-/

namespace ArchLint.Number

def digitsValue (digits : List Char) : Nat :=
  digits.foldl (fun n c => 10 * n + (c.toNat - '0'.toNat)) 0

def digitCount (n : Nat) : Nat :=
  (Nat.toDigits 10 n).length

/-- The most decimal digits that a whole number may have where it is read or written. -/
def maxDigits : Nat := 4300

namespace Binary64

/-- The decimal order of magnitude of `m · 2 ^ e`, for `0 < m`: the power of ten just below it. -/
def magnitude (m : Nat) (e : Int) : Int :=
  let whole := if e < 0 then m / Nat.pow 2 e.natAbs else m * Nat.pow 2 e.natAbs
  if 0 < whole then (digitCount whole : Int) - 1
  else
    match (List.range 330).find? fun j => Nat.pow 2 e.natAbs ≤ m * Nat.pow 10 j with
    | some j => -j
    | none => 0

/-- On the grid of multiples of `10 ^ k`, the point nearest to `m · 2 ^ e` among its two
neighbours that read back as it; ties go to the even point. -/
def gridPoint? (m : Nat) (e k : Int) : Option Nat :=
  -- everything is counted in quarters of the last binary place
  let unit := e - 2
  let a := Nat.pow 10 k.toNat * Nat.pow 2 (-unit).toNat
  let b := Nat.pow 10 (-k).toNat * Nat.pow 2 unit.toNat
  let here := 4 * m * b
  let low := (4 * m - if m = Nat.pow 2 52 ∧ -1074 < e then 1 else 2) * b
  let high := (4 * m + 2) * b
  let readsBack (c : Nat) : Bool :=
    if m % 2 = 0 then low ≤ c * a && c * a ≤ high else low < c * a && c * a < high
  let below := here / a
  let above := below + 1
  match readsBack below, readsBack above with
  | false, false => none
  | true, false => some below
  | false, true => some above
  | true, true =>
    let down := here - below * a
    let up := above * a - here
    if down < up then some below
    else if up < down then some above
    else if below % 2 = 0 then some below else some above

/-- The shortest decimal that reads back as `m · 2 ^ e`: an integer and a power of ten. -/
def shortest (m : Nat) (e : Int) : Nat × Int :=
  let top := magnitude m e
  let attempt := (List.range 17).findSome? fun (n : Nat) =>
    (gridPoint? m e (top - n)).map fun c => (c, top - (n : Int))
  attempt.getD (m, e)

/-- The digits of a decimal without trailing zeros, and the place of the point counted from their
front. -/
def normalDigits (c : Nat) (k : Int) : List Char × Int :=
  let digits := Nat.toDigits 10 c
  let kept := (digits.reverse.dropWhile (· == '0')).reverse
  (kept, k + digits.length)

/-- The choices that the text of a number leaves open. -/
structure Spelling where
  /-- Whether a whole number keeps `.0`. -/
  whole : Bool
  infinity : String
  notANumber : String

/-- Digits with the point at the given place: positional from 0.0001 on and below 10 to the 16th,
else with an exponent of two digits at least.  `whole` says whether a whole number keeps `.0`. -/
def layoutDigits (whole : Bool) (digits : List Char) (point : Int) : List Char :=
  let count : Int := digits.length
  if -4 < point ∧ point ≤ 16 then
    if point ≤ 0 then '0' :: '.' :: List.replicate point.natAbs '0' ++ digits
    else if count ≤ point then
      digits ++ List.replicate (point - count).toNat '0' ++ if whole then ['.', '0'] else []
    else digits.take point.toNat ++ '.' :: digits.drop point.toNat
  else
    let exponent := point - 1
    let shown := Nat.toDigits 10 exponent.natAbs
    let padded := if shown.length < 2 then '0' :: shown else shown
    let mantissa := match digits with
      | first :: second :: rest => first :: '.' :: second :: rest
      | short => short
    mantissa ++ 'e' :: (if exponent < 0 then '-' else '+') :: padded

def magnitudeText (spelling : Spelling) : Binary64 → List Char
  | .nan => spelling.notANumber.toList
  | .infinite _ => spelling.infinity.toList
  | .finite _ m e =>
    if m = 0 then if spelling.whole then ['0', '.', '0'] else ['0']
    else
      let (c, k) := shortest m e
      let (digits, point) := normalDigits c k
      layoutDigits spelling.whole digits point

def isNegative : Binary64 → Bool
  | .nan => false
  | .infinite negative => negative
  | .finite negative _ _ => negative

/-- The number with the fewest digits that read back as it, a minus in front if it has one. -/
def signedText (spelling : Spelling) (x : Binary64) : List Char :=
  (if x.isNegative then ['-'] else []) ++ magnitudeText spelling x

/-- A complex number: the imaginary part alone when the real part is a plain zero, else both in
brackets. -/
def complexText (spelling : Spelling) (re im : Binary64) : List Char :=
  if re = zero false then signedText spelling im ++ ['j']
  else
    let plus := if im.isNegative then [] else ['+']
    '(' :: signedText spelling re ++ plus ++ signedText spelling im ++ ['j', ')']

/-- The number with one place after the point, rounded from its exact value, ties to even. -/
def oneDecimal (x : Binary64) : String :=
  let sign := if x.isNegative then "-" else ""
  match x with
  | .nan => "nan"
  | .infinite _ => sign ++ "inf"
  | .finite _ m e =>
    let tenths := if e < 0 then roundDiv (m * 10) (Nat.pow 2 e.natAbs)
      else m * 10 * Nat.pow 2 e.natAbs
    sign ++ toString (tenths / 10) ++ "." ++ toString (tenths % 10)

def percent (x : Binary64) : String :=
  x.timesHundred.oneDecimal ++ "%"

/-- The number nearest to `± c · 10 ^ k`; beyond the largest finite one it is infinite. -/
def ofDecimal (negative : Bool) (c : Nat) (k : Int) : Binary64 :=
  let order := digitCount c + k
  if c = 0 ∨ order < -330 then zero negative
  else if 330 < order then .infinite negative
  else
    let r := if k < 0 then ofRatio negative c (Nat.pow 10 k.natAbs)
      else ofRatio negative (c * Nat.pow 10 k.natAbs) 1
    r.getD (.infinite negative)

/-- Reads digits with an optional fraction and exponent, such as `12`, `1.5`, `.5` or `2e-3`. -/
def ofUnsigned? (negative : Bool) (text : List Char) : Option Binary64 :=
  let whole := text.takeWhile Char.isDigit
  let rest := text.dropWhile Char.isDigit
  let (fraction, rest) := match rest with
    | '.' :: more => (more.takeWhile Char.isDigit, more.dropWhile Char.isDigit)
    | more => ([], more)
  let digits := whole ++ fraction
  let value (exponent : Int) : Binary64 :=
    ofDecimal negative (digitsValue digits) (exponent - fraction.length)
  if digits.isEmpty then none
  else match rest with
    | [] => some (value 0)
    | mark :: more =>
      let (minus, power) := match more with
        | '-' :: p => (true, p)
        | '+' :: p => (false, p)
        | p => (false, p)
      if (mark == 'e' || mark == 'E') && !power.isEmpty && power.all Char.isDigit then
        -- an exponent beyond any number needs no more than its size
        let size : Nat := min (digitsValue power) (10000 + digits.length)
        some (value (if minus then -size else size))
      else none

/-- Reads the text of a number: a sign, then digits, `inf` or `nan`. -/
def ofText? (text : List Char) : Option Binary64 :=
  let (negative, body) := match text with
    | '-' :: more => (true, more)
    | '+' :: more => (false, more)
    | more => (false, more)
  if body = "inf".toList then some (.infinite negative)
  else if body = "nan".toList then some .nan
  else ofUnsigned? negative body

/-- The places at which a text can be cut before a sign that belongs to no exponent. -/
def signCuts : List Char → List Char → List (List Char × List Char)
  | _, [] => []
  | before, c :: rest =>
    let later := signCuts (before ++ [c]) rest
    let inExponent := before.getLast? = some 'e' || before.getLast? = some 'E'
    if (c = '+' || c = '-') && !before.isEmpty && !inExponent then (before, c :: rest) :: later
    else later

/-- Reads a complex number: an imaginary part marked by `j`, with a real part before it when both
stand in brackets. -/
def complexOfText? (text : List Char) : Option (Binary64 × Binary64) :=
  let inner := text.filter fun c => c != '(' && c != ')'
  if inner.getLast? = some 'j' then
    let body := inner.dropLast
    match (signCuts [] body).getLast? with
    | some (re, im) => do return (← ofText? re, ← ofText? im)
    | none => (ofText? body).map fun im => (zero false, im)
  else none

end Binary64
end ArchLint.Number
