/-!
# Binary floating-point numbers of 64 bits

The numbers that source text and metrics hold, kept as exact data: a finite one is
`± mantissa · 2 ^ exponent`, with `2 ^ 52 ≤ mantissa < 2 ^ 53`, or `mantissa < 2 ^ 52` and the
least exponent, -1074.  Every operation goes through `ofRatio`, which rounds an exact quotient to
the nearest number, ties to the even mantissa.
-/

namespace ArchLint.Number

/-- The quotient rounded to the nearest integer, ties to the even one. -/
def roundDiv (a b : Nat) : Nat :=
  let q := a / b
  let r := a % b
  if 2 * r < b then q
  else if b < 2 * r then q + 1
  else if q % 2 = 0 then q else q + 1

/-- A floating-point number: not a number, an infinity, or `± mantissa · 2 ^ exponent`. -/
inductive Binary64 where
  | nan
  | infinite (negative : Bool)
  | finite (negative : Bool) (mantissa : Nat) (exponent : Int)
  deriving DecidableEq, Repr

namespace Binary64

def zero (negative : Bool) : Binary64 :=
  .finite negative 0 (-1074)

def isZero : Binary64 → Bool
  | .finite _ m _ => m == 0
  | _ => false

/-- `a · 2 ^ (-e) / b` as a fraction of naturals. -/
def scale (a b : Nat) (e : Int) : Nat × Nat :=
  if e < 0 then (a * Nat.pow 2 e.natAbs, b) else (a, b * Nat.pow 2 e.natAbs)

/-- The exponent at which `a / b` has a mantissa of 53 bits, or the least exponent. -/
def exponentOf (a b : Nat) : Int :=
  let e := max ((a.log2 : Int) - b.log2 - 53) (-1074)
  let (n, d) := scale a b e
  if Nat.pow 2 53 ≤ n / d then e + 1 else e

/-- The number nearest to `± a / b`, or `none` when that is beyond the largest finite one. -/
def ofRatio (negative : Bool) (a b : Nat) : Option Binary64 :=
  if a = 0 then some (zero negative)
  else
    let e := exponentOf a b
    let (n, d) := scale a b e
    let m := roundDiv n d
    let (m, e) := if m = Nat.pow 2 53 then (Nat.pow 2 52, e + 1) else (m, e)
    if 971 < e then none else some (.finite negative m e)

/-- The quotient of two integers; it has the sign of the quotient also when it is zero. -/
def ofQuotient (a b : Int) : Option Binary64 :=
  ofRatio (decide (a < 0) != decide (b < 0)) a.natAbs b.natAbs

/-- The number a hundred times as large; beyond the largest finite one it is infinite. -/
def timesHundred : Binary64 → Binary64
  | .finite negative m e =>
    let r := if e < 0 then ofRatio negative (m * 100) (Nat.pow 2 e.natAbs)
      else ofRatio negative (m * 100 * Nat.pow 2 e.natAbs) 1
    r.getD (.infinite negative)
  | x => x

def isPositive : Binary64 → Bool
  | .nan => false
  | .infinite negative => !negative
  | .finite negative m _ => !negative && 0 < m

/-- The 64 bits of the number: sign, biased exponent, fraction. -/
def toBits : Binary64 → Nat
  | .nan => 0x7ff8000000000000
  | .infinite negative => (if negative then Nat.pow 2 63 else 0) + 0x7ff0000000000000
  | .finite negative m e =>
    (if negative then Nat.pow 2 63 else 0) +
      if m < Nat.pow 2 52 then m else (e + 1075).toNat * Nat.pow 2 52 + (m - Nat.pow 2 52)

end Binary64
end ArchLint.Number
