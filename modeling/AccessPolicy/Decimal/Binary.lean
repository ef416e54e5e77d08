/-!
Numbers of the 64-bit binary format, as exact values. A decimal number is read as the nearest of
them, where a tie goes to the even significand.
-/
namespace AccessPolicy.Decimal

/-- A number of 53 significant bits: a sign and `m · 2^e`. -/
inductive Binary where
  | finite (negative : Bool) (m : Nat) (e : Int)
  | infinite (negative : Bool)
  | nan
  deriving DecidableEq, Repr

/-- The quotient rounded to the nearest integer, a tie going to the even one. -/
def roundDiv (num den : Nat) : Nat :=
  let q := num / den
  let r := num % den
  if den < 2 * r || (2 * r == den && q % 2 == 1) then q + 1 else q

/-- The fraction `num / den` divided by `b^e`. -/
def unscale (b : Nat) (e : Int) (num den : Nat) : Nat × Nat :=
  (num * b.pow (-e).toNat, den * b.pow e.toNat)

namespace Binary

/-- The exponent of the smallest numbers. -/
def leastExponent : Int := -1074

/-- The exponent of the largest numbers. -/
def greatestExponent : Int := 971

def zero (negative : Bool) : Binary := finite negative 0 leastExponent

def isZero : Binary → Bool
  | finite _ m _ => m == 0
  | _ => false

/-- The exponent under which the significand of `num / den` has 53 bits, if it is not too small. -/
def exponentOf (num den : Nat) : Int :=
  let k : Int := num.log2 - den.log2
  let (n, d) := unscale 2 k num den
  max leastExponent (if d ≤ n then k - 52 else k - 53)

/-- The number nearest to `num / den`. -/
def ofRatio (negative : Bool) (num den : Nat) : Binary :=
  let e := exponentOf num den
  let (n, d) := unscale 2 e num den
  let m := roundDiv n d
  let (m, e) := if m = Nat.pow 2 53 then (Nat.pow 2 52, e + 1) else (m, e)
  if greatestExponent < e then infinite negative else finite negative m e

/-- The number nearest to `digits · 10^x`. What is far out of range is not computed with. -/
def ofDecimal (negative : Bool) (digits : Nat) (x : Int) : Binary :=
  let magnitude : Int := digits.repr.length + x
  if digits = 0 || magnitude < -330 then zero negative
  else if 310 < magnitude then infinite negative
  else
    let (n, d) := unscale 10 (-x) digits 1
    ofRatio negative n d

def ofInt (i : Int) : Binary := ofDecimal (i < 0) i.natAbs 0

end Binary

end AccessPolicy.Decimal
