import AccessPolicy.Decimal.Binary

/-!
The decimal text of a binary number: the fewest digits that read back as the number, and of those
the digits nearest to it. Every digit is written out, without an exponent.
-/
namespace AccessPolicy.Decimal

/-- The numbers that are read as `m · 2^e` lie between these two, in units of `2^(e - 2)`. The ends
are among them if `m` is even. -/
def readBack (m : Nat) (e : Int) : Nat × Nat :=
  (4 * m - (if m = Nat.pow 2 52 && Binary.leastExponent < e then 1 else 2), 4 * m + 2)

/-- Whether `q · 10^p` is read as `m · 2^e`. -/
def readsAs (m : Nat) (e : Int) (q : Nat) (p : Int) : Bool :=
  let (lo, hi) := readBack m e
  let (n, d) := unscale 10 (-p) q 1
  let (n, d) := unscale 2 (e - 2) n d
  if m % 2 = 0 then lo * d ≤ n && n ≤ hi * d else lo * d < n && n < hi * d

/-- How many digits stand before the point of `num / den`; below one tenth it is negative. -/
def pointOf (num den : Nat) : Int :=
  if den ≤ num then (num / den).repr.length else 1 - ((den / num).repr.length : Int)

/-- The neighbour of `m · 2^e` on the grid of `10^p` that reads back, the nearer one if both do, and
the greater one of two that are equally near. -/
def onGrid? (m : Nat) (e p : Int) : Option Nat :=
  let (n, d) := unscale 2 (-e) m 1
  let (n, d) := unscale 10 p n d
  let q := n / d
  let upper := readsAs m e (q + 1) p
  if readsAs m e q p && !(upper && d ≤ 2 * (n % d)) then some q
  else if upper then some (q + 1)
  else none

/-- Try grids of `count` digits and more; seventeen digits always read back. -/
def shortestFrom (m : Nat) (e point : Int) : Nat → Nat → Nat × Int
  | _, 0 => (0, 0)
  | count, left + 1 =>
    let p := point - count
    match onGrid? m e p with
    | some q => (q, p)
    | none => shortestFrom m e point (count + 1) left

/-- The shortest decimal `q · 10^p` that reads back as `m · 2^e`. -/
def shortest (m : Nat) (e : Int) : Nat × Int :=
  if m = 0 then (0, 0)
  else
    let (n, d) := unscale 2 (-e) m 1
    shortestFrom m e (pointOf n d) 1 17

/-- Write `q · 10^p` without an exponent. -/
def positional (q : Nat) (p : Int) : String :=
  if 0 ≤ p then (q * Nat.pow 10 p.toNat).repr
  else
    let unit := Nat.pow 10 (-p).toNat
    let places := ((unit + q % unit).repr.toList.drop 1).reverse.dropWhile (· == '0')
    (q / unit).repr ++ if places.isEmpty then "" else "." ++ String.ofList places.reverse

def Binary.text : Binary → String
  | finite negative m e =>
    let (q, p) := shortest m e
    (if negative then "-" else "") ++ positional q p
  | infinite negative => if negative then "-inf" else "inf"
  | nan => "NaN"

end AccessPolicy.Decimal
