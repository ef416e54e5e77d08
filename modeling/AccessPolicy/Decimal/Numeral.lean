import AccessPolicy.Decimal.Binary
import AccessPolicy.Text.Digit

/-!
Numerals: the texts that denote a number. The words for infinity and for no number at all may be in
any case; a number needs one digit at least, before or behind its point.
-/
namespace AccessPolicy.Decimal

/-- An integer of 64 bits. -/
def integer? (cs : List Char) : Option Int :=
  let (negative, r) := Text.cutSign cs
  ((Text.decimal? r).map (Text.signed negative)).filter Text.fits

def infinityWords : List String := ["inf", "infinity"]

/-- The exponent behind the digits, with its mark. -/
def exponent? : List Char → Option Int
  | [] => some 0
  | c :: r =>
    let (negative, ds) := Text.cutSign r
    if c == 'e' || c == 'E' then (Text.decimal? ds).map (Text.signed negative) else none

namespace Binary

/-- Digits with a point among them, and an exponent. -/
def ofDigits? (negative : Bool) (cs : List Char) : Option Binary :=
  let front := cs.takeWhile Char.isDigit
  let (places, rest) := match cs.dropWhile Char.isDigit with
    | '.' :: r => (r.takeWhile Char.isDigit, r.dropWhile Char.isDigit)
    | r => ([], r)
  match Text.decimal? (front ++ places), exponent? rest with
  | some n, some x => some (ofDecimal negative n (x - (places.length : Int)))
  | _, _ => none

def ofText? (cs : List Char) : Option Binary :=
  let (negative, r) := Text.cutSign cs
  let word := String.ofList (r.map Char.toLower)
  if infinityWords.contains word then some (infinite negative)
  else if word == "nan" then some nan
  else ofDigits? negative r

end Binary

end AccessPolicy.Decimal
