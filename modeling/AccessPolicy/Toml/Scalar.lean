import AccessPolicy.Data.Value
import AccessPolicy.Text.Digit

/-!
The scalars of a settings file that stand without quotes: truth values, numbers, and dates and times,
which are kept as text in one normal form.
-/
namespace AccessPolicy.Toml

/-- Digits that may have single underscores between them. -/
def groupedFrom? (value? : Char → Option Nat) : List Char → Option (List Nat)
  | [] => some []
  | '_' :: c :: r => do return (← value? c) :: (← groupedFrom? value? r)
  | c :: r => do return (← value? c) :: (← groupedFrom? value? r)

def grouped? (value? : Char → Option Nat) (cs : List Char) : Option (List Nat) :=
  if cs.isEmpty || cs.head? == some '_' then none else groupedFrom? value? cs

/-- Digits without a needless zero in front. -/
def whole? (cs : List Char) : Option (List Nat) :=
  (grouped? Text.digitValue? cs).filter fun ds => ds.length = 1 || ds.head? != some 0

/-- Integers have 64 bits. -/
def integer? (i : Int) : Option Value :=
  if Text.fits i then some (.integer i) else none

def below (base : Nat) (c : Char) : Option Nat := (Text.hexValue? c).filter (· < base)

/-- Cut at the first character that satisfies `p`; the second part, if any, lacks that character. -/
def cutWhere (p : Char → Bool) (cs : List Char) : List Char × Option (List Char) :=
  match cs.dropWhile (!p ·) with
  | [] => (cs, none)
  | _ :: r => (cs.takeWhile (!p ·), some r)

/-- The part of a number behind its `e`. -/
def exponent? : Option (List Char) → Option Int
  | none => some 0
  | some cs =>
    let (negative, r) := Text.cutSign cs
    (grouped? Text.digitValue? r).map fun ds => Text.signed negative (Text.ofDigits 10 ds)

/-- The part of a number between its point and its `e`. -/
def places? : Option (List Char) → Option (List Nat)
  | none => some []
  | some cs => grouped? Text.digitValue? cs

/-- A number with a point or an exponent. One that is too large is refused. -/
def float? (negative : Bool) (cs : List Char) : Option Value := do
  let (mantissa, power) := cutWhere (fun c => c == 'e' || c == 'E') cs
  let (front, fraction) := cutWhere (· == '.') mantissa
  let ds ← whole? front
  let places ← places? fraction
  let x ← exponent? power
  let n := Decimal.Binary.ofDecimal negative (Text.ofDigits 10 (ds ++ places))
    (x - (places.length : Int))
  if n matches .infinite _ then none else some (.float n)

def number? : List Char → Option Value
  | '0' :: 'x' :: r => (grouped? (below 16) r).bind fun ds => integer? (Text.ofDigits 16 ds)
  | '0' :: 'o' :: r => (grouped? (below 8) r).bind fun ds => integer? (Text.ofDigits 8 ds)
  | '0' :: 'b' :: r => (grouped? (below 2) r).bind fun ds => integer? (Text.ofDigits 2 ds)
  | cs =>
    let (negative, r) := Text.cutSign cs
    if r == "inf".toList then some (.float (.infinite negative))
    else if r == "nan".toList then some (.float .nan)
    else
      match whole? r with
      | some ds => integer? (Text.signed negative (Text.ofDigits 10 ds))
      | none => float? negative r

/-- A number of `count` digits, up to `most`. -/
def fixed? (count most : Nat) (cs : List Char) : Option (Nat × List Char) :=
  if cs.length < count then none
  else
    match Text.decimal? (cs.take count) with
    | some n => if n ≤ most then some (n, cs.drop count) else none
    | none => none

/-- The character, if it comes next, is passed. -/
def pass? (c : Char) : List Char → Option (List Char)
  | d :: r => if c = d then some r else none
  | [] => none

def isLeap (year : Nat) : Bool :=
  year % 4 = 0 && (year % 100 != 0 || year % 400 = 0)

def daysIn (year month : Nat) : Nat :=
  if month = 2 then (if isLeap year then 29 else 28)
  else if [4, 6, 9, 11].contains month then 30 else 31

/-- Digits of `n`, at least `count`. -/
def padded (count n : Nat) : String :=
  String.ofList (List.replicate (count - n.repr.length) '0') ++ n.repr

def date? (cs : List Char) : Option (String × List Char) := do
  let (year, r) ← fixed? 4 9999 cs
  let (month, r) ← fixed? 2 12 (← pass? '-' r)
  let (day, r) ← fixed? 2 31 (← pass? '-' r)
  if month = 0 || day = 0 || daysIn year month < day then none
  else some (padded 4 year ++ "-" ++ padded 2 month ++ "-" ++ padded 2 day, r)

/-- A fraction of a second: nine places at most, without zeros at the end. -/
def fraction? (cs : List Char) : Option (String × List Char) :=
  match cs with
  | '.' :: r =>
    let places := r.takeWhile Char.isDigit
    let kept := ((places.take 9).reverse.dropWhile (· == '0')).reverse
    if places.isEmpty then none
    else some (if kept.isEmpty then "" else "." ++ String.ofList kept, r.dropWhile Char.isDigit)
  | _ => some ("", cs)

def seconds? (cs : List Char) : Option (String × List Char) :=
  match cs with
  | ':' :: r => do
    let (second, r) ← fixed? 2 60 r
    let (fraction, r) ← fraction? r
    return (":" ++ padded 2 second ++ fraction, r)
  | _ => some ("", cs)

def time? (cs : List Char) : Option (String × List Char) := do
  let (hour, r) ← fixed? 2 23 cs
  let (minute, r) ← fixed? 2 59 (← pass? ':' r)
  let (seconds, r) ← seconds? r
  return (padded 2 hour ++ ":" ++ padded 2 minute ++ seconds, r)

/-- The distance from universal time, which ends the text. -/
def offset? : List Char → Option String
  | [] => some ""
  | ['Z'] => some "Z"
  | ['z'] => some "Z"
  | c :: r => do
    let (hour, r) ← fixed? 2 24 r
    let (minute, r) ← fixed? 2 59 (← pass? ':' r)
    if !r.isEmpty || 24 * 60 < hour * 60 + minute then none
    else
      let distance := padded 2 hour ++ ":" ++ padded 2 minute
      if c == '+' || (c == '-' && hour + minute = 0) then some ("+" ++ distance)
      else if c == '-' then some ("-" ++ distance)
      else none

def isDateMark (c : Char) : Bool := c == 'T' || c == 't' || c == ' '

def moment? (cs : List Char) : Option String :=
  match date? cs with
  | some (date, []) => some date
  | some (date, c :: r) => do
    let (time, r) ← time? r
    let offset ← offset? r
    if isDateMark c then some (date ++ "T" ++ time ++ offset) else none
  | none =>
    match time? cs with
    | some (time, []) => some time
    | _ => none

def isTokenPart (c : Char) : Bool :=
  c.isAlphanum || c == '+' || c == '-' || c == '_' || c == '.' || c == ':'

/-- The longest token. A time may follow a date after one space. -/
def readToken (cs : List Char) : List Char × List Char :=
  let token := cs.takeWhile isTokenPart
  let rest := cs.dropWhile isTokenPart
  match date? token, rest with
  | some (_, []), ' ' :: r =>
    if (r.head?.any Char.isDigit) then
      (token ++ ' ' :: r.takeWhile isTokenPart, r.dropWhile isTokenPart)
    else (token, rest)
  | _, _ => (token, rest)

/-- The value of a token. -/
def scalar? (token : List Char) : Option Value :=
  if token == "true".toList then some (.bool true)
  else if token == "false".toList then some (.bool false)
  else
    match number? token with
    | some v => some v
    | none => (moment? token).map .text

end AccessPolicy.Toml
