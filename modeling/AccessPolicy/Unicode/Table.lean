import AccessPolicy.Text.Digit
import AccessPolicy.Unicode.CharSet

/-!
Sets of characters written as text: code points in hexadecimal digits and ranges of them, apart from
each other by blanks. `41-5A` is a range, and `100-12E/2` is every second code point of one.
-/
namespace AccessPolicy.CharSet

/-- The number that hexadecimal digits denote. -/
def hexNumber (cs : List Char) : Nat := Text.ofDigits 16 (cs.filterMap Text.hexValue?)

/-- One code point or range. -/
def ofEntry (cs : List Char) : CharSet :=
  match cs.span (· != '-') with
  | (lo, []) => codes (hexNumber lo) (hexNumber lo)
  | (lo, _ :: r) =>
    let lo := hexNumber lo
    match r.span (· != '/') with
    | (hi, []) => codes lo (hexNumber hi)
    | (hi, _) =>
      unions ((List.range ((hexNumber hi - lo) / 2 + 1)).map fun i => codes (lo + 2 * i) (lo + 2 * i))

/-- The words of a text, which spaces and line ends keep apart. -/
def entries (cs : List Char) : List (List Char) :=
  let words := cs.foldr
    (fun c ws =>
      if c = ' ' ∨ c = '\n' then [] :: ws
      else match ws with
        | w :: r => (c :: w) :: r
        | [] => [[c]])
    []
  words.filter (!·.isEmpty)

def ofText (s : String) : CharSet := unions ((entries s.toList).map ofEntry)

end AccessPolicy.CharSet
