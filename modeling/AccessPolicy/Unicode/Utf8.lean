import AccessPolicy.Unicode.CharSet

/-!
Ranges of characters as ranges of bytes. The UTF-8 form of a range of code points is a list of
sequences: a text is the form of one of the code points if its bytes lie in the ranges of one
sequence, in order.
-/
namespace AccessPolicy.Utf8

/-- A closed range of bytes. -/
abbrev ByteRange := Nat × Nat

/-- The sequences for the numbers from `lo` to `hi`, whose first digit in base 64 is written onto
the byte `mark` and each of the `more` others onto a byte of its own. -/
def sequences (mark : Nat) : (more lo hi : Nat) → List (List ByteRange)
  | 0, lo, hi => [[(mark + lo, mark + hi)]]
  | more + 1, lo, hi =>
    let block := 64 ^ (more + 1)
    let first := lo / block
    let last := hi / block
    let under (digit lo hi : Nat) : List (List ByteRange) :=
      (sequences 0x80 more lo hi).map ((mark + digit, mark + digit) :: ·)
    if first = last then under first (lo % block) (hi % block)
    else
      let opens := lo % block = 0
      let closes := hi % block = block - 1
      let whole := (if opens then first else first + 1, if closes then last else last - 1)
      (if opens then [] else under first (lo % block) (block - 1))
        ++ (if whole.1 ≤ whole.2 then
            [(mark + whole.1, mark + whole.2) :: List.replicate (more + 1) (0x80, 0xBF)]
          else [])
        ++ (if closes then [] else under last 0 (hi % block))

/-- The code points by the length of their form: the first and the last, the mark of the leading
byte and how many bytes follow it. Surrogates have no form. -/
def lengths : List (Nat × Nat × Nat × Nat) :=
  [(0, 0x7F, 0, 0), (0x80, 0x7FF, 0xC0, 1), (0x800, 0xD7FF, 0xE0, 2), (0xE000, 0xFFFF, 0xE0, 2),
    (0x10000, 0x10FFFF, 0xF0, 3)]

/-- The sequences for a range of code points, in ascending order. -/
def ofRange (lo hi : Nat) : List (List ByteRange) :=
  lengths.flatMap fun (first, last, mark, more) =>
    let lo := max lo first
    let hi := min hi last
    if lo ≤ hi then sequences mark more lo hi else []

/-- The sequences for a set of characters, in ascending order. -/
def ofSet (s : CharSet) : List (List ByteRange) := s.toCodes.flatMap fun r => ofRange r.1 r.2

/-- Sequences by their first range, with what follows it; equal ranges stand side by side. -/
def branches : List (List ByteRange) → List (ByteRange × List (List ByteRange))
  | [] => []
  | [] :: r => branches r
  | (h :: t) :: r =>
    match branches r with
    | (h', ts) :: others => if h = h' then (h, t :: ts) :: others else (h, [t]) :: (h', ts) :: others
    | [] => [(h, [t])]

/-- What can still follow after some ranges of bytes, for every such point but the last; `longest`
bounds the length of the sequences. -/
def remainders : (longest : Nat) → List (List (List ByteRange)) → List (List (List ByteRange))
  | 0, _ => []
  | n + 1, level =>
    let level := level.eraseDups
    level ++ remainders n
      (level.flatMap fun node => (branches node).map (·.2) |>.filter (· != [[]]))

/-- The points of the smallest tree of sequences, each as what can follow it. -/
def points (ss : List (List ByteRange)) : List (List (List ByteRange)) :=
  (remainders 4 [ss]).eraseDups

/-- How many ranges the sequences hold when each shares with the one before it what both begin
with. -/
def sharedLength : (before : List ByteRange) → List (List ByteRange) → Nat
  | _, [] => 0
  | before, s :: ss =>
    let common := ((before.zip s).takeWhile fun p => p.1 == p.2).length
    s.length - common + sharedLength s ss

end AccessPolicy.Utf8
