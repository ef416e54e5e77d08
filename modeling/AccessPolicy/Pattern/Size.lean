import AccessPolicy.Pattern.Normal
import AccessPolicy.Unicode.Utf8

/-!
The size of a pattern: the memory of the two automata that search for it, one forward and one
backward, with every repetition written out. A pattern is refused if either takes more than ten
mebibytes, unless it is a choice of so many texts that no automaton is built for it.
-/
namespace AccessPolicy.Pattern

/-- The memory of one state, in bytes. -/
def stateSize : Nat := 32

/-- What a state takes in addition for each range of bytes that leads out of it, if there may be
several. -/
def edgeSize : Nat := 8

/-- What a state takes in addition for each way on that it offers without reading a byte. -/
def wayOnSize : Nat := 4

/-- A state with two ways on. -/
def forkSize : Nat := stateSize + 2 * wayOnSize

def sizeLimit : Nat := 10485760

/-- Which end of the text an automaton begins at. Only the forward one keeps the bounds of groups,
and it shares the ends of characters where the backward one shares their beginnings. -/
inductive Direction where
  | forward
  | backward
  deriving DecidableEq, Repr

/-- The size of one character of a set. -/
def setSize (d : Direction) (s : CharSet) : Nat :=
  if s.isAscii then 2 * stateSize + edgeSize * s.toCodes.length
  else
    let ss := Utf8.ofSet s
    match d with
    | .forward =>
      stateSize + total ((Utf8.points ss).map fun p =>
        stateSize + edgeSize * (Utf8.branches p).length)
    | .backward => 2 * stateSize + wayOnSize * ss.length + stateSize * Utf8.sharedLength [] ss

/-- Put a word under its first byte. -/
def addUnder (b : UInt8) (w : List UInt8) :
    List (UInt8 × List (List UInt8)) → List (UInt8 × List (List UInt8))
  | [] => [(b, [w])]
  | (c, ws) :: r => if b = c then (c, ws ++ [w]) :: r else (c, ws) :: addUnder b w r

/-- The words up to each that ends here, by their first byte; the last list is of those behind the
last such word. -/
def sections (ws : List (List UInt8)) : List (List (UInt8 × List (List UInt8))) :=
  ws.foldl
    (fun (done : List (List (UInt8 × List (List UInt8)))) w =>
      match w, done with
      | [], _ => [] :: done
      | b :: r, now :: before => addUnder b r now :: before
      | b :: r, [] => [addUnder b r []])
    [[]]

/-- The size of a tree of words, which are tried in their order; `fuel` bounds their length. -/
def treeSize : (fuel : Nat) → List (List UInt8) → Nat
  | 0, _ => 0
  | fuel + 1, ws =>
    if ws.all (·.isEmpty) then 0
    else
      let opening := ws.takeWhile (·.isEmpty)
      let secs := sections (opening.take 1 ++ ws.drop opening.length)
      let full := secs.filter (!·.isEmpty)
      stateSize + wayOnSize * (full.length + (secs.length - 1))
        + total (full.map fun sec =>
            stateSize + (if sec.length = 1 then 0 else edgeSize * sec.length)
              + total (sec.map fun b => treeSize fuel b.2))

def textsSize (d : Direction) (ws : List (List Char)) : Nat :=
  let forms := ws.map fun w => w.flatMap String.utf8EncodeChar
  let forms := match d with
    | .forward => forms
    | .backward => forms.map List.reverse
  stateSize + treeSize ((forms.map List.length).max?.getD 0 + 1) forms

/-- The size of a repetition, given that of what is repeated and whether it takes at least a byte. -/
def timesSize (once : Nat) (advances : Bool) (least : Nat) : (most : Option Nat) → Nat
  | none =>
    if least = 0 then
      if advances then once + forkSize else once + 2 * forkSize + stateSize
    else least * once + forkSize
  | some most =>
    if least = 0 ∧ most = 1 then once + forkSize + stateSize
    else
      (if least = 0 then stateSize else least * once)
        + (if least = most then 0 else stateSize + (most - least) * (once + forkSize))

/-- Whether a pattern is a choice that is written out. -/
def isAlt : Pattern → Bool
  | alt _ _ => true
  | _ => false

/-- The size of the part of an automaton that stands for a pattern. -/
def size (d : Direction) : Pattern → Nat
  | empty => stateSize
  | texts [w] => stateSize * textBytes w
  | texts ws => textsSize d ws
  | chars s => setSize d s
  | look _ => stateSize
  | seq p q => p.size d + q.size d
  | alt p q =>
    p.size d + wayOnSize + q.size d + (if q.isAlt then 0 else wayOnSize + 2 * stateSize)
  | times p least most => timesSize (p.size d) (p.shortest?.any (0 < ·)) least most
  | group _ p =>
    match d with
    | .forward => p.size d + 2 * stateSize
    | .backward => p.size d

/-- Whether every match begins where `a` holds. -/
def opensWith (a : Assertion) : Pattern → Bool
  | look b => b = a
  | seq p q => p.opensWith a || (p.onlyEmpty && q.opensWith a)
  | alt p q => p.opensWith a && q.opensWith a
  | times p least _ => 0 < least && p.opensWith a
  | group _ p => p.opensWith a
  | _ => false

/-- Whether every match ends where `a` holds. -/
def closesWith (a : Assertion) : Pattern → Bool
  | look b => b = a
  | seq p q => q.closesWith a || (q.onlyEmpty && p.closesWith a)
  | alt p q => p.closesWith a && q.closesWith a
  | times p least _ => 0 < least && p.closesWith a
  | group _ p => p.closesWith a
  | _ => false

/-- The size of what skips the text in front of a match, unless matches stand at the very edge. -/
def skipSize (atEdge : Bool) : Nat :=
  if atEdge then stateSize else forkSize + 2 * stateSize + edgeSize

/-- The size of a whole automaton, which keeps the bounds of a match as those of a group. -/
def automatonSize (p : Pattern) : Direction → Nat
  | .forward => skipSize (p.opensWith .textStart) + (group 0 p).size .forward + stateSize
  | .backward => skipSize (p.closesWith .textEnd) + (group 0 p).size .backward + stateSize

/-- How many texts to choose from are looked up in a table instead. -/
def tableSize : Nat := 3000

/-- Whether a pattern is searched for without an automaton. -/
def isTable : Pattern → Bool
  | texts ws => tableSize ≤ ws.length
  | _ => false

def fits (p : Pattern) : Bool :=
  p.isTable || (p.automatonSize .forward ≤ sizeLimit && p.automatonSize .backward ≤ sizeLimit)

end AccessPolicy.Pattern
