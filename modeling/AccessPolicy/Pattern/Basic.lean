import AccessPolicy.Unicode.CharSet

/-!
Patterns and what they match. A pattern moves a set of positions in the text to the set of positions
where a match can end. Repetition follows only positions that it has not reached before, so it stops
after as many rounds as the text has positions, whatever the bounds.
-/
namespace AccessPolicy

/-- How the characters on both sides of a position relate to a word. -/
inductive Boundary where
  | edge
  | inner
  | start
  | finish
  | startHalf
  | finishHalf
  deriving DecidableEq, Repr

/-- What holds at a position between two characters. -/
inductive Assertion where
  | textStart
  | textEnd
  | lineStart (crlf : Bool)
  | lineEnd (crlf : Bool)
  | boundary (b : Boundary) (letters : CharSet)
  deriving DecidableEq, Repr

inductive Pattern where
  | empty
  /-- One of several texts. -/
  | texts (ws : List (List Char))
  | chars (cs : CharSet)
  | look (a : Assertion)
  | seq (p q : Pattern)
  | alt (p q : Pattern)
  | times (p : Pattern) (least : Nat) (most : Option Nat)
  /-- A group that is told apart from others by its number. -/
  | group (number : Nat) (p : Pattern)
  deriving DecidableEq, Repr

namespace Boundary

def holds : Boundary → (before after : Bool) → Bool
  | edge, b, a => b != a
  | inner, b, a => b == a
  | start, b, a => !b && a
  | finish, b, a => b && !a
  | startHalf, b, _ => !b
  | finishHalf, _, a => !a

end Boundary

namespace Assertion

/-- Whether the assertion holds between two characters, either of which may be missing. -/
def holds : Assertion → (before after : Option Char) → Bool
  | textStart, b, _ => b.isNone
  | textEnd, _, a => a.isNone
  | lineStart false, b, _ => b.isNone || b == some '\n'
  | lineStart true, b, a =>
    b.isNone || b == some '\n' || (b == some '\r' && a != some '\n')
  | lineEnd false, _, a => a.isNone || a == some '\n'
  | lineEnd true, b, a =>
    a.isNone || a == some '\r' || (a == some '\n' && b != some '\r')
  | boundary k l, b, a => k.holds (b.any l.contains) (a.any l.contains)

end Assertion

namespace Pattern

/-- Put `x` into an ascending list, and what `rest` makes of the remainder behind it. -/
def mergeAt (x : Nat) (rest : List Nat → List Nat) : List Nat → List Nat
  | [] => x :: rest []
  | y :: ys =>
    if x < y then x :: rest (y :: ys)
    else if y < x then y :: mergeAt x rest ys
    else x :: rest ys

/-- Merge two ascending lists of positions. -/
def merge : List Nat → List Nat → List Nat
  | [], ys => ys
  | x :: xs, ys => mergeAt x (merge xs) ys

/-- The positions of `xs` that are not in `ys`, both ascending. -/
def minus : List Nat → List Nat → List Nat
  | [], _ => []
  | x :: xs, ys =>
    let later := ys.dropWhile (· < x)
    if later.head? == some x then minus xs later else x :: minus xs later

/-- Apply `f` exactly `n` times, or until nothing is left. -/
def iterate (f : List Nat → List Nat) : Nat → List Nat → List Nat
  | 0, ps => ps
  | n + 1, ps => if ps.isEmpty then [] else iterate f n (f ps)

/-- The positions reached from `seen` in at most `n` rounds, when only those of `fresh` are new. -/
def closure (f : List Nat → List Nat) : Nat → (seen fresh : List Nat) → List Nat
  | 0, seen, _ => seen
  | n + 1, seen, fresh =>
    let next := minus (f fresh) seen
    if next.isEmpty then seen else closure f n (merge seen next) next

/-- The character before a position. -/
def charBefore (t : Array Char) (i : Nat) : Option Char :=
  match i with
  | 0 => none
  | j + 1 => t[j]?

/-- Where a text ends that begins at `i`, if it stands there. -/
def endOf? (t : Array Char) : List Char → Nat → Option Nat
  | [], i => some i
  | c :: cs, i => if t[i]? = some c then endOf? t cs (i + 1) else none

/-- The positions where a match of the pattern can end that begins at one of `ps`. -/
def ends (t : Array Char) : Pattern → List Nat → List Nat
  | empty, ps => ps
  | texts ws, ps => ws.foldr (fun w qs => merge (ps.filterMap (endOf? t w)) qs) []
  | chars cs, ps => ps.filterMap fun i =>
    if (t[i]?).any cs.contains then some (i + 1) else none
  | look a, ps => ps.filter fun i => a.holds (charBefore t i) (t[i]?)
  | seq p q, ps => ends t q (ends t p ps)
  | alt p q, ps => merge (ends t p ps) (ends t q ps)
  | times p least most, ps =>
    let rounds := t.size + 1
    let start := iterate (fun qs => ends t p qs) (min least rounds) ps
    let further := match most with
      | none => rounds
      | some n => min (n - least) rounds
    closure (fun qs => ends t p qs) further start start
  | group _ p, ps => ends t p ps

/-- Whether the pattern matches anywhere in the text. -/
def isMatch (p : Pattern) (s : String) : Bool :=
  let t := s.toList.toArray
  !(p.ends t (List.range (t.size + 1))).isEmpty

@[simp] theorem ends_empty (t : Array Char) (ps : List Nat) : empty.ends t ps = ps := rfl
@[simp] theorem ends_seq (t : Array Char) (p q : Pattern) (ps : List Nat) :
    (seq p q).ends t ps = q.ends t (p.ends t ps) := rfl
@[simp] theorem ends_alt (t : Array Char) (p q : Pattern) (ps : List Nat) :
    (alt p q).ends t ps = merge (p.ends t ps) (q.ends t ps) := rfl
@[simp] theorem ends_group (t : Array Char) (n : Nat) (p : Pattern) (ps : List Nat) :
    (group n p).ends t ps = p.ends t ps := rfl

/-- The empty pattern matches every text. -/
@[simp] theorem isMatch_empty (s : String) : empty.isMatch s = true := by
  simp [isMatch]

end Pattern

end AccessPolicy
