import AccessPolicy.Pattern.Basic

/-!
Patterns in normal form. Neighbouring texts of a sequence are one text, alternatives that are single
characters are one set, what all alternatives begin with stands in front of them, and a repetition
that can change nothing is left out. The size of a pattern is that of its normal form.
-/
namespace AccessPolicy.Pattern

/-- The pattern of one text. -/
def text (w : List Char) : Pattern := texts [w]

/-- One character of a set. -/
def ofSet (s : CharSet) : Pattern :=
  match s.only? with
  | some c => text [c]
  | none => chars s

/-- The sum of the sizes. -/
def total (sizes : List Nat) : Nat := sizes.foldr (· + ·) 0

/-- How many bytes a text takes. -/
def textBytes (w : List Char) : Nat := total (w.map Char.utf8Size)

/-- How many bytes a match takes at least; nothing if there may be no match. -/
def shortest? : Pattern → Option Nat
  | empty => some 0
  | texts ws => (ws.map textBytes).min?
  | chars s => s.toCodes.head?.map fun r => (Char.ofNat r.1).utf8Size
  | look _ => some 0
  | seq p q => do pure ((← p.shortest?) + (← q.shortest?))
  | alt p q => do pure (min (← p.shortest?) (← q.shortest?))
  | times p least _ => p.shortest?.map (least * ·)
  | group _ p => p.shortest?

/-- Whether a pattern matches the empty text and no other. -/
def onlyEmpty : Pattern → Bool
  | empty => true
  | texts ws => ws.all (·.isEmpty)
  | chars _ => false
  | look _ => true
  | seq p q => p.onlyEmpty && q.onlyEmpty
  | alt p q => p.onlyEmpty && q.onlyEmpty
  | times p _ _ => p.onlyEmpty
  | group _ p => p.onlyEmpty

/-- The parts of a sequence; the empty pattern has none. -/
def parts : Pattern → List Pattern
  | empty => []
  | seq p q => p :: q.parts
  | p => [p]

/-- Put a part in front of others. -/
def putPart : Pattern → List Pattern → List Pattern
  | texts [v], texts [w] :: ps => text (v ++ w) :: ps
  | p, ps => p :: ps

def ofParts : List Pattern → Pattern
  | [] => empty
  | [p] => p
  | p :: ps => seq p (ofParts ps)

/-- One pattern after the other. -/
def concat (ps : List Pattern) : Pattern := ofParts ((ps.flatMap parts).foldr putPart [])

/-- The alternatives of a pattern; any other pattern is the only one. -/
def branches : Pattern → List Pattern
  | texts ws => ws.map text
  | alt p q => p :: q.branches
  | p => [p]

def ofBranches : List Pattern → Pattern
  | [] => chars .nothing
  | [p] => p
  | p :: ps => alt p (ofBranches ps)

/-- The text that a pattern is. -/
def text? : Pattern → Option (List Char)
  | texts [w] => some w
  | _ => none

def char? (p : Pattern) : Option Char :=
  match p.text? with
  | some [c] => some c
  | _ => none

def set? : Pattern → Option CharSet
  | chars s => some s
  | _ => none

/-- Alternatives that are all characters, or all sets of characters, as one set. -/
def gather? (ps : List Pattern) : Option CharSet :=
  match ps.mapM char? with
  | some cs => some (.unions (cs.map .single))
  | none => (ps.mapM set?).map .unions

/-- Several alternatives, of which none is itself a choice. -/
def anyOf (ps : List Pattern) : Pattern :=
  match gather? ps with
  | some s => ofSet s
  | none =>
    match ps.mapM text? with
    | some ws => texts ws
    | none => ofBranches ps

/-- What two lists begin with alike. -/
def commonStart : List Pattern → List Pattern → List Pattern
  | p :: ps, q :: qs => if p = q then p :: commonStart ps qs else []
  | _, _ => []

/-- The parts that all of several sequences begin with; a pattern with one part is no sequence. -/
def commonParts : List Pattern → List Pattern
  | [] => []
  | p :: ps =>
    if (p :: ps).all (2 ≤ ·.parts.length) then
      ps.foldl (fun start q => commonStart start q.parts) p.parts
    else []

/-- One of several patterns. -/
def choice (ps : List Pattern) : Pattern :=
  match ps.flatMap branches with
  | [p] => p
  | bs =>
    match gather? bs, commonParts bs with
    | none, p :: start =>
      let rest (b : Pattern) : Pattern := concat (b.parts.drop (start.length + 1))
      concat (p :: start ++ [anyOf ((bs.map rest).flatMap branches)])
    | _, _ => anyOf bs

/-- A pattern several times; what matches nothing but the empty text needs no second time. -/
def repeated (p : Pattern) (least : Nat) (most : Option Nat) : Pattern :=
  let (least, most) :=
    if p.onlyEmpty then (min least 1, some (min (most.getD 1) 1)) else (least, most)
  if most = some 0 then empty
  else if least = 1 ∧ most = some 1 then p
  else times p least most

end AccessPolicy.Pattern
