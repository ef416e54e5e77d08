import AccessPolicy.Data.Value
import AccessPolicy.Text.Digit

/-!
Layers of values. A layer gives values to keys; a key is a path when it reads as one, as in
`a.b[2].c`, and otherwise a plain name. Putting a layer over a tree merges tables key by key and
lets any other value take the place of what was there.
-/
namespace AccessPolicy

/-- A step from a value to one inside it. -/
inductive Step where
  | key (name : String)
  /-- A place in an array; a negative one counts from the end. -/
  | index (i : Int)
  deriving DecidableEq, Repr

namespace Step

def isNamePart (c : Char) : Bool := c.isAlphanum || c == '_' || c == '-'

def isSpace (c : Char) : Bool := c == ' ' || c == '\t'

/-- A number in brackets, from behind the opening one. -/
def readIndex? (cs : List Char) : Option (Int × List Char) :=
  let cs := cs.dropWhile isSpace
  let (negative, cs) := match cs with
    | '-' :: r => (true, r)
    | r => (false, r)
  match (cs.dropWhile Char.isDigit).dropWhile isSpace with
  | ']' :: rest =>
    let i := (Text.decimal? (cs.takeWhile Char.isDigit)).map (Text.signed negative)
    (i.filter Text.fits).map fun i => (i, rest)
  | _ => none

def readName? (cs : List Char) : Option (String × List Char) :=
  let name := cs.takeWhile isNamePart
  if name.isEmpty then none else some (String.ofList name, cs.dropWhile isNamePart)

/-- The steps behind the first name; `fuel` bounds their number. -/
def readRest : (fuel : Nat) → List Char → Option (List Step)
  | _, [] => some []
  | 0, _ => none
  | fuel + 1, c :: r =>
    if c == '.' then
      (readName? r).bind fun (name, rest) => (readRest fuel rest).map (key name :: ·)
    else if c == '[' then
      (readIndex? r).bind fun (i, rest) => (readRest fuel rest).map (index i :: ·)
    else none

/-- The path that a key stands for. -/
def ofKey (s : String) : List Step :=
  let path := (readName? s.toList).bind fun (name, rest) =>
    (readRest rest.length rest).map (key name :: ·)
  path.getD [key s]

end Step

namespace Value

/-- The entries of a table; any other value has none. -/
def entries : Value → List (String × Value)
  | table es => es
  | _ => []

/-- The members of an array; any other value has none. -/
def members : Value → List Value
  | array vs => vs
  | _ => []

/-- Change the value under a key, or add one that is changed from nothing. -/
def alter (change : Value → Value) (key : String) : List (String × Value) → List (String × Value)
  | [] => [(key, change null)]
  | (k, v) :: r => if k == key then (k, change v) :: r else (k, v) :: alter change key r

/-- Change the member at a place. The array grows as far as the place needs, at its end or, for a
negative place beyond its start, at its start. -/
def alterAt (change : Value → Value) (i : Int) (vs : List Value) : List Value :=
  let size : Int := vs.length
  let vs := if 0 ≤ i then vs ++ List.replicate (i + 1 - size).toNat null
    else List.replicate (-(i + size)).toNat null ++ vs
  vs.modify (if 0 ≤ i then i.toNat else (i + size).toNat) change

/-- Change the value at the end of a path. What is not of the kind that a step needs gives way. -/
def update (change : Value → Value) : List Step → Value → Value
  | [], v => change v
  | .key name :: path, v => table (alter (update change path) name v.entries)
  | .index i :: path, v => array (alterAt (update change path) i v.members)

mutual

/-- Put a value over another one. -/
def overlay : (upper lower : Value) → Value
  | table es, null => overlayEntries es (table [])
  | table es, lower => overlayEntries es lower
  | v, _ => v

def overlayEntries : List (String × Value) → Value → Value
  | [], lower => lower
  | (k, v) :: r, lower => overlayEntries r (update (overlay v) [.key k] lower)

end

/-- Give a key of the tree its value. -/
def set (tree : Value) (key : String) (v : Value) : Value :=
  tree.update (overlay v) (Step.ofKey key)

/-- The tree of several layers, the uppermost last. The keys of one layer are set in the order in which it
lists them. This makes a difference only where the path of one leads to or through the place of another, as `"a.b"`
and `a` do; a reader that keeps the keys of a layer in no order leaves open which of the two then wins. -/
def ofLayers (layers : List (List (String × Value))) : Value :=
  layers.foldl (fun tree layer => layer.foldl (fun t e => t.set e.1 e.2) tree) (table [])

@[simp] theorem ofLayers_nil : ofLayers [] = table [] := rfl

end Value

end AccessPolicy
