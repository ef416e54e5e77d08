import AccessPolicy.Decimal.Shortest

/-!
Untyped values, as a file or an environment variable gives them. A scalar can be read as it was
written, or converted to the type that its reader wants.
-/
namespace AccessPolicy

inductive Value where
  | null
  | bool (b : Bool)
  | integer (i : Int)
  | float (x : Decimal.Binary)
  | text (s : String)
  | array (vs : List Value)
  | table (es : List (String × Value))
  deriving Inhabited, Repr

namespace Value

/-- Whether scalars are taken as they are or converted. -/
inductive Reading where
  | exact
  | converting
  deriving DecidableEq, Repr

def boolText (b : Bool) : String := if b then "true" else "false"

def trueWords : List String := ["1", "true", "on", "yes"]
def falseWords : List String := ["0", "false", "off", "no"]

/-- The truth value that a word stands for, in any case. -/
def boolOfWord? (s : String) : Option Bool :=
  let word := s.toLower
  if trueWords.contains word then some true
  else if falseWords.contains word then some false
  else none

def text? (r : Reading) : Value → Option String
  | text s => some s
  | bool b => if r = .converting then some (boolText b) else none
  | integer i => if r = .converting then some i.repr else none
  | float x => if r = .converting then some x.text else none
  | _ => none

/-- A number is read as true unless it is zero. -/
def bool? (r : Reading) : Value → Option Bool
  | bool b => some b
  | integer i => if r = .converting then some (i != 0) else none
  | float x => if r = .converting then some !x.isZero else none
  | text s => if r = .converting then boolOfWord? s else none
  | _ => none

/-- The members of an array, each read by `read`. -/
def list? (read : Value → Option α) : Value → Option (List α)
  | array vs => vs.mapM read
  | _ => none

/-- One of the values in `all`, by its name. A table whose only key is the name will also do. -/
def choice? (r : Reading) (all : List α) (name : α → String) : Value → Option α
  | text s => all.find? fun a => name a == s
  | table [(key, v)] =>
    if r = .exact && !(v matches null) then none else all.find? fun a => name a == key
  | _ => none

/-- The fields of a record: a table gives them by name, an array in the order of `names`. -/
def fields? (r : Reading) (names : List String) : Value → Option (List (String × Value))
  | table es => some es
  | array vs => if r = .exact && names.length < vs.length then none else some (names.zip vs)
  | _ => none

/-- Read a field, or take the default if it is missing. -/
def field? (fields : List (String × Value)) (name : String) (default : Option α)
    (read : Value → Option α) : Option α :=
  match fields.lookup name with
  | none => default
  | some v => read v

end Value

end AccessPolicy
