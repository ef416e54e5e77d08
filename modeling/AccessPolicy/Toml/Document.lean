import AccessPolicy.Data.Value

/-!
The tree that a settings file builds up line by line. What may still be added to a table depends on
how it came to be: a header opens a table once, keys with dots extend only tables that no header has
opened, which they close to headers, and what is written in braces is closed.
-/
namespace AccessPolicy.Toml

/-- How a table came to be. -/
inductive Origin where
  /-- Named only on the way to another table. -/
  | passed
  /-- Named in a key with dots. -/
  | dotted
  | header
  deriving DecidableEq, Repr

inductive Node where
  /-- A value that nothing can be added to. -/
  | leaf (v : Value)
  | table (origin : Origin) (entries : List (String × Node))
  /-- A list of tables that headers opened; the last one is still open. -/
  | tables (done : List (List (String × Node))) (last : List (String × Node))

abbrev Entries := List (String × Node)

mutual

def Node.toValue : Node → Value
  | .leaf v => v
  | .table _ es => .table (valuesOf es)
  | .tables done last => .array (tableValues done ++ [.table (valuesOf last)])

def valuesOf : Entries → List (String × Value)
  | [] => []
  | (k, n) :: r => (k, n.toValue) :: valuesOf r

def tableValues : List Entries → List Value
  | [] => []
  | es :: r => .table (valuesOf es) :: tableValues r

end

namespace Entries

def add (es : Entries) (key : String) (n : Node) : Entries := es ++ [(key, n)]

def replace (es : Entries) (key : String) (n : Node) : Entries :=
  es.map fun e => if e.1 == key then (key, n) else e

/-- Walk down a path and change the table at its end, making the tables that are missing. -/
def descend (dotted : Bool) (change : Origin → Entries → Option Entries) :
    (path : List String) → Origin → Entries → Option Entries
  | [], o, es => change o es
  | k :: ks, _, es =>
    match es.lookup k with
    | none =>
      let o := if dotted then Origin.dotted else .passed
      (descend dotted change ks o []).map fun es' => es.add k (.table o es')
    | some (.leaf _) => none
    | some (.table o inner) =>
      if dotted && o == .header then none
      else
        let o := if dotted then Origin.dotted else o
        (descend dotted change ks o inner).map fun es' => es.replace k (.table o es')
    | some (.tables done last) =>
      (descend dotted change ks .header last).map fun es' => es.replace k (.tables done es')

/-- A new key with its value. A key with dots does not end in a table that a header opened. -/
def assign (path : List String) (key : String) (v : Value) (o : Origin) (es : Entries) :
    Option Entries :=
  let change (o : Origin) (es : Entries) : Option Entries :=
    if (!path.isEmpty && o == .header) || (es.lookup key).isSome then none
    else some (es.add key (.leaf v))
  descend (!path.isEmpty) change path o es

/-- The header of a table, which may have been passed before but not opened. -/
def openTable (path : List String) (key : String) (es : Entries) : Option Entries :=
  let change (_ : Origin) (es : Entries) : Option Entries :=
    match es.lookup key with
    | none => some (es.add key (.table .header []))
    | some (.table .passed inner) => some (es.replace key (.table .header inner))
    | _ => none
  descend false change path .header es

/-- The header of one more table in a list of tables. -/
def openElement (path : List String) (key : String) (es : Entries) : Option Entries :=
  let change (_ : Origin) (es : Entries) : Option Entries :=
    match es.lookup key with
    | none => some (es.add key (.tables [] []))
    | some (.tables done last) => some (es.replace key (.tables (done ++ [last]) []))
    | _ => none
  descend false change path .header es

/-- A new key in the table that the last header opened. -/
def assignAt (header : List String) (path : List String) (key : String) (v : Value)
    (es : Entries) : Option Entries :=
  descend false (assign path key v) header .header es

end Entries

end AccessPolicy.Toml
