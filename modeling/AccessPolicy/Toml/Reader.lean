import AccessPolicy.Toml.Document
import AccessPolicy.Toml.Quoted
import AccessPolicy.Toml.Scalar

/-!
Reading a settings file. It is a list of lines, each of which is empty, opens a table, or gives one
key its value; the tree of tables says which of these may follow which.
-/
namespace AccessPolicy.Toml

/-- A comment, as far as the end of the line. -/
def passComment (cs : List Char) : Option (List Char) :=
  match cs with
  | '#' :: r =>
    let isLineEnd (c : Char) : Bool := c == '\n' || c == '\r'
    if (r.takeWhile (!isLineEnd ·)).any isForbidden then none
    else some (r.dropWhile (!isLineEnd ·))
  | _ => some cs

/-- Pass blanks, line ends and comments; `fuel` bounds their number. -/
def passGap : (fuel : Nat) → List Char → Option (List Char)
  | 0, cs => some cs
  | fuel + 1, cs =>
    match (passComment (cs.dropWhile isSpace)) with
    | none => none
    | some r =>
      match passLineEnd? r with
      | some rest => passGap fuel rest
      | none => some r

/-- The end of a line, behind all that it says. -/
def endLine (cs : List Char) : Option (List Char) :=
  match passComment (cs.dropWhile isSpace) with
  | none => none
  | some [] => some []
  | some r => passLineEnd? r

def isKeyPart (c : Char) : Bool := c.isAlphanum || c == '-' || c == '_'

def readSimpleKey (cs : List Char) : Option (String × List Char) :=
  if cs.head?.any isKeyPart then
    some (String.ofList (cs.takeWhile isKeyPart), cs.dropWhile isKeyPart)
  else readInline? cs

/-- A key with dots, of at most `names` names: the names on the way, the last name, and the rest
behind blanks. -/
def readNames : (names : Nat) → List Char → Option (List String × String × List Char)
  | 0, _ => none
  | names + 1, cs =>
    match readSimpleKey (cs.dropWhile isSpace) with
    | none => none
    | some (key, r) =>
      match r.dropWhile isSpace with
      | '.' :: r => (readNames names r).map fun (path, last, rest) => (key :: path, last, rest)
      | r => some ([], key, r)

/-- How deep brackets may nest, and how many names a key may have. -/
def nestLimit : Nat := 80

def readKey (cs : List Char) : Option (List String × String × List Char) := readNames nestLimit cs

/-- Pass the equals sign behind a key. -/
def passEquals? : List Char → Option (List Char)
  | '=' :: r => some r
  | _ => none

mutual

/-- A value; `depth` is how many brackets may still be opened. -/
def readValue : (fuel depth : Nat) → List Char → Option (Value × List Char)
  | 0, _, _ => none
  | fuel + 1, depth, cs =>
    match cs with
    | '[' :: r =>
      if depth = 0 then none
      else (readElements fuel (depth - 1) r).map fun (vs, rest) => (.array vs, rest)
    | '{' :: r =>
      if depth = 0 then none
      else (readPairs fuel (depth - 1) [] r).map fun (es, rest) => (.table (valuesOf es), rest)
    | c :: _ =>
      if c == '"' || c == '\'' then (readQuoted? cs).map fun (s, rest) => (.text s, rest)
      else
        let (token, rest) := readToken cs
        (scalar? token).map fun v => (v, rest)
    | [] => none

/-- The elements of an array up to its closing bracket. -/
def readElements : (fuel depth : Nat) → List Char → Option (List Value × List Char)
  | 0, _, _ => none
  | fuel + 1, depth, cs =>
    match passGap cs.length cs with
    | none => none
    | some (']' :: r) => some ([], r)
    | some r =>
      match readValue fuel depth r with
      | none => none
      | some (v, r) =>
        match passGap r.length r with
        | some (',' :: r) => (readElements fuel depth r).map fun (vs, rest) => (v :: vs, rest)
        | some (']' :: r) => some ([v], r)
        | _ => none

/-- The pairs of a table in braces up to the closing one. -/
def readPairs : (fuel depth : Nat) → Entries → List Char → Option (Entries × List Char)
  | 0, _, _, _ => none
  | fuel + 1, depth, es, cs =>
    match passGap cs.length cs with
    | none => none
    | some ('}' :: r) => some (es, r)
    | some r =>
      match readKey r with
      | none => none
      | some (path, key, r) =>
        match (passGap r.length r).bind passEquals? with
        | none => none
        | some r =>
          match (passGap r.length r).bind (readValue fuel depth) with
          | none => none
          | some (v, r) =>
            match es.assign path key v .header, passGap r.length r with
            | some es, some (',' :: r) => readPairs fuel depth es r
            | some es, some ('}' :: r) => some (es, r)
            | _, _ => none

end

/-- What has been read: the tree, and the path of the table that the last header opened. -/
structure Document where
  entries : Entries := []
  header : List String := []

/-- The pair of a key and its value, as far as the end of the line. -/
def readPair (d : Document) (cs : List Char) : Option (Document × List Char) :=
  match readKey cs with
  | some (path, key, '=' :: r) => do
    let (v, r) ← readValue (r.length + 1) nestLimit (r.dropWhile isSpace)
    let entries ← d.entries.assignAt d.header path key v
    return ({ d with entries }, ← endLine r)
  | _ => none

/-- A line that opens a table, from behind its bracket. -/
def readHeader (d : Document) (cs : List Char) : Option (Document × List Char) :=
  match cs with
  | '[' :: r => do
    match readKey r with
    | some (path, key, ']' :: ']' :: r) =>
      return (⟨← d.entries.openElement path key, path ++ [key]⟩, ← endLine r)
    | _ => none
  | _ =>
    match readKey cs with
    | some (path, key, ']' :: r) => do
      return (⟨← d.entries.openTable path key, path ++ [key]⟩, ← endLine r)
    | _ => none

def readDocument : (fuel : Nat) → Document → List Char → Option Document
  | 0, _, _ => none
  | fuel + 1, d, cs =>
    match passGap cs.length cs with
    | none => none
    | some [] => some d
    | some ('[' :: r) => (readHeader d r).bind fun (d, rest) => readDocument fuel d rest
    | some r => (readPair d r).bind fun (d, rest) => readDocument fuel d rest

/-- The table that a file denotes. A byte order mark in front is passed. -/
def read (s : String) : Option (List (String × Value)) :=
  let cs := match s.toList with
    | '\ufeff' :: r => r
    | cs => cs
  (readDocument (cs.length + 1) {} cs).map fun d => valuesOf d.entries

end AccessPolicy.Toml
