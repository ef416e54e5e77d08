import AccessPolicy.Data.Value
import AccessPolicy.Decimal.Numeral

/-!
What a program finds around it when it starts: files, a home directory and variables.
-/
namespace AccessPolicy

/-- What is found under a path. -/
inductive Found where
  | nothing
  | directory
  | file (text : String)
  /-- Something is there that cannot be read as a text. -/
  | unreadable
  deriving DecidableEq, Repr

abbrev Variables := List (String × String)

structure Surroundings where
  find : String → Found
  /-- The working directory, where paths begin that do not begin at the root. -/
  directory : String
  home : Option String
  environment : Variables

/-- Text files by their paths below one directory, which is home and working directory at once. -/
structure FileTree where
  directory : String
  files : List (String × String)

namespace FileTree

/-- The names on a path, without those that lead nowhere. `..` takes back the name before it. -/
def steps (path : String) : List String :=
  let names := (path.splitOn "/").filter fun n => n != "" && n != "."
  (names.foldl (fun acc n => if n == ".." then acc.drop 1 else n :: acc) []).reverse

/-- Where a file is, as the names on the way to it from the root. -/
def place (t : FileTree) (path : String) : List String :=
  steps (if path.startsWith "/" then path else t.directory ++ "/" ++ path)

/-- A directory is on the way to a file or to the working directory. -/
def isDirectory (t : FileTree) (place : List String) : Bool :=
  place.isPrefixOf (steps t.directory)
    || t.files.any fun f =>
        place.length < (t.place f.1).length && place.isPrefixOf (t.place f.1)

/-- What lies at a place. -/
def foundAt (t : FileTree) (place : List String) : Found :=
  match t.files.find? fun f => t.place f.1 == place with
  | some (_, text) => .file text
  | none => if t.isDirectory place then .directory else .nothing

/-- Go from a place along the names of a path. Every step leads out of a directory, also one that
stays or turns back. -/
def follow (t : FileTree) : (names : List String) → (place : List String) → Found
  | [], place => t.foundAt place
  | n :: ns, place =>
    if !t.isDirectory place then .nothing
    else if n == "" || n == "." then t.follow ns place
    else if n == ".." then t.follow ns place.dropLast
    else t.follow ns (place ++ [n])

/-- What lies under a path. -/
def find (t : FileTree) (path : String) : Found :=
  if path.isEmpty then .nothing
  else t.follow (path.splitOn "/") (if path.startsWith "/" then [] else steps t.directory)

def surroundings (t : FileTree) (vs : Variables) : Surroundings :=
  ⟨t.find, t.directory, some ((vs.lookup "HOME").getD t.directory), vs⟩

end FileTree

namespace Surroundings

/-- A path that starts at home is spelt out. -/
def expand (s : Surroundings) (path : String) : String :=
  match s.home, path.toList with
  | some home, '~' :: r =>
    if r.isEmpty || r.head? == some '/' then home ++ String.ofList r else path
  | _, _ => path

def exists? (s : Surroundings) (path : String) : Bool := s.find path != .nothing

/-- A path read backwards, from the last name on it that leads somewhere. -/
def lastName : List Char → List Char
  | '/' :: r => lastName r
  | '.' :: '/' :: r => lastName r
  | cs => cs

/-- The path of the settings file that stands for a directory. It has the name of the directory and
lies beside it; a name with an extension of its own keeps that, and then a slash behind the name
leads into the directory after all. -/
def beside? (s : Surroundings) (path : String) : Option String :=
  let path := if path.startsWith "/" then path else s.directory ++ "/" ++ path
  let backwards := lastName path.toList.reverse
  let name := (backwards.takeWhile (· != '/')).reverse
  if name.isEmpty || name == ['.', '.'] then none
  else if (name.drop 1).contains '.' then
    some (path ++ (if path.endsWith "/" then ".placeholder.toml" else ".toml"))
  else some (String.ofList backwards.reverse ++ ".toml")

/-- The text of a file without the byte order mark that may stand in front of it. -/
def unmarked (text : String) : String :=
  match text.toList with
  | '\ufeff' :: r => String.ofList r
  | _ => text

/-- The text of a settings file, which for a directory is the file that stands for it. -/
def read? (s : Surroundings) (path : String) : Option String :=
  match s.find path with
  | .nothing => none
  | .unreadable => none
  | .file text => some (unmarked text)
  | .directory =>
    match (s.beside? path).map s.find with
    | some (.file text) => some (unmarked text)
    | _ => none

end Surroundings

namespace Variables

/-- What the names of variables start with that override a setting. -/
def mark : List Char := "gatekeeper__".toList

/-- Names are compared in lower case; of the letters outside ASCII only the Kelvin sign has its
lower case inside. -/
def lowerChar (c : Char) : Char := if c == '\u212a' then 'k' else c.toLower

/-- Two underscores in a name stand for the dot of a key. -/
def dotted : List Char → List Char
  | '_' :: '_' :: r => '.' :: dotted r
  | c :: r => c :: dotted r
  | [] => []

/-- The key of the setting that a variable overrides. -/
def key? (name : String) : Option String :=
  let lower := name.toList.map lowerChar
  if mark.isPrefixOf lower then some (String.ofList (dotted (lower.drop mark.length))) else none

/-- A truth value, an integer, a number or else a text, whichever the text reads as first. -/
def valueOf (s : String) : Value :=
  let word := s.toLower
  if word == "true" then .bool true
  else if word == "false" then .bool false
  else
    match Decimal.integer? s.toList, Decimal.Binary.ofText? s.toList with
    | some i, _ => .integer i
    | none, some x => .float x
    | none, none => .text s

/-- The settings that the variables override. -/
def layer (vs : Variables) : List (String × Value) :=
  vs.filterMap fun (name, text) => (key? name).map fun key => (key, valueOf text)

end Variables

end AccessPolicy
