import AccessPolicy.Settings.Surroundings
import AccessPolicy.Text.Blank
import AccessPolicy.Unicode.Property

/-!
Files of variables: lines `NAME=value`, where a value may be quoted, may run over several lines and
may refer to other variables. A file only adds variables that are not set yet, and is read no
further than its first mistake.
-/
namespace AccessPolicy.VariableFile

/-- What the characters so far leave open. -/
inductive Quoting where
  | complete
  /-- Behind a blank, where a comment may start. -/
  | space
  | escape
  | weak
  | weakEscape
  | strong
  | strongEscape
  | comment
  deriving DecidableEq, Repr

namespace Quoting

def outside (c : Char) : Quoting :=
  if c == '\\' then escape else if c == '"' then weak else if c == '\'' then strong else complete

def next : Quoting → Char → Quoting
  | complete, c => if Text.isBlank c && c != '\n' && c != '\r' then space else outside c
  | space, c => if c == '#' then comment else outside c
  | escape, _ => complete
  | weak, c => if c == '\\' then weakEscape else if c == '"' then complete else weak
  | weakEscape, _ => weak
  | strong, c => if c == '\\' then strongEscape else if c == '\'' then complete else strong
  | strongEscape, _ => strong
  | comment, _ => comment

end Quoting

/-- Follow the quoting through a line. What a comment says is left out. -/
def scan : Quoting → List Char → List Char × Quoting
  | q, [] => ([], q)
  | q, c :: r =>
    match q.next c with
    | .comment => ([], .comment)
    | q' => (c :: (scan q' r).1, (scan q' r).2)

/-- Cut behind every line end. -/
def physicalLines : List Char → List (List Char)
  | [] => []
  | c :: r =>
    if c == '\n' then [c] :: physicalLines r
    else
      match physicalLines r with
      | [] => [[c]]
      | line :: lines => (c :: line) :: lines

def isComment (cs : List Char) : Bool := (cs.dropWhile Text.isBlank).head? == some '#'

/-- Join the lines between which something is left open. One left open at the end is dropped. -/
def logicalLines : (pending : List Char) → Quoting → List (List Char) → List (List Char)
  | _, _, [] => []
  | pending, q, line :: rest =>
    if isComment (pending ++ line) then [] :: logicalLines [] .complete rest
    else
      match scan q line with
      | (kept, .complete) => (pending ++ kept) :: logicalLines [] .complete rest
      | (kept, .comment) => (pending ++ kept) :: logicalLines [] .complete rest
      | (_, q') => logicalLines (pending ++ line) q' rest

/-- Where in a value a character stands. -/
inductive Place where
  | plain
  | weak
  | strong
  | escaped (quoted : Bool)
  /-- In a name behind a dollar sign. -/
  | named (quoted : Bool) (name : List Char)
  /-- In a name in braces behind a dollar sign. -/
  | braced (quoted : Bool) (name : List Char)
  /-- Behind the value, where only a comment may follow. -/
  | ended

def Place.around (quoted : Bool) : Place := if quoted then .weak else .plain

/-- The character that an escape stands for. -/
def escaped? (c : Char) : Option Char :=
  if c == 'n' then some '\n'
  else if "\\'\"$ ".toList.contains c then some c
  else none

/-- Names are made of letters and numbers of every kind. -/
def isNamePart (c : Char) : Bool :=
  Unicode.Property.alphabetic.contains c || Unicode.Property.numeric.contains c

/-- Read a value, with `look` for what names stand for. -/
def readValue (look : List Char → List Char) : Place → List Char → Option (List Char)
  | .plain, [] => some []
  | .ended, [] => some []
  | .escaped false, [] => some []
  | .named false name, [] => some (look name.reverse)
  | _, [] => none
  | .ended, c :: r =>
    if c == ' ' || c == '\t' then readValue look .ended r
    else if c == '#' then some []
    else none
  | .escaped quoted, c :: r =>
    (escaped? c).bind fun d => (readValue look (.around quoted) r).map (d :: ·)
  | .strong, c :: r =>
    if c == '\'' then readValue look .plain r else (readValue look .strong r).map (c :: ·)
  | .named quoted name, c :: r =>
    if isNamePart c then readValue look (.named quoted (c :: name)) r
    else if c == '{' && name.isEmpty then readValue look (.braced quoted []) r
    else if c == '$' then
      (readValue look (.named quoted []) r).map (look name.reverse ++ ·)
    else (readValue look (.around quoted) r).map fun s => look name.reverse ++ c :: s
  | .braced quoted name, c :: r =>
    if c == '}' then (readValue look (.around quoted) r).map (look name.reverse ++ ·)
    else readValue look (.braced quoted (c :: name)) r
  | .weak, c :: r =>
    if c == '$' then readValue look (.named true []) r
    else if c == '"' then readValue look .plain r
    else if c == '\\' then readValue look (.escaped true) r
    else (readValue look .weak r).map (c :: ·)
  | .plain, c :: r =>
    if c == '$' then readValue look (.named false []) r
    else if c == '\'' then readValue look .strong r
    else if c == '"' then readValue look .weak r
    else if c == '\\' then readValue look (.escaped false) r
    else if c == ' ' || c == '\t' then readValue look .ended r
    else (readValue look .plain r).map (c :: ·)

def isKeyPart (c : Char) : Bool := c.isAlphanum || c == '_' || c == '.'

/-- A name, and what follows it behind blanks. -/
def readKey (cs : List Char) : Option (String × List Char) :=
  if cs.head?.any fun c => c.isAlpha || c == '_' then
    some (String.ofList (cs.takeWhile isKeyPart), (cs.dropWhile isKeyPart).dropWhile Text.isBlank)
  else none

def passEqual : List Char → Option (List Char)
  | '=' :: r => some (r.dropWhile Text.isBlank)
  | _ => none

/-- The name that a line sets and the text of its value. The word `export` may stand before the
name, and may also be the name. -/
def readTarget (cs : List Char) : Option (String × List Char) := do
  let (key, r) ← readKey cs
  match passEqual r with
  | some value => return (key, value)
  | none =>
    if key == "export" then
      let (key, r) ← readKey r
      return (key, ← passEqual r)
    else none

/-- What a line does to the variables. -/
inductive Line where
  | nothing
  | set (name value : String)
  | mistake

def blank (cs : List Char) : Bool := cs.isEmpty || cs.head? == some '#'

/-- What a name stands for. Variables are texts `NAME=value`, so a name may reach over the first
equals sign into a value. -/
def valueOf (vs : Variables) (name : List Char) : List Char :=
  if name.isEmpty then []
  else
    let found := vs.findSome? fun v =>
      (name ++ ['=']).isPrefixOf? (v.1.toList ++ '=' :: v.2.toList)
    found.getD []

def readLine (vs : Variables) (cs : List Char) : Line :=
  let cs := Text.trimChars cs
  if blank cs then .nothing
  else
    match readTarget cs with
    | none => .mistake
    | some (name, value) =>
      if blank value then .set name ""
      else
        match readValue (valueOf vs) .plain value with
        | none => .mistake
        | some s => .set name (String.ofList s)

def loadLines : Variables → List (List Char) → Variables
  | vs, [] => vs
  | vs, cs :: rest =>
    match readLine vs cs with
    | .nothing => loadLines vs rest
    | .mistake => vs
    | .set name value =>
      loadLines (if (vs.lookup name).isSome then vs else vs ++ [(name, value)]) rest

/-- Add the variables of a file. -/
def load (vs : Variables) (text : String) : Variables :=
  let cs := match text.toList with
    | '\ufeff' :: r => r
    | cs => cs
  loadLines vs (logicalLines [] .complete (physicalLines cs))

end AccessPolicy.VariableFile
