import AccessPolicy.Data.Value

/-!
Values written as JSON over several lines, with two spaces for each level.
-/
namespace AccessPolicy.Value

/-- The escape of a control character by its code. -/
def jsonCode (c : Char) : List Char :=
  ['\\', 'u', '0', '0', Nat.digitChar (c.toNat / 16), Nat.digitChar (c.toNat % 16)]

def jsonChar (c : Char) : List Char :=
  if c == '"' then ['\\', '"']
  else if c == '\\' then ['\\', '\\']
  else if c == '\n' then ['\\', 'n']
  else if c == '\r' then ['\\', 'r']
  else if c == '\t' then ['\\', 't']
  else if c == '\x08' then ['\\', 'b']
  else if c == '\x0c' then ['\\', 'f']
  else if c.toNat < 0x20 then jsonCode c
  else [c]

def jsonText (s : String) : String := "\"" ++ String.ofList (s.toList.flatMap jsonChar) ++ "\""

/-- The start of a line. -/
def margin (level : Nat) : String := "\n" ++ String.ofList (List.replicate (2 * level) ' ')

/-- What a level holds, each part on a line of its own, between brackets. -/
def enclose (level : Nat) (opening closing : String) (parts : List String) : String :=
  if parts.isEmpty then opening ++ closing
  else opening ++ ",".intercalate (parts.map (margin (level + 1) ++ ·)) ++ margin level ++ closing

mutual

/-- There are no texts for infinities, and none for what is no number. -/
def json (level : Nat) : Value → String
  | null => "null"
  | bool b => boolText b
  | integer i => i.repr
  | float x => if x matches .finite _ _ _ then x.text else "null"
  | text s => jsonText s
  | array vs => enclose level "[" "]" (jsonMembers (level + 1) vs)
  | table es => enclose level "\x7b" "\x7d" (jsonEntries (level + 1) es)

def jsonMembers (level : Nat) : List Value → List String
  | [] => []
  | v :: r => v.json level :: jsonMembers level r

def jsonEntries (level : Nat) : List (String × Value) → List String
  | [] => []
  | (k, v) :: r => (jsonText k ++ ": " ++ v.json level) :: jsonEntries level r

end

end AccessPolicy.Value
