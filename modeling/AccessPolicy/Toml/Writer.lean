import AccessPolicy.Data.Value
import AccessPolicy.Toml.Quoted

/-!
Writing parts of a settings file. A text is quoted in the plainest way that can hold it; escapes are
written only if no way of quoting can do without them.
-/
namespace AccessPolicy.Toml

/-- The longest run of a character. -/
def longestRun (q : Char) : (run : Nat) → List Char → Nat
  | run, [] => run
  | run, c :: r => if c == q then longestRun q (run + 1) r else max run (longestRun q 0 r)

/-- Control characters that only an escape can stand for. -/
def needsCode (c : Char) : Bool :=
  (c.toNat < 0x20 && c != '\t' && c != '\n') || c.toNat = 0x7F

def upperHex (n : Nat) : Char := (Nat.digitChar n).toUpper

/-- The escape of a character that may not stand for itself between double quotes. -/
def escapeOf (c : Char) : List Char :=
  if c == '\x08' then ['\\', 'b']
  else if c == '\t' then ['\\', 't']
  else if c == '\n' then ['\\', 'n']
  else if c == '\x0c' then ['\\', 'f']
  else if c == '\r' then ['\\', 'r']
  else if c == '"' then ['\\', '"']
  else if c == '\\' then ['\\', '\\']
  else ['\\', 'u', '0', '0', upperHex (c.toNat / 16), upperHex (c.toNat % 16)]

/-- The inside of double quotes; up to `most` quotes in a row stand for themselves, and so do line
ends if `lines` says so. -/
def escape (most : Nat) (lines : Bool) : (run : Nat) → List Char → List Char
  | _, [] => []
  | run, c :: r =>
    if c == '"' then
      if run < most then c :: escape most lines (run + 1) r
      else escapeOf c ++ escape most lines 0 r
    else if (c == '\n' && !lines) || c == '\t' || c == '\\' || needsCode c then
      escapeOf c ++ escape most lines 0 r
    else c :: escape most lines 0 r

/-- Three quotes around a text, which starts on a line of its own if it has several. -/
def block (mark : String) (cs inside : List Char) : String :=
  mark ++ (if cs.contains '\n' then "\n" else "") ++ String.ofList inside ++ mark

def quote (s : String) : String :=
  let cs := s.toList
  let coded := cs.any needsCode
  let escaped := cs.contains '\\'
  let lines := cs.contains '\n'
  let doubles := longestRun '"' 0 cs
  let singles := longestRun '\'' 0 cs
  if !coded && !escaped && !lines && doubles = 0 then
    "\"" ++ String.ofList (escape 0 false 0 cs) ++ "\""
  else if !coded && !lines && singles = 0 then "'" ++ s ++ "'"
  else if !coded && !escaped && doubles ≤ 2 then block "\"\"\"" cs (escape 2 true 0 cs)
  else if !coded && singles ≤ 2 then block "'''" cs cs
  else if lines then block "\"\"\"" cs (escape 2 true 0 cs)
  else "\"" ++ String.ofList (escape 0 false 0 cs) ++ "\""

/-- A list of texts; from two on, each has a line of its own. -/
def writeList (ss : List String) : String :=
  match ss with
  | [] => "[]"
  | [s] => "[" ++ quote s ++ "]"
  | _ => "[\n" ++ String.join (ss.map fun s => "    " ++ quote s ++ ",\n") ++ "]"

/-- A line that gives a key its value. -/
def line (key value : String) : String := key ++ " = " ++ value ++ "\n"

def header (name : String) : String := "[" ++ name ++ "]\n"

def elementHeader (name : String) : String := "[[" ++ name ++ "]]\n"

end AccessPolicy.Toml
