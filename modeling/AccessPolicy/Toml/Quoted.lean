import AccessPolicy.Text.Digit

/-!
Quoted text of a settings file. Between double quotes a backslash starts an escape; between single
quotes every character stands for itself. Three quotes of a kind enclose text of several lines.
-/
namespace AccessPolicy.Toml

/-- Control characters other than a tab never stand in a file by themselves. -/
def isForbidden (c : Char) : Bool :=
  (c.toNat < 0x20 && c != '\t') || c.toNat = 0x7F

/-- Pass one line end, if it comes next. -/
def passLineEnd? : List Char → Option (List Char)
  | '\n' :: r => some r
  | '\r' :: '\n' :: r => some r
  | _ => none

def isSpace (c : Char) : Bool := c == ' ' || c == '\t'

/-- A character by `count` hexadecimal digits. -/
def readCode (count : Nat) (cs : List Char) : Option (Char × List Char) :=
  if cs.length < count then none
  else do
    let ds ← (cs.take count).mapM Text.hexValue?
    return (← Text.charOf? (Text.ofDigits 16 ds), cs.drop count)

/-- Read an escape from behind its backslash. -/
def readEscape : List Char → Option (Char × List Char)
  | 'b' :: r => some ('\x08', r)
  | 't' :: r => some ('\t', r)
  | 'n' :: r => some ('\n', r)
  | 'f' :: r => some ('\x0c', r)
  | 'r' :: r => some ('\r', r)
  | 'e' :: r => some ('\x1b', r)
  | '"' :: r => some ('"', r)
  | '\\' :: r => some ('\\', r)
  | 'x' :: r => readCode 2 r
  | 'u' :: r => readCode 4 r
  | 'U' :: r => readCode 8 r
  | _ => none

/-- Put a character in front of the text that is read. -/
def consText (c : Char) (p : List Char × List Char) : List Char × List Char := (c :: p.1, p.2)

/-- Text up to the double quote that closes it. -/
def readBasic : (fuel : Nat) → List Char → Option (List Char × List Char)
  | 0, _ => none
  | _ + 1, [] => none
  | fuel + 1, c :: r =>
    if c == '"' then some ([], r)
    else if c == '\\' then
      (readEscape r).bind fun (d, rest) => (readBasic fuel rest).map (consText d)
    else if isForbidden c then none
    else (readBasic fuel r).map (consText c)

/-- Text up to the single quote that closes it. -/
def readLiteral : List Char → Option (List Char × List Char)
  | [] => none
  | c :: r =>
    if c == '\'' then some ([], r)
    else if isForbidden c then none
    else (readLiteral r).map (consText c)

/-- The number of quotes at the start. -/
def quotes (q : Char) (cs : List Char) : Nat := (cs.takeWhile (· == q)).length

/-- From three quotes on, the last three close the text; at most two more belong to it. -/
def closing? (q : Char) (cs : List Char) : Option (List Char × List Char) :=
  let n := quotes q cs
  if n < 3 then none
  else
    let own := min (n - 3) 2
    some (List.replicate own q, cs.drop (own + 3))

/-- Pass blanks and line ends; `fuel` bounds their number. -/
def passSpace : (fuel : Nat) → List Char → List Char
  | fuel + 1, c :: r =>
    if isSpace c then passSpace fuel r
    else
      match passLineEnd? (c :: r) with
      | some rest => passSpace fuel rest
      | none => c :: r
  | _, cs => cs

/-- Text of several lines. `escapes` tells that a backslash starts an escape, or, at the end of a
line, joins it to the next word. -/
def readLines (q : Char) (escapes : Bool) : (fuel : Nat) → List Char →
    Option (List Char × List Char)
  | 0, _ => none
  | _ + 1, [] => none
  | fuel + 1, c :: r =>
    match closing? q (c :: r) with
    | some p => some p
    | none =>
      if escapes && c == '\\' then
        match passLineEnd? (r.dropWhile isSpace) with
        | some rest => readLines q escapes fuel (passSpace rest.length rest)
        | none =>
          (readEscape r).bind fun (d, rest) => (readLines q escapes fuel rest).map (consText d)
      else
        match passLineEnd? (c :: r) with
        | some rest =>
          (readLines q escapes fuel rest).map fun p =>
            ((if c == '\r' then ['\r', '\n'] else ['\n']) ++ p.1, p.2)
        | none =>
          if isForbidden c then none else (readLines q escapes fuel r).map (consText c)

/-- The text behind three quotes; a line end right behind them does not belong to it. -/
def readBlock (q : Char) (escapes : Bool) (cs : List Char) : Option (List Char × List Char) :=
  readLines q escapes (cs.length + 1) ((passLineEnd? cs).getD cs)

/-- A text on one line. -/
def readInline? : List Char → Option (String × List Char)
  | '"' :: r => (readBasic (r.length + 1) r).map fun p => (String.ofList p.1, p.2)
  | '\'' :: r => (readLiteral r).map fun p => (String.ofList p.1, p.2)
  | _ => none

/-- A quoted text of any kind. -/
def readQuoted? : List Char → Option (String × List Char)
  | '"' :: '"' :: '"' :: r => (readBlock '"' true r).map fun p => (String.ofList p.1, p.2)
  | '\'' :: '\'' :: '\'' :: r => (readBlock '\'' false r).map fun p => (String.ofList p.1, p.2)
  | cs => readInline? cs

end AccessPolicy.Toml
