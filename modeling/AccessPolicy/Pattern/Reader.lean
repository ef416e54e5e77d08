import AccessPolicy.Pattern.Normal
import AccessPolicy.Text.Cut
import AccessPolicy.Unicode.Named

/-!
Reading a pattern from its text. The reader resolves flags as it goes, so a pattern says by itself
what it matches. It refuses what has no meaning here: look-around, back-references, unbalanced
brackets, a repetition of nothing, bad ranges and bounds, unknown escapes, flags and classes, two
groups of one name, and nesting beyond a fixed depth.
-/
namespace AccessPolicy.Pattern

/-- The flags in force at a point of the text. -/
structure Flags where
  ignoreCase : Bool := false
  multiLine : Bool := false
  dotAll : Bool := false
  crlf : Bool := false
  unicode : Bool := true
  /-- White space and comments are not part of the pattern. -/
  verbose : Bool := false
  deriving DecidableEq, Repr

/-- Drop white space and comments; `comment` tells that the text begins inside a comment. -/
def dropSpace : (comment : Bool) → List Char → List Char
  | _, [] => []
  | true, c :: r => dropSpace (c != '\n') r
  | false, c :: r =>
    if Text.isBlank c then dropSpace false r
    else if c == '#' then dropSpace true r
    else c :: r

namespace Flags

def skip (fl : Flags) (cs : List Char) : List Char :=
  if fl.verbose then dropSpace false cs else cs

/-- The character behind white space. Of a comment only the mark is passed, with the white space
behind it; where nothing else follows, it is the very next character. -/
def peek? (fl : Flags) (cs : List Char) : Option Char :=
  if fl.verbose then
    let rest := match cs.dropWhile Text.isBlank with
      | '#' :: r => r.dropWhile Text.isBlank
      | r => r
    rest.head?.or cs.head?
  else cs.head?

/-- The letters of a word, as far as word boundaries are concerned. -/
def letters (fl : Flags) : CharSet :=
  if fl.unicode then Unicode.Property.word
  else .ranges [('0', '9'), ('A', 'Z'), ('_', '_'), ('a', 'z')]

/-- Add the characters that differ in case only, if the flags ask for it. -/
def fold (fl : Flags) (a : CharSet) : CharSet :=
  if !fl.ignoreCase then a else if fl.unicode then a.folded else a.foldedAscii

/-- The complement of a set; without Unicode it would hold bytes that are no characters. -/
def negate? (fl : Flags) (negated : Bool) (a : CharSet) : Option CharSet :=
  if !negated then some a else if fl.unicode then some a.compl else none

def set? (fl : Flags) (on : Bool) : Char → Option Flags
  | 'i' => some { fl with ignoreCase := on }
  | 'm' => some { fl with multiLine := on }
  | 's' => some { fl with dotAll := on }
  | 'R' => some { fl with crlf := on }
  | 'u' => some { fl with unicode := on }
  | 'x' => some { fl with verbose := on }
  | 'U' => some fl
  | _ => none

/-- The set that a dot stands for. -/
def dot? (fl : Flags) : Option CharSet :=
  if !fl.unicode then none
  else if fl.dotAll then some .any
  else if fl.crlf then some (.compl (.ranges [('\n', '\n'), ('\r', '\r')]))
  else some (.compl (.single '\n'))

def lineStart (fl : Flags) : Assertion :=
  if fl.multiLine then .lineStart fl.crlf else .textStart

def lineEnd (fl : Flags) : Assertion :=
  if fl.multiLine then .lineEnd fl.crlf else .textEnd

end Flags

/-- Read digits onto `acc`; `fuel` bounds their number. -/
def readDigits (fl : Flags) : (fuel acc : Nat) → List Char → Nat × List Char
  | fuel + 1, acc, c :: r =>
    match Text.digitValue? c with
    | some d => readDigits fl fuel (acc * 10 + d) (fl.skip r)
    | none => (acc, c :: r)
  | _, acc, cs => (acc, cs)

/-- A number in a repetition, which may have blanks on both sides and has to fit 32 bits. -/
def readBound (fl : Flags) (cs : List Char) : Option (Nat × List Char) :=
  let cs := cs.dropWhile Text.isBlank
  if !(cs.head?.any Char.isDigit) then none
  else
    let (n, r) := readDigits fl cs.length 0 cs
    if n < Nat.pow 2 32 then some (n, fl.skip (r.dropWhile Text.isBlank)) else none

/-- The rest of a counted repetition, from behind its opening brace. -/
def readCount (fl : Flags) (cs : List Char) : Option (Nat × Option Nat × List Char) :=
  match readBound fl (fl.skip cs) with
  | some (n, '}' :: r) => some (n, some n, r)
  | some (n, ',' :: r) =>
    match fl.skip r with
    | '}' :: r => some (n, none, r)
    | r =>
      match readBound fl r with
      | some (m, '}' :: r) => if n ≤ m then some (n, some m, r) else none
      | _ => none
  | _ => none

/-- The mark of a lazy repetition, which changes no answer, is dropped. -/
def dropLazy : List Char → List Char
  | '?' :: r => r
  | cs => cs

def readHexDigits (fl : Flags) : (count acc : Nat) → List Char → Option (Nat × List Char)
  | 0, acc, cs => some (acc, cs)
  | n + 1, acc, c :: r => (Text.hexValue? c).bind fun d => readHexDigits fl n (acc * 16 + d) (fl.skip r)
  | _ + 1, _, [] => none

/-- Hexadecimal digits up to the closing brace; `fuel` bounds their number. -/
def readHexBrace (fl : Flags) :
    (fuel : Nat) → (acc : Option Nat) → List Char → Option (Nat × List Char)
  | 0, _, _ => none
  | fuel + 1, acc, cs =>
    match fl.skip cs with
    | '}' :: r => acc.map fun n => (n, fl.skip r)
    | c :: r => (Text.hexValue? c).bind fun d => readHexBrace fl fuel (some (acc.getD 0 * 16 + d)) r
    | [] => none

/-- A character by its hexadecimal digits, from behind the letter that announces them. Two digits
without braces are a byte, which has to be ASCII if there is no Unicode. -/
def readHex (fl : Flags) (count : Nat) (cs : List Char) : Option (Char × List Char) :=
  let char (p : Nat × List Char) : Option (Char × List Char) :=
    (Text.charOf? p.1).map fun c => (c, p.2)
  match fl.skip cs with
  | '{' :: r => (readHexBrace fl (r.length + 1) none r).bind char
  | r =>
    match readHexDigits fl count 0 r with
    | some p => if count = 2 ∧ fl.unicode = false ∧ 128 ≤ p.1 then none else char p
    | none => none

/-- What one item of a pattern or of a class may be. -/
inductive Atom where
  | literal (c : Char)
  | set (cs : CharSet)
  | look (a : Assertion)

/-- Characters with a meaning of their own, which an escape takes away. -/
def isMeta (c : Char) : Bool :=
  "\\.+*?()|[]\x7b\x7d^$#&-~".toList.contains c

/-- Every ASCII character but letters, digits and angle brackets may be escaped to no effect. -/
def isEscapable (c : Char) : Bool :=
  isMeta c || (c.toNat < 128 && !c.isAlphanum && c != '<' && c != '>')

/-- The names in braces behind a word boundary. -/
def boundaryNames : List (String × Boundary) :=
  [("start", .start), ("end", .finish), ("start-half", .startHalf), ("end-half", .finishHalf)]

def isBoundaryNamePart (c : Char) : Bool := c.isAlpha || c == '-'

/-- Read the letters of a boundary name; `fuel` bounds their number. -/
def readBoundaryName (fl : Flags) : (fuel : Nat) → List Char → List Char × List Char
  | fuel + 1, c :: r =>
    if isBoundaryNamePart c then
      let (name, rest) := readBoundaryName fl fuel (fl.skip r)
      (c :: name, rest)
    else ([], c :: r)
  | _, cs => ([], cs)

/-- What follows `\b`: a name in braces, or else nothing that belongs to it. -/
def readBoundary (fl : Flags) (cs : List Char) : Option (Boundary × List Char) :=
  match cs with
  | '{' :: r =>
    match fl.skip r with
    | [] => none
    | c :: r' =>
      if !isBoundaryNamePart c then some (.edge, cs)
      else
        match readBoundaryName fl (r'.length + 1) (c :: r') with
        | (name, '}' :: rest) =>
          (boundaryNames.lookup (String.ofList name)).map fun b => (b, rest)
        | _ => none
  | _ => some (.edge, cs)

/-- The digits, blanks and word characters of one letter escapes. -/
def shortSet (fl : Flags) : Char → CharSet
  | 'd' => if fl.unicode then Unicode.Category.decimalNumber else .range '0' '9'
  | 's' => if fl.unicode then Unicode.Property.whiteSpace else .ranges [('\t', '\r'), (' ', ' ')]
  | _ => fl.letters

/-- A name up to its closing brace; `fuel` bounds its length. -/
def readBraced (fl : Flags) : (fuel : Nat) → List Char → Option (List Char × List Char)
  | 0, _ => none
  | fuel + 1, cs =>
    match fl.skip cs with
    | [] => none
    | '}' :: r => some ([], r)
    | c :: r => (readBraced fl fuel r).map fun (name, rest) => (c :: name, rest)

/-- The set that a name in braces stands for, which may be a property and its value. The mark of a
different value does not count. -/
def bracedSet? (name : List Char) : Option CharSet :=
  let unequal : Option (List Char × List Char) := (Text.cutFirst '!' name).bind fun (a, r) =>
    match r with
    | '=' :: b => some (a, b)
    | _ => none
  match unequal with
  | some (a, b) => Unicode.setValued? a b
  | none =>
    match Text.cutFirst ':' name with
    | some (a, b) => Unicode.setValued? a b
    | none =>
      match Text.cutFirst '=' name with
      | some (a, b) => Unicode.setValued? a b
      | none => Unicode.setNamed? name

/-- A set by its name, from behind the letter that announces it: a name of one letter needs no
braces. -/
def readNamedSet (fl : Flags) (cs : List Char) : Option (CharSet × List Char) :=
  match fl.skip cs with
  | [] => none
  | '\\' :: _ => none
  | '{' :: r =>
    match readBraced fl (r.length + 1) r with
    | some (name, rest) => (bracedSet? name).map fun s => (s, rest)
    | none => none
  | c :: r => (Unicode.setNamed? [c]).map fun s => (s, r)

/-- Read an escape from behind its backslash. -/
def readEscape (fl : Flags) : List Char → Option (Atom × List Char)
  | [] => none
  | c :: r =>
    let literal (d : Char) : Option (Atom × List Char) := some (.literal d, r)
    let hex (count : Nat) : Option (Atom × List Char) :=
      (readHex fl count r).map fun (d, rest) => (.literal d, rest)
    let short (negated : Bool) (k : Char) : Option (Atom × List Char) :=
      (fl.negate? negated (shortSet fl k)).map fun s => (.set s, r)
    let named (negated : Bool) : Option (Atom × List Char) :=
      if !fl.unicode then none
      else (readNamedSet fl r).map fun (s, rest) =>
        (.set (if negated then (fl.fold s).compl else fl.fold s), rest)
    match c with
    | 'x' => hex 2
    | 'u' => hex 4
    | 'U' => hex 8
    | 'd' | 's' | 'w' => short false c
    | 'D' => short true 'd'
    | 'S' => short true 's'
    | 'W' => short true 'w'
    | 'p' => named false
    | 'P' => named true
    | 'a' => literal '\x07'
    | 'f' => literal '\x0c'
    | 't' => literal '\t'
    | 'n' => literal '\n'
    | 'r' => literal '\r'
    | 'v' => literal '\x0b'
    | 'A' => some (.look .textStart, r)
    | 'z' => some (.look .textEnd, r)
    | 'B' => some (.look (.boundary .inner fl.letters), r)
    | '<' => some (.look (.boundary .start fl.letters), r)
    | '>' => some (.look (.boundary .finish fl.letters), r)
    | 'b' => (readBoundary fl r).map fun (b, rest) => (.look (.boundary b fl.letters), rest)
    | _ => if isEscapable c then literal c else none

/-- The named classes, as closed ranges. -/
def asciiClasses : List (String × List (Char × Char)) :=
  [("alnum", [('0', '9'), ('A', 'Z'), ('a', 'z')]), ("alpha", [('A', 'Z'), ('a', 'z')]),
    ("ascii", [('\x00', '\x7f')]), ("blank", [('\t', '\t'), (' ', ' ')]),
    ("cntrl", [('\x00', '\x1f'), ('\x7f', '\x7f')]), ("digit", [('0', '9')]),
    ("graph", [('!', '~')]), ("lower", [('a', 'z')]), ("print", [(' ', '~')]),
    ("punct", [('!', '/'), (':', '@'), ('[', '\x60'), ('\x7b', '~')]),
    ("space", [('\t', '\r'), (' ', ' ')]), ("upper", [('A', 'Z')]),
    ("word", [('0', '9'), ('A', 'Z'), ('_', '_'), ('a', 'z')]),
    ("xdigit", [('0', '9'), ('A', 'F'), ('a', 'f')])]

/-- A named class such as `[:alpha:]`, from behind its bracket: whether it is negated, and its
set. Any other text is no named class, which is no mistake. -/
def readAsciiClass (cs : List Char) : Option (Bool × CharSet × List Char) :=
  match cs with
  | ':' :: r =>
    let (negated, r) := match r with
      | '^' :: r => (true, r)
      | r => (false, r)
    match r.dropWhile (· != ':') with
    | ':' :: ']' :: rest =>
      (asciiClasses.lookup (String.ofList (r.takeWhile (· != ':')))).map fun rs =>
        (negated, CharSet.ranges rs, rest)
    | _ => none
  | _ => none

/-- One character or escape in a class, where a character has to be ASCII if there is no Unicode. -/
def readClassAtom (fl : Flags) (cs : List Char) : Option (Atom × List Char) :=
  let atom := match cs with
    | '\\' :: r => readEscape fl r
    | c :: r => some (.literal c, r)
    | [] => none
  match atom with
  | some (.literal c, r) => if fl.unicode || c.toNat < 128 then some (.literal c, r) else none
  | other => other

/-- A character, an escape or a range of characters in a class. A dash in front of another one, or of
the closing bracket, makes no range. -/
def readClassRange (fl : Flags) (cs : List Char) : Option (CharSet × List Char) :=
  match readClassAtom fl cs with
  | none => none
  | some (first, r) =>
    let alone : Option CharSet := match first with
      | .literal c => some (.single c)
      | .set s => some s
      | .look _ => none
    match fl.skip r with
    | [] => none
    | '-' :: r' =>
      if fl.peek? r' = some ']' ∨ fl.peek? r' = some '-' then alone.map fun s => (s, '-' :: r')
      else
        match first, readClassAtom fl (fl.skip r') with
        | .literal lo, some (.literal hi, rest) =>
          if lo ≤ hi then some (.range lo hi, rest) else none
        | _, _ => none
    | r' => alone.map fun s => (s, r')

/-- The operators between the parts of a class. -/
inductive ClassOp where
  | inter
  | diff
  | exclusive

def ClassOp.combine (fl : Flags) : ClassOp → CharSet → CharSet → CharSet
  | inter, a, b => .inter (fl.fold a) (fl.fold b)
  | diff, a, b => .diff (fl.fold a) (fl.fold b)
  | exclusive, a, b => .exclusive (fl.fold a) (fl.fold b)

/-- The part of a class that is being read: the items since the last operator, and the operator
with the set before it and its depth of nesting. -/
structure ClassState where
  items : List CharSet := []
  pending : Option (ClassOp × CharSet × Nat) := none
  /-- The depth of nesting within the items. -/
  height : Nat := 0

namespace ClassState

def push (st : ClassState) (s : CharSet) : ClassState := { st with items := s :: st.items }

/-- The set read so far. -/
def close (fl : Flags) (st : ClassState) : CharSet :=
  let u := CharSet.unions st.items
  match st.pending with
  | none => u
  | some (op, a, _) => op.combine fl a u

/-- The depth of what was read so far: a list of several items is one level, and so is an operator
with its two sides. -/
def depth (st : ClassState) : Nat :=
  let right := st.height + (if st.items.length ≥ 2 then 1 else 0)
  match st.pending with
  | none => right
  | some (_, _, left) => max left right + 1

def operator (fl : Flags) (op : ClassOp) (st : ClassState) : ClassState :=
  ⟨[], some (op, st.close fl, st.depth), 0⟩

end ClassState

/-- The dashes at the start of a class stand for themselves; `fuel` bounds their number. -/
def readDashes (fl : Flags) : (fuel : Nat) → ClassState → List Char → ClassState × List Char
  | fuel + 1, st, '-' :: r => readDashes fl fuel (st.push (.single '-')) (fl.skip r)
  | _, st, cs => (st, cs)

/-- The start of a class, from behind its bracket: whether it is negated, and what stands for
itself there only because it comes first. -/
def openClass (fl : Flags) (cs : List Char) : Bool × ClassState × List Char :=
  let (negated, cs) := match fl.skip cs with
    | '^' :: r => (true, fl.skip r)
    | r => (false, r)
  let (st, cs) := readDashes fl cs.length {} cs
  match cs with
  | ']' :: r =>
    if st.items.isEmpty then (negated, st.push (.single ']'), fl.skip r) else (negated, st, cs)
  | _ => (negated, st, cs)

/-- Read a class up to its closing bracket; the depth of nesting comes with the set. -/
def readClass (fl : Flags) :
    (fuel : Nat) → (negated : Bool) → ClassState → List Char → Option (CharSet × Nat × List Char)
  | 0, _, _, _ => none
  | fuel + 1, negated, st, cs =>
    match fl.skip cs with
    | [] => none
    | ']' :: r =>
      (fl.negate? negated (fl.fold (st.close fl))).map fun s => (s, st.depth + 1, r)
    | '[' :: r =>
      match readAsciiClass r with
      | some (neg, s, rest) =>
        match fl.negate? neg (fl.fold s) with
        | some s => readClass fl fuel negated (st.push s) rest
        | none => none
      | none =>
        let (neg, inner, r) := openClass fl r
        match readClass fl fuel neg inner r with
        | some (s, h, rest) =>
          readClass fl fuel negated { st.push s with height := max st.height h } rest
        | none => none
    | '&' :: '&' :: r => readClass fl fuel negated (st.operator fl .inter) r
    | '-' :: '-' :: r => readClass fl fuel negated (st.operator fl .diff) r
    | '~' :: '~' :: r => readClass fl fuel negated (st.operator fl .exclusive) r
    | cs =>
      match readClassRange fl cs with
      | some (s, rest) => readClass fl fuel negated (st.push s) rest
      | none => none

/-- Read the flags of a group up to its colon or closing bracket. -/
def readFlags : (fl : Flags) → (on : Bool) → (seen : List Char) → List Char →
    Option (Flags × List Char × List Char)
  | _, _, _, [] => none
  | fl, on, seen, c :: r =>
    if c == ':' || c == ')' then
      if seen.head? == some '-' then none else some (fl, seen, c :: r)
    else if seen.contains c then none
    else if c == '-' then readFlags fl false (c :: seen) r
    else
      match fl.set? on c with
      | none => none
      | some fl' => readFlags fl' on (c :: seen) r

def isGroupNameStart (c : Char) : Bool :=
  c == '_' || Unicode.Property.alphabetic.contains c

def isGroupNamePart (c : Char) : Bool :=
  isGroupNameStart c || Unicode.Property.numeric.contains c || c == '.' || c == '[' || c == ']'

/-- A group name up to its closing angle bracket. -/
def readGroupName (cs : List Char) : Option (String × List Char) :=
  match cs.takeWhile (· != '>'), cs.dropWhile (· != '>') with
  | c :: name, _ :: rest =>
    if isGroupNameStart c && name.all isGroupNamePart then some (String.ofList (c :: name), rest)
    else none
  | _, _ => none

inductive GroupHead where
  /-- Flags for what follows in the group around. -/
  | directive (fl : Flags)
  /-- A group that only holds its parts together. -/
  | plain (fl : Flags)
  /-- A group that counts, with its name if it has one. -/
  | counted (name : Option String)

/-- The head of a group, from behind its bracket. -/
def readGroupHead (fl : Flags) (cs : List Char) : Option (GroupHead × List Char) :=
  let named (r : List Char) := (readGroupName r).map fun (n, rest) =>
    (GroupHead.counted (some n), rest)
  match cs with
  | '?' :: 'P' :: '<' :: r => named r
  | '?' :: '<' :: '=' :: _ => none
  | '?' :: '<' :: '!' :: _ => none
  | '?' :: '<' :: r => named r
  | '?' :: r =>
    match readFlags fl true [] r with
    | some (fl', _, ':' :: rest) => some (.plain fl', rest)
    | some (fl', seen, _ :: rest) =>
      if seen.isEmpty then none else some (.directive fl', rest)
    | _ => none
  | _ => some (.counted none, cs)

/-- A part of a sequence, with the depth of nesting in it. -/
structure Item where
  pattern : Pattern
  height : Nat := 0
  repeatable : Bool := true

namespace Item

/-- Join items by `join`; several items are one level of nesting. -/
def joinBy (join : List Pattern → Pattern) : List Item → Item
  | [] => ⟨.empty, 0, true⟩
  | [i] => i
  | is => ⟨join (is.map Item.pattern), (is.map Item.height).foldl max 0 + 1, true⟩

def times (i : Item) (least : Nat) (most : Option Nat) : Item :=
  ⟨i.pattern.repeated least most, i.height + 1, true⟩

end Item

/-- What the reader has in hand inside one group: finished alternatives and the items of the one
that is being read, both latest first, the flags in force and the counted groups so far, also latest
first, as the names that they have. -/
structure GroupState where
  flags : Flags
  groups : List (Option String) := []
  alternatives : List Item := []
  items : List Item := []

namespace GroupState

def push (st : GroupState) (i : Item) : GroupState := { st with items := i :: st.items }

def sequence (st : GroupState) : Item := Item.joinBy concat st.items.reverse

def nextAlternative (st : GroupState) : GroupState :=
  { st with alternatives := st.sequence :: st.alternatives, items := [] }

def close (st : GroupState) : Item := Item.joinBy choice (st.sequence :: st.alternatives).reverse

/-- Repeat the last item. -/
def times? (st : GroupState) (least : Nat) (most : Option Nat) : Option GroupState :=
  match st.items with
  | i :: is => if i.repeatable then some { st with items := i.times least most :: is } else none
  | [] => none

end GroupState

/-- One character, dot, anchor or escape. -/
def readAtom (fl : Flags) : List Char → Option (Item × List Char)
  | '\\' :: r => (readEscape fl r).map fun (a, rest) =>
    let p := match a with
      | .literal c => ofSet (fl.fold (.single c))
      | .set s => ofSet s
      | .look l => .look l
    (⟨p, 0, true⟩, rest)
  | '.' :: r => fl.dot?.map fun s => (⟨ofSet s, 0, true⟩, r)
  | '^' :: r => some (⟨.look fl.lineStart, 0, true⟩, r)
  | '$' :: r => some (⟨.look fl.lineEnd, 0, true⟩, r)
  | c :: r => some (⟨ofSet (fl.fold (.single c)), 0, true⟩, r)
  | [] => none

/-- Read up to the end of the text or of the group. -/
def readGroup : (fuel : Nat) → GroupState → List Char → Option (GroupState × List Char)
  | 0, _, _ => none
  | fuel + 1, st, cs =>
    let times (least : Nat) (most : Option Nat) (r : List Char) :=
      match st.times? least most with
      | some st' => readGroup fuel st' (dropLazy r)
      | none => none
    match st.flags.skip cs with
    | [] => some (st, [])
    | ')' :: r => some (st, ')' :: r)
    | '|' :: r => readGroup fuel st.nextAlternative r
    | '?' :: r => times 0 (some 1) r
    | '*' :: r => times 0 none r
    | '+' :: r => times 1 none r
    | '{' :: r =>
      match readCount st.flags r with
      | some (least, most, rest) => times least most (st.flags.skip rest)
      | none => none
    | '[' :: r =>
      let (negated, inner, r) := openClass st.flags r
      match readClass st.flags (r.length + 1) negated inner r with
      | some (s, h, rest) => readGroup fuel (st.push ⟨ofSet s, h, true⟩) rest
      | none => none
    | '(' :: r =>
      match readGroupHead st.flags (st.flags.skip r) with
      | none => none
      | some (.directive fl, rest) =>
        readGroup fuel { st.push ⟨.empty, 0, false⟩ with flags := fl } rest
      | some (.plain fl, rest) =>
        match readGroup fuel { flags := fl, groups := st.groups } rest with
        | some (inner, ')' :: rest) =>
          let i := inner.close
          readGroup fuel { st.push { i with height := i.height + 1, repeatable := true } with
            groups := inner.groups } rest
        | _ => none
      | some (.counted name, rest) =>
        if name.isSome && st.groups.contains name then none
        else
          match readGroup fuel { flags := st.flags, groups := name :: st.groups } rest with
          | some (inner, ')' :: rest) =>
            let i := inner.close
            readGroup fuel
              { st.push ⟨.group (st.groups.length + 1) i.pattern, i.height + 1, true⟩ with
                groups := inner.groups } rest
          | _ => none
    | cs =>
      match readAtom st.flags cs with
      | some (i, rest) => readGroup fuel (st.push i) rest
      | none => none

/-- How deep groups, classes, repetitions and lists may nest. -/
def nestLimit : Nat := 250

/-- The pattern that a text denotes. -/
def ofString? (s : String) : Option Pattern :=
  let cs := s.toList
  match readGroup (cs.length + 1) { flags := {} } cs with
  | some (st, []) =>
    let i := st.close
    if i.height ≤ nestLimit then some i.pattern else none
  | _ => none

end AccessPolicy.Pattern
