import AccessPolicy.Data.Json
import AccessPolicy.Text.Digit
import Mathlib.Data.List.Forall2

/-!
What a JSON text says. The text is cut into tokens, and the tokens are read onto a stack of the brackets
that are open. Numbers are not read, nor are characters that are written as two halves. The text that is
written for a value without numbers says that very value.
-/
namespace AccessPolicy.Json

inductive Token where
  | openArray
  | closeArray
  | openTable
  | closeTable
  | comma
  | colon
  /-- A value that is written as one word. -/
  | word (v : Value)
  | text (s : String)

def mark? : Char → Option Token
  | '[' => some .openArray
  | ']' => some .closeArray
  | '{' => some .openTable
  | '}' => some .closeTable
  | ',' => some .comma
  | ':' => some .colon
  | _ => none

def isSpace (c : Char) : Bool := c == ' ' || c == '\n' || c == '\r' || c == '\t'

/-- What a letter or a sign stands for behind a backslash. -/
def escaped? : Char → Option Char
  | '"' => some '"'
  | '\\' => some '\\'
  | '/' => some '/'
  | 'b' => some '\x08'
  | 'f' => some '\x0c'
  | 'n' => some '\n'
  | 'r' => some '\r'
  | 't' => some '\t'
  | _ => none

/-- The character whose code point has these hexadecimal digits. -/
def coded? (digits : List Char) : Option Char :=
  (digits.mapM Text.hexValue?).bind fun ds => Text.charOf? (Text.ofDigits 16 ds)

/-- Cut a text into tokens. Inside quotes, `quoted` is what was read behind the opening one, from the
last character back. -/
def tokens? : (quoted : Option (List Char)) → List Char → Option (List Token)
  | none, [] => some []
  | none, '"' :: r => tokens? (some []) r
  | none, 't' :: 'r' :: 'u' :: 'e' :: r => (tokens? none r).map (.word (.bool true) :: ·)
  | none, 'f' :: 'a' :: 'l' :: 's' :: 'e' :: r =>
    (tokens? none r).map (.word (.bool false) :: ·)
  | none, 'n' :: 'u' :: 'l' :: 'l' :: r => (tokens? none r).map (.word .null :: ·)
  | none, c :: r =>
    if isSpace c then tokens? none r
    else (mark? c).bind fun t => (tokens? none r).map (t :: ·)
  | some _, [] => none
  | some cs, '"' :: r => (tokens? none r).map (.text (String.ofList cs.reverse) :: ·)
  | some cs, '\\' :: 'u' :: a :: b :: c :: d :: r =>
    (coded? [a, b, c, d]).bind fun x => tokens? (some (x :: cs)) r
  | some cs, '\\' :: c :: r => (escaped? c).bind fun x => tokens? (some (x :: cs)) r
  | some cs, c :: r => if c.toNat < 0x20 then none else tokens? (some (c :: cs)) r

/-- An open bracket, with what was read behind it. -/
inductive Frame where
  | array (vs : List Value)
  /-- The last key still waits for its value. -/
  | table (es : List (String × Value)) (key : String)

/-- Read tokens onto the open brackets, innermost first. `v` is the value that was read last, if it
still has to be put into its bracket. -/
def build? : List Frame → (v : Option Value) → List Token → Option Value
  | st, none, .word v :: ts => build? st (some v) ts
  | st, none, .text s :: ts => build? st (some (.text s)) ts
  | st, none, .openArray :: .closeArray :: ts => build? st (some (.array [])) ts
  | st, none, .openArray :: ts => build? (.array [] :: st) none ts
  | st, none, .openTable :: .closeTable :: ts => build? st (some (.table [])) ts
  | st, none, .openTable :: .text key :: .colon :: ts => build? (.table [] key :: st) none ts
  | [], some v, [] => some v
  | .array vs :: st, some v, .comma :: ts => build? (.array (vs ++ [v]) :: st) none ts
  | .array vs :: st, some v, .closeArray :: ts => build? st (some (.array (vs ++ [v]))) ts
  | .table es key :: st, some v, .comma :: .text next :: .colon :: ts =>
    build? (.table (es ++ [(key, v)]) next :: st) none ts
  | .table es key :: st, some v, .closeTable :: ts =>
    build? st (some (.table (es ++ [(key, v)]))) ts
  | _, _, _ => none

/-- The value that a text says. -/
def read? (s : String) : Option Value := (tokens? none s.toList).bind (build? [] none)

variable {c : Char} {cs r : List Char} {s t : String} {ts us : List Token} {v : Value}

theorem coded?_of_lt (h : c.toNat < 0x20) :
    coded? ['0', '0', Nat.digitChar (c.toNat / 16), Nat.digitChar (c.toNat % 16)] = some c := by
  have hall : ∀ n < 0x20, coded? ['0', '0', Nat.digitChar (n / 16), Nat.digitChar (n % 16)] =
      some (Char.ofNat n) := by decide
  rw [hall c.toNat h, Char.ofNat_toNat]

/-- A character is written so that it is read as itself. -/
theorem tokens?_jsonChar (cs : List Char) (c : Char) (r : List Char) :
    tokens? (some cs) (Value.jsonChar c ++ r) = tokens? (some (c :: cs)) r := by
  unfold Value.jsonChar
  by_cases hsign : c ∈ ['"', '\\', '\n', '\r', '\t', '\x08', '\x0c']
  · simp only [List.mem_cons, List.not_mem_nil, or_false] at hsign
    rcases hsign with rfl | rfl | rfl | rfl | rfl | rfl | rfl <;> rfl
  · simp only [List.mem_cons, List.not_mem_nil, or_false, not_or] at hsign
    by_cases hcode : c.toNat < 0x20
    · simp [hsign, hcode, Value.jsonCode, tokens?, coded?_of_lt]
    · simp [hsign, hcode, tokens?]

theorem tokens?_flatMap_jsonChar (cs w r : List Char) :
    tokens? (some cs) (w.flatMap Value.jsonChar ++ '"' :: r) =
      (tokens? none r).map (.text (String.ofList (cs.reverse ++ w)) :: ·) := by
  induction w generalizing cs with
  | nil => simp [tokens?]
  | cons c w ih =>
    rw [List.flatMap_cons, List.append_assoc, tokens?_jsonChar, ih, List.reverse_cons,
      List.append_assoc, List.singleton_append]

/-- The text, whatever follows it, is cut into these tokens. -/
def Lexes (s : String) (ts : List Token) : Prop :=
  ∀ r, tokens? none (s.toList ++ r) = (tokens? none r).map (ts ++ ·)

theorem Lexes.append (h : Lexes s ts) (h' : Lexes t us) : Lexes (s ++ t) (ts ++ us) := by
  intro r
  rw [String.toList_append, List.append_assoc, h, h', Option.map_map]
  congr 1
  funext
  simp

theorem lexes_jsonText (s : String) : Lexes (Value.jsonText s) [.text s] := by
  intro r
  have htoList : (Value.jsonText s).toList ++ r =
      '"' :: (s.toList.flatMap Value.jsonChar ++ '"' :: r) := by
    simp [Value.jsonText]
  rw [htoList, tokens?, tokens?_flatMap_jsonChar]
  simp

theorem lexes_boolText (b : Bool) : Lexes (Value.boolText b) [.word (.bool b)] := by
  cases b <;> exact fun _ => rfl

theorem lexes_margin (level : Nat) : Lexes (Value.margin level) [] := by
  have hspaces : ∀ n r, tokens? none (List.replicate n ' ' ++ r) = tokens? none r := by
    intro n r
    induction n with
    | zero => rfl
    | succ n ih => exact ih
  intro r
  simpa [Value.margin, tokens?, isSpace] using hspaces (2 * level) r

theorem lexes_intercalate {parts : List String} {tss : List (List Token)}
    (h : List.Forall₂ Lexes parts tss) :
    Lexes (",".intercalate parts) ([Token.comma].intercalate tss) := by
  have hcomma : Lexes "," [.comma] := fun _ => rfl
  induction h with
  | nil =>
    intro r
    simp
  | cons hs hrest ih =>
    cases hrest with
    | nil => simpa using hs
    | cons hs' hrest' =>
      rw [String.intercalate_cons_cons, List.intercalate_cons_cons]
      exact (hs.append hcomma).append ih

/-- Parts between brackets, each of which is cut into tokens of its own. -/
theorem lexes_enclose (level : Nat) {opening closing : String} {first last : Token}
    (hopen : Lexes opening [first]) (hclose : Lexes closing [last]) {parts : List String}
    {tss : List (List Token)} (h : List.Forall₂ Lexes parts tss) :
    Lexes (Value.enclose level opening closing parts)
      ([first] ++ [Token.comma].intercalate tss ++ [last]) := by
  unfold Value.enclose
  cases h with
  | nil => exact hopen.append hclose
  | cons hs hrest =>
    have hlines := lexes_intercalate (List.forall₂_map_left_iff.2
      ((List.Forall₂.cons hs hrest).imp fun _ _ hpart => (lexes_margin (level + 1)).append hpart))
    have hclosing : Lexes (Value.margin level ++ closing) [last] := (lexes_margin level).append hclose
    rw [if_neg (by simp), String.append_assoc]
    exact (hopen.append hlines).append hclosing

mutual

/-- The tokens of a value. -/
def tokens : Value → List Token
  | .array vs => [.openArray] ++ [Token.comma].intercalate (memberTokens vs) ++ [.closeArray]
  | .table es => [.openTable] ++ [Token.comma].intercalate (entryTokens es) ++ [.closeTable]
  | .text s => [.text s]
  | v => [.word v]

def memberTokens : List Value → List (List Token)
  | [] => []
  | v :: vs => tokens v :: memberTokens vs

def entryTokens : List (String × Value) → List (List Token)
  | [] => []
  | (key, v) :: es => (.text key :: .colon :: tokens v) :: entryTokens es

end

mutual

/-- No number is in a value. -/
def Numberless : Value → Prop
  | .integer _ => False
  | .float _ => False
  | .array vs => MembersNumberless vs
  | .table es => EntriesNumberless es
  | _ => True

def MembersNumberless : List Value → Prop
  | [] => True
  | v :: vs => Numberless v ∧ MembersNumberless vs

def EntriesNumberless : List (String × Value) → Prop
  | [] => True
  | (_, v) :: es => Numberless v ∧ EntriesNumberless es

end

mutual

theorem lexes_json (level : Nat) : (v : Value) → Numberless v → Lexes (v.json level) (tokens v)
  | .null, _ => by
    rw [Value.json, tokens] <;> first | exact fun _ => rfl | nofun
  | .bool b, _ => by
    rw [Value.json, tokens] <;> first | exact lexes_boolText b | nofun
  | .text s, _ => by
    rw [Value.json, tokens]
    exact lexes_jsonText s
  | .array vs, h => by
    rw [Value.json, tokens]
    rw [Numberless] at h
    exact lexes_enclose level (fun _ => rfl) (fun _ => rfl) (lexes_jsonMembers (level + 1) vs h)
  | .table es, h => by
    rw [Value.json, tokens]
    rw [Numberless] at h
    exact lexes_enclose level (fun _ => rfl) (fun _ => rfl) (lexes_jsonEntries (level + 1) es h)
  | .integer _, h => by simp [Numberless] at h
  | .float _, h => by simp [Numberless] at h

theorem lexes_jsonMembers (level : Nat) : (vs : List Value) → MembersNumberless vs →
    List.Forall₂ Lexes (Value.jsonMembers level vs) (memberTokens vs)
  | [], _ => by
    rw [Value.jsonMembers, memberTokens]
    exact .nil
  | v :: vs, h => by
    rw [MembersNumberless] at h
    rw [Value.jsonMembers, memberTokens]
    exact .cons (lexes_json level v h.1) (lexes_jsonMembers level vs h.2)

theorem lexes_jsonEntries (level : Nat) : (es : List (String × Value)) → EntriesNumberless es →
    List.Forall₂ Lexes (Value.jsonEntries level es) (entryTokens es)
  | [], _ => by
    rw [Value.jsonEntries, entryTokens]
    exact .nil
  | (key, v) :: es, h => by
    rw [EntriesNumberless] at h
    rw [Value.jsonEntries, entryTokens]
    have hcolon : Lexes ": " [.colon] := fun _ => rfl
    have hentry := ((lexes_jsonText key).append hcolon).append (lexes_json level v h.1)
    exact .cons hentry (lexes_jsonEntries level es h.2)

end

theorem build?_openArray {st : List Frame} (h : ∀ us, ts ≠ .closeArray :: us) :
    build? st none (.openArray :: ts) = build? (.array [] :: st) none ts := by
  rw [build?]
  exact h

theorem tokens_append_ne (v : Value) (ts us : List Token) : tokens v ++ ts ≠ .closeArray :: us := by
  cases v <;> simp [tokens]

mutual

/-- The tokens of a value are read as that value, whichever brackets are open. -/
theorem build?_tokens : (v : Value) → (st : List Frame) → (ts : List Token) →
    build? st none (tokens v ++ ts) = build? st (some v) ts
  | .array [], st, ts => by simp [tokens, memberTokens, build?]
  | .array (v :: vs), st, ts => by
    have hmembers := build?_members (v :: vs) (List.cons_ne_nil v vs) st [] ts
    have hfirst : ∀ us, [Token.comma].intercalate (memberTokens (v :: vs)) ++ .closeArray :: ts ≠
        .closeArray :: us := by
      intro us
      cases vs with
      | nil => simpa [memberTokens] using tokens_append_ne v _ us
      | cons w vs => simpa [memberTokens, List.intercalate_cons_cons] using tokens_append_ne v _ us
    rw [tokens, List.append_assoc, List.append_assoc, List.singleton_append, List.singleton_append,
      build?_openArray hfirst, hmembers, List.nil_append]
  | .table [], st, ts => by simp [tokens, entryTokens, build?]
  | .table (e :: es), st, ts => by
    have hentries := build?_entries (e :: es) (List.cons_ne_nil e es) st [] ts
      (fun us => build? st none (.openTable :: us)) fun key us => by rw [build?]
    rw [tokens, List.append_assoc, List.append_assoc, List.singleton_append, List.singleton_append,
      hentries, List.nil_append]
  | .text s, st, ts => by simp [tokens, build?]
  | .null, st, ts => by simp [tokens, build?]
  | .bool b, st, ts => by simp [tokens, build?]
  | .integer i, st, ts => by simp [tokens, build?]
  | .float x, st, ts => by simp [tokens, build?]

theorem build?_members : (vs : List Value) → vs ≠ [] → (st : List Frame) → (done : List Value) →
    (ts : List Token) →
    build? (.array done :: st) none
        ([Token.comma].intercalate (memberTokens vs) ++ .closeArray :: ts) =
      build? st (some (.array (done ++ vs))) ts
  | [v], _, st, done, ts => by simp [memberTokens, build?_tokens v, build?]
  | v :: w :: vs, _, st, done, ts => by
    have hrest := build?_members (w :: vs) (List.cons_ne_nil w vs) st (done ++ [v]) ts
    rw [memberTokens] at hrest
    rw [memberTokens, memberTokens, List.intercalate_cons_cons]
    simp [build?_tokens v, build?, hrest]

/-- A key is met behind the bracket or behind a comma; `start` reads on from there. -/
theorem build?_entries : (es : List (String × Value)) → es ≠ [] → (st : List Frame) →
    (done : List (String × Value)) → (ts : List Token) → (start : List Token → Option Value) →
    (∀ key us, start (.text key :: .colon :: us) = build? (.table done key :: st) none us) →
    start ([Token.comma].intercalate (entryTokens es) ++ .closeTable :: ts) =
      build? st (some (.table (done ++ es))) ts
  | [(key, v)], _, st, done, ts, start, hstart => by
    simp [entryTokens, hstart, build?_tokens v, build?]
  | (key, v) :: e :: es, _, st, done, ts, start, hstart => by
    have hrest := build?_entries (e :: es) (List.cons_ne_nil e es) st (done ++ [(key, v)]) ts
      (fun us => build? (.table done key :: st) (some v) (.comma :: us)) fun next us => by rw [build?]
    rw [List.append_assoc, List.singleton_append] at hrest
    obtain ⟨next, w⟩ := e
    rw [entryTokens] at hrest
    rw [← hrest, entryTokens, entryTokens, List.intercalate_cons_cons]
    simp only [List.cons_append, List.append_assoc, List.nil_append, hstart, build?_tokens v]

end

end AccessPolicy.Json
