/-!
Blank characters: the white space around a persisted line, a name or a setting. The class is the
Unicode property White_Space, so a no-break space is blank and a zero-width space is not.
-/
namespace AccessPolicy.Text

/-- The code points of White_Space, as closed ranges. -/
def blankRanges : List (Nat × Nat) :=
  [(0x09, 0x0D), (0x20, 0x20), (0x85, 0x85), (0xA0, 0xA0), (0x1680, 0x1680), (0x2000, 0x200A),
    (0x2028, 0x2029), (0x202F, 0x202F), (0x205F, 0x205F), (0x3000, 0x3000)]

def isBlank (c : Char) : Bool :=
  blankRanges.any fun r => r.1 ≤ c.toNat && c.toNat ≤ r.2

/-- Remove blanks from both ends. -/
def trimChars (cs : List Char) : List Char :=
  ((cs.dropWhile isBlank).reverse.dropWhile isBlank).reverse

def trim (s : String) : String :=
  String.ofList (trimChars s.toList)

/-- Nothing is left of the text once its ends are trimmed. -/
def allBlank (s : String) : Bool :=
  s.toList.all isBlank

@[simp] theorem trimChars_nil : trimChars [] = [] := rfl

/-- The first character is blank. -/
def StartsBlank (s : String) : Prop := s.toList.head?.any isBlank = true

/-- The last character is blank. -/
def EndsBlank (s : String) : Prop := s.toList.getLast?.any isBlank = true

instance (s : String) : Decidable (StartsBlank s) := inferInstanceAs (Decidable (_ = true))
instance (s : String) : Decidable (EndsBlank s) := inferInstanceAs (Decidable (_ = true))

theorem not_startsBlank_iff {s : String} :
    ¬ StartsBlank s ↔ ∀ c, s.toList.head? = some c → isBlank c = false := by
  unfold StartsBlank
  cases s.toList.head? <;> simp

theorem not_endsBlank_iff {s : String} :
    ¬ EndsBlank s ↔ ∀ c, s.toList.getLast? = some c → isBlank c = false := by
  unfold EndsBlank
  cases s.toList.getLast? <;> simp

/-- Neither end is blank. -/
def Trimmed (cs : List Char) : Prop :=
  (∀ c, cs.head? = some c → isBlank c = false) ∧ ∀ c, cs.getLast? = some c → isBlank c = false

theorem dropWhile_of_head {cs : List Char} (h : ∀ c, cs.head? = some c → isBlank c = false) :
    cs.dropWhile isBlank = cs := by
  cases cs with
  | nil => rfl
  | cons c r => simp [h c rfl]

theorem head_dropWhile {cs : List Char} {c : Char} (h : (cs.dropWhile isBlank).head? = some c) :
    isBlank c = false := by
  have hn := cs.head?_dropWhile_not isBlank
  rw [h] at hn
  simpa using hn

theorem trimmed_trimChars (cs : List Char) : Trimmed (trimChars cs) := by
  refine ⟨?_, ?_⟩
  · intro c hc
    -- trimming at the end leaves the first character alone, unless nothing is left
    have hs := (cs.dropWhile isBlank).reverse.dropWhile_suffix isBlank
    rw [← List.reverse_prefix, List.reverse_reverse] at hs
    obtain ⟨r, hr⟩ := hs
    have hd : (cs.dropWhile isBlank).head? = some c := by
      rw [← hr, List.head?_append]
      exact (congrArg (·.or r.head?) hc).trans rfl
    exact head_dropWhile hd
  · intro c hc
    rw [trimChars, List.getLast?_reverse] at hc
    exact head_dropWhile hc

theorem trimChars_eq_self_iff {cs : List Char} : trimChars cs = cs ↔ Trimmed cs := by
  constructor
  · intro h
    exact h ▸ trimmed_trimChars cs
  · rintro ⟨hh, hl⟩
    have hr : ∀ c, cs.reverse.head? = some c → isBlank c = false := by simpa using hl
    rw [trimChars, dropWhile_of_head hh, dropWhile_of_head hr, List.reverse_reverse]

theorem trim_eq_self_iff {s : String} : trim s = s ↔ Trimmed s.toList := by
  rw [← trimChars_eq_self_iff, ← String.toList_inj]
  simp [trim]

@[simp] theorem trim_trim (s : String) : trim (trim s) = trim s := by
  rw [trim_eq_self_iff, trim, String.toList_ofList]
  exact trimmed_trimChars s.toList

end AccessPolicy.Text
