import AccessPolicy.Decimal.Numeral
import Mathlib

/-!
Which texts are numerals. An integer is a row of digits, and another number one that may have a point
in it and an exponent behind it; before either a sign may stand. The readers accept these texts and no
others.
-/
namespace AccessPolicy.Decimal

variable {cs r : List Char} {negative : Bool} {n : Nat} {i x : Int}

/-- A text and what it is behind its sign. -/
inductive Signed : List Char → Bool → List Char → Prop
  | minus (r : List Char) : Signed ('-' :: r) true r
  | plus (r : List Char) : Signed ('+' :: r) false r
  | bare {cs : List Char} (hm : cs.head? ≠ some '-') (hp : cs.head? ≠ some '+') : Signed cs false cs

/-- A row of digits, the most significant first, and its value. -/
structure Numeral (cs : List Char) (n : Nat) : Prop where
  ne_nil : cs ≠ []
  digits : ∀ c ∈ cs, c.isDigit = true
  value : n = Nat.ofDigits 10 (cs.reverse.map fun c => c.toNat - '0'.toNat)

/-- An integer of 64 bits, written with digits alone. -/
inductive IsInteger (cs : List Char) : Int → Prop
  | intro {negative : Bool} {ds : List Char} {n : Nat} (hs : Signed cs negative ds) (hn : Numeral ds n)
      (hl : -2 ^ 63 ≤ Text.signed negative n) (hu : Text.signed negative n < 2 ^ 63) :
      IsInteger cs (Text.signed negative n)

/-- A power of ten behind its mark, or nothing. -/
inductive Exponent : List Char → Int → Prop
  | none : Exponent [] 0
  | some {mark : Char} {r ds : List Char} {negative : Bool} {n : Nat} (hm : mark = 'e' ∨ mark = 'E')
      (hs : Signed r negative ds) (hn : Numeral ds n) : Exponent (mark :: r) (Text.signed negative n)

/-- Digits, with or without a point, and an exponent: the number `n · 10 ^ x`. -/
inductive Fraction : List Char → Nat → Int → Prop
  | whole {front tail : List Char} {n : Nat} {x : Int} (hn : Numeral front n) (hx : Exponent tail x) :
      Fraction (front ++ tail) n x
  | point {front places tail : List Char} {n : Nat} {x : Int} (hn : Numeral (front ++ places) n)
      (hx : Exponent tail x) : Fraction (front ++ '.' :: (places ++ tail)) n (x - places.length)

/-- A number, or one of the words for what is infinite or no number, in letters of any case. -/
inductive IsNumber (cs : List Char) : Binary → Prop
  | infinite {negative : Bool} {r : List Char} (hs : Signed cs negative r)
      (hw : String.ofList (r.map Char.toLower) ∈ infinityWords) : IsNumber cs (.infinite negative)
  | nan {negative : Bool} {r : List Char} (hs : Signed cs negative r)
      (hw : String.ofList (r.map Char.toLower) = "nan") : IsNumber cs .nan
  | fraction {negative : Bool} {r : List Char} {n : Nat} {x : Int} (hs : Signed cs negative r)
      (hd : Fraction r n x) : IsNumber cs (.ofDecimal negative n x)

theorem cutSign_eq_iff : Text.cutSign cs = (negative, r) ↔ Signed cs negative r := by
  constructor
  · intro h
    unfold Text.cutSign at h
    split at h
    · cases h
      exact .minus _
    · cases h
      exact .plus _
    · next hm hp =>
      cases h
      refine .bare ?_ ?_
      · intro hhead
        obtain ⟨t, rfl⟩ := List.head?_eq_some_iff.1 hhead
        exact hm t rfl
      · intro hhead
        obtain ⟨t, rfl⟩ := List.head?_eq_some_iff.1 hhead
        exact hp t rfl
  · rintro (r | r | ⟨hm, hp⟩)
    · rfl
    · rfl
    · unfold Text.cutSign
      split
      · exact absurd rfl hm
      · exact absurd rfl hp
      · rfl

/-- A text has one sign. -/
theorem Signed.unique {negative' : Bool} {r' : List Char} (h : Signed cs negative r)
    (h' : Signed cs negative' r') : negative = negative' ∧ r = r' := by
  rw [← cutSign_eq_iff] at h h'
  exact Prod.mk.inj (h.symm.trans h')

/-- A value carried along the digits from the left is the value of the digits from the right. -/
theorem ofDigits_eq (ds : List Nat) : Text.ofDigits 10 ds = Nat.ofDigits 10 ds.reverse := by
  rw [Nat.ofDigits_eq_foldr, List.foldr_reverse, Text.ofDigits]
  congr 1
  funext n d
  simp only [Nat.cast_id]
  omega

theorem mapM_digitValue?_eq_some_iff {ds : List Nat} : cs.mapM Text.digitValue? = some ds ↔
    (∀ c ∈ cs, c.isDigit = true) ∧ ds = cs.map fun c => c.toNat - '0'.toNat := by
  induction cs generalizing ds with
  | nil => cases ds <;> simp
  | cons c cs ih =>
    rw [List.mapM_cons, Text.digitValue?]
    cases hc : c.isDigit with
    | false => simp [hc]
    | true =>
      simp only [if_true, Option.bind_eq_bind, Option.bind_some, Option.bind_eq_some_iff, ih,
        Option.pure_def, Option.some.injEq, List.forall_mem_cons, hc, true_and, List.map_cons]
      constructor
      · rintro ⟨ds', ⟨hdigits, rfl⟩, rfl⟩
        exact ⟨hdigits, rfl⟩
      · rintro ⟨hdigits, rfl⟩
        exact ⟨_, ⟨hdigits, rfl⟩, rfl⟩

theorem decimal?_eq_some_iff : Text.decimal? cs = some n ↔ Numeral cs n := by
  unfold Text.decimal?
  by_cases hcs : cs = []
  · simp only [hcs, List.isEmpty_nil, if_true, reduceCtorEq, false_iff]
    exact fun h => h.ne_nil rfl
  · rw [if_neg (by simpa using hcs), Option.map_eq_some_iff]
    simp only [mapM_digitValue?_eq_some_iff]
    constructor
    · rintro ⟨ds, ⟨hdigits, rfl⟩, rfl⟩
      exact ⟨hcs, hdigits, by rw [ofDigits_eq, List.map_reverse]⟩
    · intro h
      exact ⟨_, ⟨h.digits, rfl⟩, by rw [ofDigits_eq, ← List.map_reverse, h.value]⟩

theorem fits_iff : Text.fits i = true ↔ -2 ^ 63 ≤ i ∧ i < 2 ^ 63 := by
  rw [Text.fits, Bool.and_eq_true, decide_eq_true_iff, decide_eq_true_iff]
  rfl

/-- What is read as an integer is written as one. -/
theorem integer?_eq_some_iff : integer? cs = some i ↔ IsInteger cs i := by
  obtain ⟨negative, r, hcut⟩ : ∃ negative r, Text.cutSign cs = (negative, r) := ⟨_, _, rfl⟩
  have hs := cutSign_eq_iff.1 hcut
  simp only [integer?, hcut, Option.filter_eq_some_iff, Option.map_eq_some_iff, decimal?_eq_some_iff,
    fits_iff]
  constructor
  · rintro ⟨⟨n, hn, rfl⟩, hl, hu⟩
    exact .intro hs hn hl hu
  · rintro ⟨hs', hn, hl, hu⟩
    obtain ⟨rfl, rfl⟩ := hs.unique hs'
    exact ⟨⟨_, hn, rfl⟩, hl, hu⟩

theorem integer?_eq_none_iff : integer? cs = none ↔ ∀ i, ¬ IsInteger cs i := by
  rw [Option.eq_none_iff_forall_ne_some]
  simp only [ne_eq, integer?_eq_some_iff]

theorem exponent?_eq_some_iff : exponent? cs = some x ↔ Exponent cs x := by
  cases cs with
  | nil =>
    constructor
    · intro h
      cases h
      exact .none
    · rintro ⟨⟩
      rfl
  | cons mark r =>
    obtain ⟨negative, ds, hcut⟩ : ∃ negative ds, Text.cutSign r = (negative, ds) := ⟨_, _, rfl⟩
    have hs := cutSign_eq_iff.1 hcut
    by_cases hm : mark = 'e' ∨ mark = 'E'
    · have hread : exponent? (mark :: r) = (Text.decimal? ds).map (Text.signed negative) := by
        simp [exponent?, hcut, hm]
      rw [hread, Option.map_eq_some_iff]
      simp only [decimal?_eq_some_iff]
      constructor
      · rintro ⟨n, hn, rfl⟩
        exact .some hm hs hn
      · intro h
        cases h with
        | some _ hs' hn =>
          obtain ⟨rfl, rfl⟩ := hs.unique hs'
          exact ⟨_, hn, rfl⟩
    · have hread : exponent? (mark :: r) = none := by simp [exponent?, hm]
      rw [hread]
      constructor
      · nofun
      · intro h
        cases h with
        | some hm' _ _ => exact absurd hm' hm

/-- Digits at the front of a text are cut off from what does not begin with one. -/
theorem cutDigits {front tail : List Char} (hf : ∀ c ∈ front, c.isDigit = true)
    (ht : ∀ c ∈ tail.head?, c.isDigit = false) :
    (front ++ tail).takeWhile Char.isDigit = front ∧
      (front ++ tail).dropWhile Char.isDigit = tail := by
  rw [List.takeWhile_append_of_pos hf, List.dropWhile_append_of_pos hf]
  cases tail with
  | nil => simp
  | cons c r => simp [ht c rfl]

/-- An exponent begins with its mark, which is neither a digit nor a point. -/
theorem Exponent.of_head? (h : Exponent cs x) : ∀ c ∈ cs.head?, c.isDigit = false ∧ c ≠ '.' := by
  intro c hc
  cases h with
  | none => cases hc
  | some hm hs hn =>
    obtain rfl := Option.some.inj hc
    rcases hm with rfl | rfl <;> decide

/-- A fraction begins with a digit or with its point. -/
theorem Fraction.exists_cons (h : Fraction cs n x) :
    ∃ c r, cs = c :: r ∧ (c.isDigit = true ∨ c = '.') := by
  cases h with
  | @whole front _ _ _ hn hx =>
    cases front with
    | nil => exact absurd rfl hn.ne_nil
    | cons c front => exact ⟨c, _, rfl, .inl (hn.digits c List.mem_cons_self)⟩
  | @point front _ _ _ _ hn hx =>
    cases front with
    | nil => exact ⟨'.', _, rfl, .inr rfl⟩
    | cons c front => exact ⟨c, _, rfl, .inl (hn.digits c List.mem_cons_self)⟩

namespace Binary

variable {b : Binary}

theorem ofDigits?_of_point (h : cs.dropWhile Char.isDigit = '.' :: r) :
    ofDigits? negative cs =
      (Text.decimal? (cs.takeWhile Char.isDigit ++ r.takeWhile Char.isDigit)).bind fun n =>
        (exponent? (r.dropWhile Char.isDigit)).map fun x =>
          ofDecimal negative n (x - (r.takeWhile Char.isDigit).length) := by
  simp only [ofDigits?, h]
  cases Text.decimal? (cs.takeWhile Char.isDigit ++ r.takeWhile Char.isDigit) with
  | none => rfl
  | some n => cases exponent? (r.dropWhile Char.isDigit) <;> rfl

theorem ofDigits?_of_no_point (h : (cs.dropWhile Char.isDigit).head? ≠ some '.') :
    ofDigits? negative cs = (Text.decimal? (cs.takeWhile Char.isDigit)).bind fun n =>
      (exponent? (cs.dropWhile Char.isDigit)).map (ofDecimal negative n) := by
  cases hn : Text.decimal? (cs.takeWhile Char.isDigit) with
  | none =>
    cases hr : cs.dropWhile Char.isDigit with
    | nil => simp [ofDigits?, hr, hn]
    | cons c r =>
      have hc : c ≠ '.' := fun hc => h (by rw [hr, hc]; rfl)
      simp [ofDigits?, hr, hc, hn]
  | some n =>
    cases hr : cs.dropWhile Char.isDigit with
    | nil => simp [ofDigits?, hr, hn, exponent?]
    | cons c r =>
      have hc : c ≠ '.' := fun hc => h (by rw [hr, hc]; rfl)
      cases hx : exponent? (c :: r) <;> simp [ofDigits?, hr, hc, hn, hx]

theorem ofDigits?_eq_some_iff :
    ofDigits? negative cs = some b ↔ ∃ n x, Fraction cs n x ∧ b = ofDecimal negative n x := by
  have hcs := List.takeWhile_append_dropWhile (p := Char.isDigit) (l := cs)
  constructor
  · intro h
    by_cases hp : (cs.dropWhile Char.isDigit).head? = some '.'
    · obtain ⟨r, hr⟩ := List.head?_eq_some_iff.1 hp
      rw [ofDigits?_of_point hr] at h
      obtain ⟨n, hn, hb⟩ := Option.bind_eq_some_iff.1 h
      obtain ⟨x, hx, rfl⟩ := Option.map_eq_some_iff.1 hb
      rw [hr, ← List.takeWhile_append_dropWhile (p := Char.isDigit) (l := r)] at hcs
      rw [← hcs]
      exact ⟨n, _, .point (decimal?_eq_some_iff.1 hn) (exponent?_eq_some_iff.1 hx), rfl⟩
    · rw [ofDigits?_of_no_point hp] at h
      obtain ⟨n, hn, hb⟩ := Option.bind_eq_some_iff.1 h
      obtain ⟨x, hx, rfl⟩ := Option.map_eq_some_iff.1 hb
      rw [← hcs]
      exact ⟨n, x, .whole (decimal?_eq_some_iff.1 hn) (exponent?_eq_some_iff.1 hx), rfl⟩
  · rintro ⟨n, x, h, rfl⟩
    cases h with
    | whole hn hx =>
      obtain ⟨htake, hdrop⟩ := cutDigits hn.digits fun c hc => (hx.of_head? c hc).1
      have hp := fun hc => (hx.of_head? '.' hc).2 rfl
      rw [← hdrop] at hp
      rw [ofDigits?_of_no_point hp, htake, hdrop, decimal?_eq_some_iff.2 hn,
        exponent?_eq_some_iff.2 hx]
      rfl
    | @point front places tail n x hn hx =>
      obtain ⟨hf, hpl⟩ := List.forall_mem_append.1 hn.digits
      have hpoint : ∀ c ∈ ('.' :: (places ++ tail)).head?, c.isDigit = false := by simp
      obtain ⟨htake, hdrop⟩ := cutDigits hf hpoint
      obtain ⟨htake', hdrop'⟩ := cutDigits hpl fun c hc => (hx.of_head? c hc).1
      rw [ofDigits?_of_point hdrop, htake, htake', hdrop', decimal?_eq_some_iff.2 hn,
        exponent?_eq_some_iff.2 hx]
      rfl

theorem toLower_of_isDigit {c : Char} (h : c.isDigit = true) : c.toLower = c := by
  refine Char.toLower_eq_of_not_isUpper ?_
  grind [Char.isDigit, Char.isUpper]

/-- No word stands for a fraction. -/
theorem word_notMem_of_fraction (h : Fraction r n x) :
    String.ofList (r.map Char.toLower) ∉ infinityWords ++ ["nan"] := by
  obtain ⟨c, t, rfl, hc⟩ := h.exists_cons
  have hlower : c.toLower = c := by
    rcases hc with hc | rfl
    · exact toLower_of_isDigit hc
    · rfl
  intro hm
  have hhead : c = 'i' ∨ c = 'n' := by
    simp only [infinityWords, List.cons_append, List.nil_append, List.mem_cons, List.not_mem_nil,
      or_false, ← String.toList_inj, String.toList_ofList, List.map_cons, hlower] at hm
    rcases hm with he | he | he
    · exact .inl (List.cons.inj he).1
    · exact .inl (List.cons.inj he).1
    · exact .inr (List.cons.inj he).1
  rcases hhead with rfl | rfl
  · revert hc
    decide
  · revert hc
    decide

/-- What is read as a number is written as one. -/
theorem ofText?_eq_some_iff : ofText? cs = some b ↔ IsNumber cs b := by
  obtain ⟨negative, r, hcut⟩ : ∃ negative r, Text.cutSign cs = (negative, r) := ⟨_, _, rfl⟩
  have hs := cutSign_eq_iff.1 hcut
  simp only [ofText?, hcut, List.contains_iff_mem, beq_iff_eq]
  constructor
  · intro h
    by_cases hi : String.ofList (r.map Char.toLower) ∈ infinityWords
    · rw [if_pos hi] at h
      cases h
      exact .infinite hs hi
    · rw [if_neg hi] at h
      by_cases hn : String.ofList (r.map Char.toLower) = "nan"
      · rw [if_pos hn] at h
        cases h
        exact .nan hs hn
      · rw [if_neg hn] at h
        obtain ⟨n, x, hd, rfl⟩ := ofDigits?_eq_some_iff.1 h
        exact .fraction hs hd
  · intro h
    cases h with
    | infinite hs' hw =>
      obtain ⟨rfl, rfl⟩ := hs.unique hs'
      rw [if_pos hw]
    | nan hs' hw =>
      obtain ⟨rfl, rfl⟩ := hs.unique hs'
      rw [hw]
      rfl
    | fraction hs' hd =>
      obtain ⟨rfl, rfl⟩ := hs.unique hs'
      have hword := word_notMem_of_fraction hd
      rw [List.mem_append, not_or, List.mem_singleton] at hword
      rw [if_neg hword.1, if_neg hword.2, ofDigits?_eq_some_iff.2 ⟨_, _, hd, rfl⟩]

theorem ofText?_eq_none_iff : ofText? cs = none ↔ ∀ b, ¬ IsNumber cs b := by
  rw [Option.eq_none_iff_forall_ne_some]
  simp only [ne_eq, ofText?_eq_some_iff]

end Binary

end AccessPolicy.Decimal
