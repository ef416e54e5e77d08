/-!
Sets of characters. A set is held by the code points where membership changes, so every operation
on sets is one walk along two ascending lists, and `contains_combine` says what it computes.
-/
namespace AccessPolicy

structure CharSet where
  /-- The first code points of the stretches that are in the set and, between them, of those that
  are not. -/
  changes : List Nat
  ascending : changes.Pairwise (· < ·)
  deriving DecidableEq, Repr

namespace CharSet

/-- Whether `n` is in the set, for one who stands before every change of it. -/
def holds (inside : Bool) : List Nat → Nat → Bool
  | [], _ => inside
  | x :: xs, n => if n < x then inside else holds (!inside) xs n

def contains (s : CharSet) (c : Char) : Bool := holds false s.changes c.toNat

/-- Note a change at `x` if the value changes there. -/
def noteChange (old new : Bool) (x : Nat) (rest : List Nat) : List Nat :=
  if old = new then rest else x :: rest

/-- Walk along the second list up to `x`, the next change of the first. -/
def combineAt (op : Bool → Bool → Bool) (x : Nat) (rest : Bool → Bool → List Nat → List Nat) :
    Bool → Bool → List Nat → List Nat
  | a, b, [] => noteChange (op a b) (op (!a) b) x (rest (!a) b [])
  | a, b, y :: ys =>
    if x < y then noteChange (op a b) (op (!a) b) x (rest (!a) b (y :: ys))
    else if y < x then noteChange (op a b) (op a (!b)) y (combineAt op x rest a (!b) ys)
    else noteChange (op a b) (op (!a) (!b)) x (rest (!a) (!b) ys)

/-- The changes of `op` applied to two sets, which begin as `a` and `b`. -/
def combineLists (op : Bool → Bool → Bool) : List Nat → Bool → Bool → List Nat → List Nat
  | [], a, b, ys => if op a b = op a (!b) then [] else ys
  | x :: xs, a, b, ys => combineAt op x (combineLists op xs) a b ys

section

variable {op : Bool → Bool → Bool} {x y : Nat} {rest : Bool → Bool → List Nat → List Nat} {a b : Bool}
  {ys : List Nat}

theorem combineAt_of_lt (h : x < y) : combineAt op x rest a b (y :: ys) =
    noteChange (op a b) (op (!a) b) x (rest (!a) b (y :: ys)) := if_pos h

theorem combineAt_of_gt (h : y < x) : combineAt op x rest a b (y :: ys) =
    noteChange (op a b) (op a (!b)) y (combineAt op x rest a (!b) ys) := by
  rw [combineAt, if_neg (Nat.lt_asymm h), if_pos h]

theorem combineAt_self : combineAt op x rest a b (x :: ys) =
    noteChange (op a b) (op (!a) (!b)) x (rest (!a) (!b) ys) := by
  simp [combineAt]

end

theorem mem_noteChange {old new : Bool} {x z : Nat} {rest : List Nat}
    (h : z ∈ noteChange old new x rest) : z = x ∨ z ∈ rest := by
  unfold noteChange at h
  split at h
  · exact .inr h
  · simpa using h

theorem mem_combineAt {op : Bool → Bool → Bool} {x z : Nat}
    {rest : Bool → Bool → List Nat → List Nat} {P : Nat → Prop} (hx : P x)
    (hrest : ∀ a b ys, (∀ y ∈ ys, P y) → ∀ z ∈ rest a b ys, P z) (a b : Bool) (ys : List Nat)
    (hys : ∀ y ∈ ys, P y) (hz : z ∈ combineAt op x rest a b ys) : P z := by
  induction ys generalizing a b with
  | nil =>
    rcases mem_noteChange hz with rfl | h
    · exact hx
    · exact hrest _ _ _ (by simp) _ h
  | cons y ys ih =>
    simp only [List.mem_cons, forall_eq_or_imp] at hys
    rcases Nat.lt_trichotomy x y with hlt | rfl | hgt
    · rw [combineAt_of_lt hlt] at hz
      rcases mem_noteChange hz with rfl | h
      · exact hx
      · exact hrest _ _ _ (by simpa using hys) _ h
    · rw [combineAt_self] at hz
      rcases mem_noteChange hz with rfl | h
      · exact hx
      · exact hrest _ _ _ hys.2 _ h
    · rw [combineAt_of_gt hgt] at hz
      rcases mem_noteChange hz with rfl | h
      · exact hys.1
      · exact ih _ _ hys.2 h

/-- What holds of every change of both sets holds of the changes of their combination. -/
theorem mem_combineLists {op : Bool → Bool → Bool} {P : Nat → Prop} (xs : List Nat) (a b : Bool)
    (ys : List Nat) (hxs : ∀ x ∈ xs, P x) (hys : ∀ y ∈ ys, P y) :
    ∀ z ∈ combineLists op xs a b ys, P z := by
  induction xs generalizing a b ys with
  | nil =>
    intro z hz
    unfold combineLists at hz
    split at hz
    · simp at hz
    · exact hys z hz
  | cons x xs ih =>
    simp only [List.mem_cons, forall_eq_or_imp] at hxs
    intro z hz
    exact mem_combineAt hxs.1 (fun a b ys h => ih a b ys hxs.2 h) a b ys hys hz

theorem pairwise_noteChange {old new : Bool} {x : Nat} {rest : List Nat}
    (hrest : rest.Pairwise (· < ·)) (hx : ∀ z ∈ rest, x < z) :
    (noteChange old new x rest).Pairwise (· < ·) := by
  unfold noteChange
  split
  · exact hrest
  · exact List.pairwise_cons.2 ⟨hx, hrest⟩

theorem pairwise_combineAt {op : Bool → Bool → Bool} {x : Nat} {xs : List Nat}
    (hx : ∀ z ∈ xs, x < z)
    (ih : ∀ a b ys, ys.Pairwise (· < ·) → (combineLists op xs a b ys).Pairwise (· < ·))
    (a b : Bool) (ys : List Nat) (hys : ys.Pairwise (· < ·)) :
    (combineAt op x (combineLists op xs) a b ys).Pairwise (· < ·) := by
  have above (P : Nat → Prop) (h : ∀ z ∈ xs, P z) (a b : Bool) (ys : List Nat)
      (hys : ∀ y ∈ ys, P y) : ∀ z ∈ combineLists op xs a b ys, P z :=
    mem_combineLists xs a b ys h hys
  induction ys generalizing a b with
  | nil => exact pairwise_noteChange (ih _ _ _ .nil) (above _ hx _ _ _ (by simp))
  | cons y ys ihy =>
    obtain ⟨hy, hys'⟩ := List.pairwise_cons.1 hys
    rcases Nat.lt_trichotomy x y with hlt | rfl | hgt
    · rw [combineAt_of_lt hlt]
      refine pairwise_noteChange (ih _ _ _ hys) (above _ hx _ _ _ ?_)
      simp only [List.mem_cons, forall_eq_or_imp]
      exact ⟨hlt, fun z hz => Nat.lt_trans hlt (hy z hz)⟩
    · rw [combineAt_self]
      exact pairwise_noteChange (ih _ _ _ hys') (above _ hx _ _ _ hy)
    · rw [combineAt_of_gt hgt]
      refine pairwise_noteChange (ihy _ _ hys') fun z hz => ?_
      exact mem_combineAt (P := (y < ·)) hgt
        (fun a b ys h => above _ (fun z hz => Nat.lt_trans hgt (hx z hz)) a b ys h) _ _ ys hy hz

theorem pairwise_combineLists {op : Bool → Bool → Bool} (xs : List Nat) (a b : Bool)
    (ys : List Nat) (hxs : xs.Pairwise (· < ·)) (hys : ys.Pairwise (· < ·)) :
    (combineLists op xs a b ys).Pairwise (· < ·) := by
  induction xs generalizing a b ys with
  | nil =>
    unfold combineLists
    split
    · exact .nil
    · exact hys
  | cons x xs ih =>
    obtain ⟨hx, hxs'⟩ := List.pairwise_cons.1 hxs
    exact pairwise_combineAt hx (fun a b ys h => ih a b ys hxs' h) a b ys hys

/-- The set of what `op` accepts, given whether it is in `s` and whether it is in `t`. -/
def combine (op : Bool → Bool → Bool) (s t : CharSet) : CharSet :=
  ⟨combineLists op s.changes false false t.changes,
    pairwise_combineLists _ _ _ _ s.ascending t.ascending⟩

theorem holds_of_lt {b : Bool} {xs : List Nat} {n : Nat} (h : ∀ x ∈ xs, n < x) :
    holds b xs n = b := by
  cases xs with
  | nil => rfl
  | cons x xs => simp [holds, h x (by simp)]

theorem holds_map_not {f : Bool → Bool} (hf : ∀ b, f (!b) = !f b) (b : Bool) (xs : List Nat)
    (n : Nat) : holds (f b) xs n = f (holds b xs n) := by
  induction xs generalizing b with
  | nil => rfl
  | cons x xs ih => by_cases h : n < x <;> simp [holds, h, ← hf, ih]

theorem holds_noteChange {old new : Bool} {x n : Nat} {rest : List Nat} (hx : ∀ z ∈ rest, x < z) :
    holds old (noteChange old new x rest) n = if n < x then old else holds new rest n := by
  by_cases h : old = new
  · subst h
    simp only [noteChange, ite_true]
    by_cases hn : n < x
    · rw [if_pos hn]
      exact holds_of_lt fun z hz => Nat.lt_trans hn (hx z hz)
    · rw [if_neg hn]
  · obtain rfl : new = !old := by cases old <;> cases new <;> simp_all
    simp [noteChange, holds]

theorem holds_combineAt {op : Bool → Bool → Bool} {x n : Nat} {xs : List Nat}
    (hx : ∀ z ∈ xs, x < z)
    (ih : ∀ a b ys, ys.Pairwise (· < ·) →
      holds (op a b) (combineLists op xs a b ys) n = op (holds a xs n) (holds b ys n))
    (a b : Bool) (ys : List Nat) (hys : ys.Pairwise (· < ·)) :
    holds (op a b) (combineAt op x (combineLists op xs) a b ys) n
      = op (holds a (x :: xs) n) (holds b ys n) := by
  have above (P : Nat → Prop) (h : ∀ z ∈ xs, P z) (a b : Bool) (ys : List Nat)
      (hys : ∀ y ∈ ys, P y) : ∀ z ∈ combineLists op xs a b ys, P z :=
    mem_combineLists xs a b ys h hys
  induction ys generalizing a b with
  | nil =>
    rw [combineAt, holds_noteChange (above _ hx _ _ _ (by simp)), ih _ _ _ .nil]
    by_cases h : n < x <;> simp [holds, h]
  | cons y ys ihy =>
    obtain ⟨hy, hys'⟩ := List.pairwise_cons.1 hys
    rcases Nat.lt_trichotomy x y with hlt | rfl | hgt
    · have hall : ∀ z ∈ y :: ys, x < z := by
        simp only [List.mem_cons, forall_eq_or_imp]
        exact ⟨hlt, fun z hz => Nat.lt_trans hlt (hy z hz)⟩
      rw [combineAt_of_lt hlt, holds_noteChange (above _ hx _ _ _ hall), ih _ _ _ hys]
      by_cases h : n < x
      · simp [holds, h, Nat.lt_trans h hlt]
      · simp [holds, h]
    · rw [combineAt_self, holds_noteChange (above _ hx _ _ _ hy), ih _ _ _ hys']
      by_cases h : n < x <;> simp [holds, h]
    · rw [combineAt_of_gt hgt, holds_noteChange fun z hz => mem_combineAt (P := (y < ·)) hgt
        (fun a b ys h => above _ (fun z hz => Nat.lt_trans hgt (hx z hz)) a b ys h) _ _ ys hy hz,
        ihy _ _ hys']
      by_cases h : n < y
      · simp [holds, h, Nat.lt_trans h hgt]
      · simp [holds, h]

theorem holds_combineLists {op : Bool → Bool → Bool} (xs : List Nat) (a b : Bool) (ys : List Nat)
    (n : Nat) (hxs : xs.Pairwise (· < ·)) (hys : ys.Pairwise (· < ·)) :
    holds (op a b) (combineLists op xs a b ys) n = op (holds a xs n) (holds b ys n) := by
  induction xs generalizing a b ys with
  | nil =>
    rw [combineLists]
    by_cases h : op a b = op a (!b)
    · rw [if_pos h]
      cases hb : holds b ys n <;> cases b <;> simp_all [holds]
    · rw [if_neg h]
      refine holds_map_not (f := op a) (fun c => ?_) b ys n
      cases b <;> cases c <;> cases h0 : op a false <;> cases h1 : op a true <;> simp_all
  | cons x xs ih =>
    obtain ⟨hx, hxs'⟩ := List.pairwise_cons.1 hxs
    exact holds_combineAt hx (fun a b ys h => ih a b ys hxs' h) a b ys hys

theorem contains_combine {op : Bool → Bool → Bool} (h : op false false = false) (s t : CharSet)
    (c : Char) : (combine op s t).contains c = op (s.contains c) (t.contains c) := by
  have : holds (op false false) (combine op s t).changes c.toNat = _ :=
    holds_combineLists s.changes false false t.changes c.toNat s.ascending t.ascending
  rwa [h] at this

def nothing : CharSet := ⟨[], .nil⟩

/-- Every character. -/
def any : CharSet := ⟨[0, 0x110000], by simp⟩

theorem ascending_codes {lo hi : Nat} (h : lo ≤ hi) : [lo, hi + 1].Pairwise (· < ·) := by
  have hlt : lo < hi + 1 := Nat.lt_succ_of_le h
  simpa using hlt

/-- The characters from `lo` to `hi`, given as code points. -/
def codes (lo hi : Nat) : CharSet :=
  if h : lo ≤ hi then ⟨[lo, hi + 1], ascending_codes h⟩ else nothing

def range (lo hi : Char) : CharSet := codes lo.toNat hi.toNat

def single (c : Char) : CharSet := range c c

def union (s t : CharSet) : CharSet := combine (· || ·) s t

def inter (s t : CharSet) : CharSet := combine (· && ·) s t

def diff (s t : CharSet) : CharSet := combine (fun a b => a && !b) s t

/-- What is in one set alone. -/
def exclusive (s t : CharSet) : CharSet := combine (· != ·) s t

def compl (s : CharSet) : CharSet := diff any s

/-- The union of many sets. -/
def unions (ss : List CharSet) : CharSet := ss.foldr union nothing

/-- The union of closed ranges of code points. -/
def ofCodes (rs : List (Nat × Nat)) : CharSet := unions (rs.map fun r => codes r.1 r.2)

/-- The union of closed ranges of characters. -/
def ranges (rs : List (Char × Char)) : CharSet := unions (rs.map fun r => range r.1 r.2)

/-- The closed ranges between ascending changes. -/
def pairs : List Nat → List (Nat × Nat)
  | lo :: next :: r => (lo, next - 1) :: pairs r
  | _ => []

/-- The closed ranges of code points that make up a set, ascending and as few as possible. -/
def toCodes (s : CharSet) : List (Nat × Nat) := pairs s.changes

/-- The only character of a set, if there is just one. -/
def only? (s : CharSet) : Option Char :=
  match s.toCodes with
  | [(lo, hi)] => if lo = hi then some (Char.ofNat lo) else none
  | _ => none

/-- Whether no character beyond ASCII is in a set. -/
def isAscii (s : CharSet) : Bool := s.changes.all (· ≤ 128)

def isEmpty (s : CharSet) : Bool := s.changes.isEmpty

@[simp] theorem contains_nothing (c : Char) : nothing.contains c = false := rfl

@[simp] theorem contains_any (c : Char) : any.contains c = true := by
  have h : c.toNat < 0x110000 := by
    rcases c.valid with h | h
    · exact Nat.lt_trans h (by decide)
    · exact h.2
  simp [contains, any, holds, h]

@[simp] theorem contains_union (s t : CharSet) (c : Char) :
    (union s t).contains c = (s.contains c || t.contains c) := contains_combine rfl s t c

@[simp] theorem contains_inter (s t : CharSet) (c : Char) :
    (inter s t).contains c = (s.contains c && t.contains c) := contains_combine rfl s t c

@[simp] theorem contains_diff (s t : CharSet) (c : Char) :
    (diff s t).contains c = (s.contains c && !t.contains c) := contains_combine rfl s t c

@[simp] theorem contains_exclusive (s t : CharSet) (c : Char) :
    (exclusive s t).contains c = (s.contains c != t.contains c) := contains_combine rfl s t c

@[simp] theorem contains_compl (s : CharSet) (c : Char) :
    s.compl.contains c = !s.contains c := by simp [compl]

@[simp] theorem contains_unions (ss : List CharSet) (c : Char) :
    (unions ss).contains c = ss.any fun s => s.contains c := by
  induction ss with
  | nil => rfl
  | cons s ss ih => rw [List.any_cons, ← ih]; exact contains_union _ _ c

theorem contains_codes (lo hi : Nat) (c : Char) :
    (codes lo hi).contains c = (decide (lo ≤ c.toNat) && decide (c.toNat ≤ hi)) := by
  unfold codes
  split
  · simp only [contains, holds]
    split
    · simp; omega
    · split <;> simp <;> omega
  · simp [Bool.eq_false_iff]
    omega

@[simp] theorem contains_single (c d : Char) : (single c).contains d = decide (d = c) := by
  rw [single, range, contains_codes, Bool.and_eq_decide, decide_eq_decide]
  simp only [decide_eq_true_eq]
  constructor
  · intro h
    exact Char.toNat_inj.1 (Nat.le_antisymm h.2 h.1)
  · rintro rfl
    simp

end CharSet

end AccessPolicy
