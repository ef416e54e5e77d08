/-!
Strictly ascending lists: the listing of a finite set in a fixed order. Inserting keeps a list
ascending and adds one member, so two listings of one set are the same list.
-/
namespace AccessPolicy

/-- What a comparison must satisfy for its ascending lists to stand for sets. -/
structure StrictTotal (before : α → α → Bool) : Prop where
  irrefl : ∀ x, before x x = false
  trans : ∀ x y z, before x y = true → before y z = true → before x z = true
  connected : ∀ x y, before x y = false → before y x = false → x = y

/-- Every member comes before all that follow it. -/
def Ascending (before : α → α → Bool) (xs : List α) : Prop :=
  xs.Pairwise fun x y => before x y = true

namespace Ascending

/-- Put `x` in its place, unless it is there already. -/
def insert (before : α → α → Bool) (x : α) : List α → List α
  | [] => [x]
  | y :: r =>
    if before x y then x :: y :: r
    else if before y x then y :: insert before x r
    else y :: r

def ofList (before : α → α → Bool) (xs : List α) : List α :=
  xs.foldr (insert before) []

@[simp] theorem insert_nil (before : α → α → Bool) (x : α) : insert before x [] = [x] := rfl

theorem mem_insert {before : α → α → Bool} (h : StrictTotal before) {x z : α} {xs : List α} :
    z ∈ insert before x xs ↔ z = x ∨ z ∈ xs := by
  induction xs with
  | nil => simp
  | cons y r ih =>
    unfold insert
    split
    · simp
    · split
      · simp only [List.mem_cons, ih]; grind
      · have : x = y := h.connected x y (by simp_all) (by simp_all)
        simp only [List.mem_cons, this]; grind

theorem mem_ofList {before : α → α → Bool} (h : StrictTotal before) {z : α} {xs : List α} :
    z ∈ ofList before xs ↔ z ∈ xs := by
  induction xs with
  | nil => simp [ofList]
  | cons x r ih =>
    have ih' : z ∈ r.foldr (insert before) [] ↔ z ∈ r := ih
    simp [ofList, mem_insert h, ih']

theorem ascending_insert {before : α → α → Bool} (h : StrictTotal before) (x : α) {xs : List α}
    (hxs : Ascending before xs) : Ascending before (insert before x xs) := by
  induction xs with
  | nil => simp [Ascending]
  | cons y r ih =>
    have hy := List.pairwise_cons.1 hxs
    unfold insert
    split
    · next hxy =>
      refine List.pairwise_cons.2 ⟨?_, hxs⟩
      intro z hz
      rcases List.mem_cons.1 hz with rfl | hz
      · exact hxy
      · exact h.trans _ _ _ hxy (hy.1 z hz)
    · split
      · next hyx =>
        refine List.pairwise_cons.2 ⟨?_, ih hy.2⟩
        intro z hz
        rcases (mem_insert h).1 hz with rfl | hz
        · exact hyx
        · exact hy.1 z hz
      · exact hxs

theorem ascending_ofList {before : α → α → Bool} (h : StrictTotal before) (xs : List α) :
    Ascending before (ofList before xs) := by
  induction xs with
  | nil => exact List.Pairwise.nil
  | cons x r ih => exact ascending_insert h x ih

theorem nodup {before : α → α → Bool} (h : StrictTotal before) {xs : List α}
    (hxs : Ascending before xs) : xs.Nodup := by
  refine List.Pairwise.imp ?_ hxs
  rintro x y hxy rfl
  simp [h.irrefl] at hxy

/-- If nothing comes twice, nothing is dropped. -/
theorem perm_ofList {before : α → α → Bool} (h : StrictTotal before) {xs : List α}
    (hxs : xs.Nodup) : (ofList before xs).Perm xs := by
  rw [List.perm_ext_iff_of_nodup (nodup h (ascending_ofList h xs)) hxs]
  intro x
  exact mem_ofList h

/-- An ascending list is determined by its members. -/
theorem eq_of_mem_iff {before : α → α → Bool} (h : StrictTotal before) {xs ys : List α}
    (hx : Ascending before xs) (hy : Ascending before ys) (hm : ∀ z, z ∈ xs ↔ z ∈ ys) :
    xs = ys := by
  induction xs generalizing ys with
  | nil =>
    cases ys with
    | nil => rfl
    | cons y r => exact absurd ((hm y).2 (by simp)) (by simp)
  | cons x r ih =>
    cases ys with
    | nil => exact absurd ((hm x).1 (by simp)) (by simp)
    | cons y s =>
      have hx' := List.pairwise_cons.1 hx
      have hy' := List.pairwise_cons.1 hy
      have hxy : x = y := by
        rcases List.mem_cons.1 ((hm x).1 (by simp)) with e | hxs
        · exact e
        · rcases List.mem_cons.1 ((hm y).2 (by simp)) with e | hyr
          · exact e.symm
          · have := h.trans _ _ _ (hx'.1 y hyr) (hy'.1 x hxs)
            simp [h.irrefl] at this
      subst hxy
      have hxs : x ∉ s := fun hs => by simpa [h.irrefl] using hy'.1 x hs
      have hxr : x ∉ r := fun hr => by simpa [h.irrefl] using hx'.1 x hr
      rw [ih hx'.2 hy'.2 fun z => ?_]
      have := hm z
      simp only [List.mem_cons] at this
      constructor
      · intro hz
        rcases this.1 (.inr hz) with rfl | h'
        · exact absurd hz hxr
        · exact h'
      · intro hz
        rcases this.2 (.inr hz) with rfl | h'
        · exact absurd hz hxs
        · exact h'

end Ascending

namespace Text

/-- Texts are ordered by code point, which is also the order of their UTF-8 bytes. -/
def before (a b : String) : Bool :=
  decide (a < b)

theorem before_strictTotal : StrictTotal before where
  irrefl x := decide_eq_false (String.lt_irrefl x)
  trans x y z := by simpa [before] using String.lt_trans
  connected x y := by
    simp only [before, decide_eq_false_iff_not, String.not_lt]
    exact fun hyx hxy => String.le_antisymm hxy hyx

@[simp] theorem before_self (s : String) : before s s = false := before_strictTotal.irrefl s

theorem ne_of_before {a b : String} (h : before a b = true) : a ≠ b := by
  intro he
  simp [he] at h

theorem before_asymm {a b : String} (h : before a b = true) : before b a = false := by
  rw [Bool.eq_false_iff]
  intro hc
  exact ne_of_before (before_strictTotal.trans a b a h hc) rfl

/-- The members of `xs` in ascending order, each once. -/
def ascending (xs : List String) : List String :=
  Ascending.ofList before xs

@[simp] theorem mem_ascending {s : String} {xs : List String} : s ∈ ascending xs ↔ s ∈ xs :=
  Ascending.mem_ofList before_strictTotal

end Text

end AccessPolicy
