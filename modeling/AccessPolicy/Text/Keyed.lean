import AccessPolicy.Text.Ascending

/-!
Listings by key: lists in strictly ascending order of a text that each element carries. Such a list
stands for a finite map, and after a change it answers as the changed map does.
-/
namespace AccessPolicy.Keyed

variable {key : α → String} {k : String} {change : Option α → α} {x : α} {xs ys : List α}

def Sorted (key : α → String) (xs : List α) : Prop := Ascending Text.before (xs.map key)

/-- The element with the key `k`. -/
def find? (key : α → String) (k : String) (xs : List α) : Option α := xs.find? fun x => key x == k

/-- Put in its place what `change` makes of the element with the key `k`, or of there being none. -/
def alter (key : α → String) (k : String) (change : Option α → α) : List α → List α
  | [] => [change none]
  | x :: xs =>
    if Text.before k (key x) then change none :: x :: xs
    else if Text.before (key x) k then x :: alter key k change xs
    else change (some x) :: xs

/-- The change leaves the key `k` in place. -/
structure Keeps (key : α → String) (k : String) (change : Option α → α) : Prop where
  none : key (change none) = k
  some : ∀ x, key x = k → key (change (some x)) = k

/-- Put an element in its place, where it replaces one of the same key. -/
def put (key : α → String) (x : α) (xs : List α) : List α := alter key (key x) (fun _ => x) xs

theorem sorted_nil : Sorted key [] := List.Pairwise.nil

theorem sorted_cons :
    Sorted key (x :: xs) ↔ (∀ y ∈ xs, Text.before (key x) (key y) = true) ∧ Sorted key xs := by
  simp [Sorted, Ascending]

@[simp] theorem find?_nil : find? key k [] = none := rfl

theorem find?_cons : find? key k (x :: xs) = if key x = k then some x else find? key k xs := by
  by_cases h : key x = k <;> simp [find?, h]

theorem mem_of_find? (h : find? key k xs = some x) : x ∈ xs ∧ key x = k :=
  ⟨List.mem_of_find?_eq_some h, by simpa using List.find?_some h⟩

/-- Nothing is found under a key that comes before all others. -/
theorem find?_of_before (h : ∀ y ∈ xs, Text.before k (key y) = true) : find? key k xs = none := by
  rw [find?, List.find?_eq_none]
  intro y hy he
  exact Text.ne_of_before (h y hy) (beq_iff_eq.1 he).symm

theorem find?_of_mem (h : Sorted key xs) (hx : x ∈ xs) : find? key (key x) xs = some x := by
  induction xs with
  | nil => cases hx
  | cons y ys ih =>
    obtain ⟨hy, hys⟩ := sorted_cons.1 h
    rcases List.mem_cons.1 hx with rfl | hx
    · simp [find?_cons]
    · rw [find?_cons, if_neg (Text.ne_of_before (hy x hx))]
      exact ih hys hx

/-- The keys change as a set does when a key is added. -/
theorem map_alter (hk : Keeps key k change) :
    (alter key k change xs).map key = Ascending.insert Text.before k (xs.map key) := by
  induction xs with
  | nil => simp [alter, hk.none]
  | cons x xs ih =>
    simp only [alter, List.map_cons, Ascending.insert]
    by_cases h₁ : Text.before k (key x) = true
    · simp [h₁, hk.none]
    · by_cases h₂ : Text.before (key x) k = true
      · simp [h₁, h₂, ih]
      · have he : k = key x :=
          Text.before_strictTotal.connected _ _ (by simpa using h₁) (by simpa using h₂)
        simp [hk.some x he.symm, he]

theorem sorted_alter (h : Sorted key xs) (hk : Keeps key k change) :
    Sorted key (alter key k change xs) := by
  rw [Sorted, map_alter hk]
  exact Ascending.ascending_insert Text.before_strictTotal k h

/-- A change is seen under its key and under no other. -/
theorem find?_alter (h : Sorted key xs) (hk : Keeps key k change) (j : String) :
    find? key j (alter key k change xs) =
      if j = k then some (change (find? key k xs)) else find? key j xs := by
  induction xs with
  | nil => simp [alter, find?_cons, hk.none, eq_comm]
  | cons x xs ih =>
    obtain ⟨hx, hxs⟩ := sorted_cons.1 h
    unfold alter
    by_cases h₁ : Text.before k (key x) = true
    · have hall : ∀ y ∈ x :: xs, Text.before k (key y) = true := by
        intro y hy
        rcases List.mem_cons.1 hy with rfl | hy
        · exact h₁
        · exact Text.before_strictTotal.trans _ _ _ h₁ (hx y hy)
      rw [if_pos h₁, find?_cons, hk.none, find?_of_before hall]
      simp only [eq_comm]
    · rw [if_neg h₁]
      by_cases h₂ : Text.before (key x) k = true
      · have hne : key x ≠ k := Text.ne_of_before h₂
        rw [if_pos h₂, find?_cons, ih hxs, find?_cons, find?_cons, if_neg hne]
        by_cases hj : j = k
        · simp [hj, hne]
        · simp [hj]
      · have he : key x = k :=
          (Text.before_strictTotal.connected _ _ (by simpa using h₁) (by simpa using h₂)).symm
        rw [if_neg h₂, find?_cons, hk.some x he, find?_cons, find?_cons, he, if_pos rfl]
        by_cases hj : j = k
        · simp [hj]
        · simp [hj, Ne.symm hj]

/-- Two changes under one key are one change. -/
theorem alter_alter {again : Option α → α} (hk : Keeps key k change) :
    alter key k again (alter key k change xs) =
      alter key k (fun o => again (some (change o))) xs := by
  induction xs with
  | nil => simp [alter, hk.none]
  | cons x xs ih =>
    by_cases h₁ : Text.before k (key x) = true
    · simp [alter, h₁, hk.none]
    · by_cases h₂ : Text.before (key x) k = true
      · simp [alter, h₁, h₂, ih]
      · have he : k = key x :=
          Text.before_strictTotal.connected _ _ (by simpa using h₁) (by simpa using h₂)
        simp [alter, h₁, h₂, hk.some x he.symm]

/-- To leave an element as it is changes nothing. -/
theorem alter_of_find? (h : Sorted key xs) (hx : find? key k xs = some x)
    (hc : change (some x) = x) : alter key k change xs = xs := by
  induction xs with
  | nil => simp at hx
  | cons y ys ih =>
    obtain ⟨hy, hys⟩ := sorted_cons.1 h
    rw [find?_cons] at hx
    by_cases he : key y = k
    · rw [if_pos he, Option.some.injEq] at hx
      subst hx
      simp [alter, he, hc]
    · rw [if_neg he] at hx
      have hb : Text.before (key y) k = true := by
        obtain ⟨hm, hk⟩ := mem_of_find? hx
        exact hk ▸ hy x hm
      simp [alter, hb, Text.before_asymm hb, ih hys hx]

theorem keeps_put (x : α) : Keeps key (key x) fun _ => x := ⟨rfl, fun _ _ => rfl⟩

theorem sorted_put (h : Sorted key xs) : Sorted key (put key x xs) :=
  sorted_alter h (keeps_put x)

theorem find?_put (h : Sorted key xs) (j : String) :
    find? key j (put key x xs) = if j = key x then some x else find? key j xs :=
  find?_alter h (keeps_put x) j

/-- An element whose key comes after all others is put at the end. -/
theorem put_of_after (h : ∀ y ∈ xs, Text.before (key y) (key x) = true) :
    put key x xs = xs ++ [x] := by
  induction xs with
  | nil => rfl
  | cons y ys ih =>
    have hy := h y (by simp)
    have hn : Text.before (key x) (key y) = false := Text.before_asymm hy
    have ht := ih fun z hz => h z (by simp [hz])
    unfold put at ht ⊢
    simp [alter, hn, hy, ht]

/-- Putting the elements of a sorted list one by one lists them as they are. -/
theorem foldl_put_of_sorted (h : Sorted key (ys ++ xs)) :
    xs.foldl (fun acc x => put key x acc) ys = ys ++ xs := by
  induction xs generalizing ys with
  | nil => simp
  | cons x xs ih =>
    have hp : ∀ y ∈ ys, Text.before (key y) (key x) = true := by
      intro y hy
      have hs := h
      simp only [Sorted, Ascending, List.map_append, List.pairwise_append] at hs
      exact hs.2.2 _ (List.mem_map.2 ⟨y, hy, rfl⟩) _ (by simp)
    rw [List.foldl_cons, put_of_after hp, ih (by simpa using h)]
    simp

end AccessPolicy.Keyed
