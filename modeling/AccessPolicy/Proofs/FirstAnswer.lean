import Mathlib.Data.Prod.Lex
import Mathlib.Order.Bounds.Basic

/-!
First answers. Nested searches that each stop at their first answer give, together, the answer at
the lexicographically least position, the outermost search counting most.
-/
namespace AccessPolicy

variable {α β κ : Type}

/-- The answer that stands at the least key, or none if nothing stands anywhere. -/
def FirstAnswer [LE κ] (stands : κ → β → Prop) : Option β → Prop
  | none => ∀ k b, ¬ stands k b
  | some b => ∃ k, stands k b ∧ IsLeast {k | ∃ b, stands k b} k

/-- What stands at a key of an element stands at the position of the element and then the key. -/
def Positioned (xs : List α) (stands : α → κ → β → Prop) (k : ℕ ×ₗ κ) (b : β) : Prop :=
  ∃ x, xs[(ofLex k).1]? = some x ∧ stands x (ofLex k).2 b

/-- Whether any element passes is found out by searching for one. -/
theorem ite_any_eq_findSome? (xs : List α) (test : α → Bool) (b : β) :
    (if xs.any test then some b else none) =
      xs.findSome? fun x => if test x then some b else none := by
  induction xs with
  | nil => rfl
  | cons x xs ih =>
    rw [List.findSome?_cons, ← ih, List.any_cons]
    cases test x <;> rfl

theorem findSome?_congr {xs : List α} {f g : α → Option β} (h : ∀ x ∈ xs, f x = g x) :
    xs.findSome? f = xs.findSome? g := by
  induction xs with
  | nil => rfl
  | cons x xs ih =>
    rw [List.findSome?_cons, List.findSome?_cons, h x (by simp), ih fun y hy => h y (by simp [hy])]

namespace FirstAnswer

variable [LE κ] {stands stands' : κ → β → Prop} {answer : Option β}

theorem some_iff {b : β} :
    FirstAnswer stands (some b) ↔
      ∃ k, stands k b ∧ ∀ k' b', stands k' b' → k ≤ k' := by
  constructor
  · rintro ⟨k, hk, -, hmin⟩
    exact ⟨k, hk, fun k' b' h => hmin ⟨b', h⟩⟩
  · rintro ⟨k, hk, hmin⟩
    refine ⟨k, hk, ⟨b, hk⟩, ?_⟩
    rintro k' ⟨b', h⟩
    exact hmin k' b' h

theorem congr (h : ∀ k b, stands k b ↔ stands' k b) (ha : FirstAnswer stands answer) :
    FirstAnswer stands' answer := by
  have he : stands = stands' := by
    funext k b
    exact propext (h k b)
  exact he ▸ ha

/-- A single question that is answered or not. -/
theorem ite (c : Prop) [Decidable c] (b : β) :
    FirstAnswer (fun (i : ℕ) b' => c ∧ i = 0 ∧ b' = b) (if c then some b else none) := by
  by_cases hc : c
  · rw [if_pos hc, some_iff]
    exact ⟨0, ⟨hc, rfl, rfl⟩, fun k _ _ => Nat.zero_le k⟩
  · rw [if_neg hc]
    rintro k b' ⟨h, -⟩
    exact hc h

/-- The first element that passes a test is the one at the least position. -/
theorem find? (xs : List α) (test : α → Bool) (value : α → β) :
    FirstAnswer (fun (i : ℕ) b => ∃ x, xs[i]? = some x ∧ test x = true ∧ value x = b)
      ((xs.find? test).map value) := by
  induction xs with
  | nil => rintro k b ⟨x, hx, -⟩; cases hx
  | cons x xs ih =>
    cases ht : test x with
    | true =>
      rw [List.find?_cons, ht, Option.map_some, some_iff]
      exact ⟨0, ⟨x, rfl, ht, rfl⟩, fun k b _ => Nat.zero_le k⟩
    | false =>
      rw [List.find?_cons, ht]
      cases hr : (xs.find? test).map value with
      | none =>
        rw [hr] at ih
        rintro k b ⟨y, hy, hty, hv⟩
        cases k with
        | zero => cases hy; rw [ht] at hty; cases hty
        | succ k => exact ih k b ⟨y, hy, hty, hv⟩
      | some b =>
        rw [hr, some_iff] at ih
        rw [some_iff]
        obtain ⟨k, hk, hmin⟩ := ih
        refine ⟨k + 1, hk, ?_⟩
        rintro k' b' ⟨y, hy, hty, hv⟩
        cases k' with
        | zero => cases hy; rw [ht] at hty; cases hty
        | succ k' => exact Nat.succ_le_succ (hmin k' b' ⟨y, hy, hty, hv⟩)

end FirstAnswer

/-- If each element is searched for its first answer, and the elements in their order, the position
of the element counts before the key that the answer has there. -/
theorem FirstAnswer.findSome? [Preorder κ] {xs : List α} {stands : α → κ → β → Prop}
    {search : α → Option β} (h : ∀ x ∈ xs, FirstAnswer (stands x) (search x)) :
    FirstAnswer (Positioned xs stands) (xs.findSome? search) := by
  induction xs with
  | nil => rintro k b ⟨x, hx, -⟩; cases hx
  | cons x xs ih =>
    have hx := h x (by simp)
    have ih := ih fun y hy => h y (by simp [hy])
    cases hs : search x with
    | some b =>
      rw [hs, some_iff] at hx
      rw [List.findSome?_cons, hs, some_iff]
      obtain ⟨k, hk, hmin⟩ := hx
      refine ⟨toLex (0, k), ⟨x, rfl, hk⟩, ?_⟩
      rintro k' b' ⟨y, hy, hb⟩
      rw [Prod.Lex.le_iff]
      cases hi : (ofLex k').1 with
      | zero =>
        rw [hi] at hy
        cases hy
        exact .inr ⟨rfl, hmin _ b' hb⟩
      | succ i => exact .inl (Nat.succ_pos i)
    | none =>
      rw [hs] at hx
      rw [List.findSome?_cons, hs]
      -- nothing stands at the first element, so every position moves up by one
      have hsucc : ∀ k b, Positioned (x :: xs) stands k b →
          ∃ i, (ofLex k).1 = i + 1 ∧ Positioned xs stands (toLex (i, (ofLex k).2)) b := by
        rintro k b ⟨y, hy, hb⟩
        cases hi : (ofLex k).1 with
        | zero =>
          rw [hi] at hy
          cases hy
          exact absurd hb (hx _ b)
        | succ i =>
          rw [hi] at hy
          exact ⟨i, rfl, y, hy, hb⟩
      cases hr : xs.findSome? search with
      | none =>
        rw [hr] at ih
        intro k b hk
        obtain ⟨i, -, hp⟩ := hsucc k b hk
        exact ih _ b hp
      | some b =>
        rw [hr, some_iff] at ih
        rw [some_iff]
        obtain ⟨k, ⟨y, hy, hb⟩, hmin⟩ := ih
        refine ⟨toLex ((ofLex k).1 + 1, (ofLex k).2), ⟨y, hy, hb⟩, ?_⟩
        intro k' b' hk'
        obtain ⟨i, hi, hp⟩ := hsucc k' b' hk'
        have hle := Prod.Lex.le_iff.1 (hmin _ b' hp)
        rw [Prod.Lex.le_iff, hi]
        rcases hle with hlt | ⟨heq, hle⟩
        · exact .inl (Nat.succ_lt_succ hlt)
        · exact .inr ⟨congrArg Nat.succ heq, hle⟩

end AccessPolicy
