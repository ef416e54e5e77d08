import Mathlib.Data.List.Forall2

/-!
Traversals that may fail. A list is gone through in order, and the first element that fails is the one
that is reported.
-/
namespace AccessPolicy.Traversal

variable {α β ε : Type} {f : α → Except ε β} {xs : List α} {ys : List β} {e : ε}

theorem mapM_cons_eq (x : α) (xs : List α) :
    (x :: xs).mapM f = match f x with
      | .error e => .error e
      | .ok y => (xs.mapM f).map (y :: ·) := by
  rw [List.mapM_cons]
  cases f x with
  | error e => rfl
  | ok y => cases xs.mapM f <;> rfl

theorem mapM_eq_ok_iff : xs.mapM f = .ok ys ↔ List.Forall₂ (fun x y => f x = .ok y) xs ys := by
  induction xs generalizing ys with
  | nil => simp [pure, Except.pure, eq_comm]
  | cons x xs ih =>
    rw [mapM_cons_eq, List.forall₂_cons_left_iff]
    cases hx : f x with
    | error e => simp
    | ok y =>
      cases hxs : xs.mapM f with
      | error e => simp [Except.map, ← ih, hxs]
      | ok zs => simp [Except.map, ← ih, hxs, eq_comm]

theorem exists_mapM_iff : (∃ ys, xs.mapM f = .ok ys) ↔ ∀ x ∈ xs, ∃ y, f x = .ok y := by
  induction xs with
  | nil => simp [pure, Except.pure]
  | cons x xs ih =>
    rw [mapM_cons_eq, List.forall_mem_cons, ← ih]
    cases f x with
    | error e => simp
    | ok y => cases xs.mapM f <;> simp [Except.map]

/-- The first that fails does so behind others that do not. -/
theorem mapM_eq_error_iff : xs.mapM f = .error e ↔ ∃ before x after, xs = before ++ x :: after ∧
    (∀ b ∈ before, ∃ y, f b = .ok y) ∧ f x = .error e := by
  induction xs with
  | nil => simp [pure, Except.pure]
  | cons x xs ih =>
    rw [mapM_cons_eq]
    cases hx : f x with
    | error e' =>
      constructor
      · intro he
        cases he
        exact ⟨[], x, xs, rfl, by simp, hx⟩
      · rintro ⟨before, z, after, hxs, hb, hz⟩
        cases before with
        | nil =>
          obtain ⟨rfl, -⟩ := List.cons.inj hxs
          rw [hx] at hz
          exact congrArg _ (Except.error.inj hz)
        | cons b before =>
          rw [List.cons_append, List.cons.injEq] at hxs
          obtain ⟨y, hy⟩ := hb b List.mem_cons_self
          rw [← hxs.1, hx] at hy
          cases hy
    | ok y =>
      have hmap : (xs.mapM f).map (y :: ·) = .error e ↔ xs.mapM f = .error e := by
        cases xs.mapM f <;> simp [Except.map]
      rw [hmap, ih]
      constructor
      · rintro ⟨before, z, after, rfl, hb, hz⟩
        exact ⟨x :: before, z, after, rfl, List.forall_mem_cons.2 ⟨⟨y, hx⟩, hb⟩, hz⟩
      · rintro ⟨before, z, after, hxs, hb, hz⟩
        cases before with
        | nil =>
          obtain ⟨rfl, -⟩ := List.cons.inj hxs
          rw [hx] at hz
          cases hz
        | cons b before =>
          rw [List.cons_append, List.cons.injEq] at hxs
          exact ⟨before, z, after, hxs.2, (List.forall_mem_cons.1 hb).2, hz⟩

end AccessPolicy.Traversal
