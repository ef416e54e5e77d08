/-!
Cutting a text in two at the first or the last occurrence of a separator. The two theorems say
which pieces are possible: the separator is missing from the piece on the side of the cut.
-/
namespace AccessPolicy.Text

def cutFirst (sep : Char) : List Char → Option (List Char × List Char)
  | [] => none
  | c :: r => if c = sep then some ([], r) else (cutFirst sep r).map fun (a, b) => (c :: a, b)

def cutLast (sep : Char) : List Char → Option (List Char × List Char)
  | [] => none
  | c :: r =>
    match cutLast sep r with
    | some (a, b) => some (c :: a, b)
    | none => if c = sep then some ([], r) else none

theorem cutFirst_eq_some_iff {sep : Char} {cs a b : List Char} :
    cutFirst sep cs = some (a, b) ↔ cs = a ++ sep :: b ∧ sep ∉ a := by
  induction cs generalizing a b with
  | nil => simp [cutFirst]
  | cons c r ih =>
    by_cases h : c = sep
    · subst h
      cases a with
      | nil => simp [cutFirst]
      | cons x a => simp [cutFirst]; intro hx; simp [hx]
    · cases a with
      | nil => simp [cutFirst, h]
      | cons x a =>
        simp only [cutFirst, h, if_false, Option.map_eq_some_iff, Prod.exists, Prod.mk.injEq,
          List.cons.injEq, List.cons_append, List.mem_cons, not_or]
        constructor
        · rintro ⟨u, v, huv, ⟨rfl, rfl⟩, rfl⟩
          have := ih.1 huv
          exact ⟨⟨rfl, this.1⟩, fun e => h e.symm, this.2⟩
        · rintro ⟨⟨rfl, hr⟩, _, ha⟩
          exact ⟨a, b, ih.2 ⟨hr, ha⟩, ⟨rfl, rfl⟩, rfl⟩

theorem cutLast_eq_none_iff {sep : Char} {cs : List Char} :
    cutLast sep cs = none ↔ sep ∉ cs := by
  induction cs with
  | nil => simp [cutLast]
  | cons c r ih =>
    by_cases hr : sep ∈ r
    · cases hc : cutLast sep r with
      | none => exact absurd hr (ih.1 hc)
      | some p => simp [cutLast, hc, hr]
    · by_cases h : c = sep <;> simp [cutLast, ih.2 hr, h, hr, eq_comm]
      exact fun e => absurd e.symm h

theorem cutLast_eq_some_iff {sep : Char} {cs a b : List Char} :
    cutLast sep cs = some (a, b) ↔ cs = a ++ sep :: b ∧ sep ∉ b := by
  induction cs generalizing a b with
  | nil => simp [cutLast]
  | cons c r ih =>
    cases hc : cutLast sep r with
    | none =>
      have hr : sep ∉ r := cutLast_eq_none_iff.1 hc
      by_cases h : c = sep
      · subst h
        cases a with
        | nil => simp [cutLast, hc]; rintro rfl; exact hr
        | cons x a => simp [cutLast, hc]; rintro rfl rfl; simp at hr
      · cases a with
        | nil => simp [cutLast, hc, h]
        | cons x a => simp [cutLast, hc, h]; rintro rfl rfl; simp at hr
    | some p =>
      obtain ⟨u, v⟩ := p
      have huv := ih.1 hc
      cases a with
      | nil =>
        simp only [cutLast, hc, List.nil_append, Option.some.injEq, Prod.mk.injEq,
          reduceCtorEq, false_and, List.cons.injEq, false_iff, not_and]
        rintro ⟨_, rfl⟩ hb
        rw [huv.1] at hb
        simp at hb
      | cons x a =>
        rw [show cutLast sep (c :: r) = some (c :: u, v) by simp [cutLast, hc]]
        simp only [Option.some.injEq, Prod.mk.injEq, List.cons.injEq, List.cons_append]
        constructor
        · rintro ⟨⟨rfl, rfl⟩, rfl⟩
          exact ⟨⟨rfl, huv.1⟩, huv.2⟩
        · rintro ⟨⟨rfl, hr⟩, hb⟩
          have := ih.2 ⟨hr, hb⟩
          rw [hc] at this
          simp_all

/-- The text before and after the first separator. -/
def cutAtFirst (sep : Char) (s : String) : Option (String × String) :=
  (cutFirst sep s.toList).map fun (a, b) => (String.ofList a, String.ofList b)

/-- The text before and after the last separator. -/
def cutAtLast (sep : Char) (s : String) : Option (String × String) :=
  (cutLast sep s.toList).map fun (a, b) => (String.ofList a, String.ofList b)

theorem cutAtFirst_eq_some_iff {sep : Char} {s a b : String} :
    cutAtFirst sep s = some (a, b) ↔ s.toList = a.toList ++ sep :: b.toList ∧ sep ∉ a.toList := by
  rw [cutAtFirst, Option.map_eq_some_iff, ← cutFirst_eq_some_iff]
  constructor
  · rintro ⟨⟨u, v⟩, h, he⟩
    cases he
    simpa using h
  · exact fun h => ⟨_, h, by simp⟩

theorem cutAtLast_eq_some_iff {sep : Char} {s a b : String} :
    cutAtLast sep s = some (a, b) ↔ s.toList = a.toList ++ sep :: b.toList ∧ sep ∉ b.toList := by
  rw [cutAtLast, Option.map_eq_some_iff, ← cutLast_eq_some_iff]
  constructor
  · rintro ⟨⟨u, v⟩, h, he⟩
    cases he
    simpa using h
  · exact fun h => ⟨_, h, by simp⟩

end AccessPolicy.Text
