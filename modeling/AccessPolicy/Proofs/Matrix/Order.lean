import AccessPolicy.Proofs.Matrix.Listing
import Mathlib.Data.List.Pairwise
import Mathlib.Data.List.Perm.Basic

/-!
The order of the persisted lines. Lines are sorted as whole texts, in which a colon ends the id. So
the lines of one permission are in the order of their tokens, and those of two permissions in the
order of the ids, but for one case: an id that goes on where another one ends, with a character that
comes before the colon, is listed before it.
-/
namespace AccessPolicy

variable {c : Catalog} {m : Matrix} {g h : Grant}

namespace Text

variable {sep x y : Char} {as bs ss ts : List Char}

/-- The second text goes on where the first one ends, with a character that comes before the
separator. -/
def RunsOn (sep : Char) (as bs : List Char) : Prop := ∃ x rest, bs = as ++ x :: rest ∧ x < sep

theorem not_runsOn_nil : ¬ RunsOn sep as [] := by
  rintro ⟨x, rest, hb, -⟩
  simp at hb

theorem nil_runsOn_cons : RunsOn sep [] (y :: bs) ↔ y < sep := by
  simp [RunsOn]

theorem cons_runsOn_cons : RunsOn sep (x :: as) (y :: bs) ↔ x = y ∧ RunsOn sep as bs := by
  constructor
  · rintro ⟨z, rest, hb, hz⟩
    obtain ⟨rfl, rfl⟩ := List.cons.inj hb
    exact ⟨rfl, z, rest, rfl, hz⟩
  · rintro ⟨rfl, z, rest, rfl, hz⟩
    exact ⟨z, rest, rfl, hz⟩

theorem RunsOn.lt (h : RunsOn sep as bs) : as < bs := by
  obtain ⟨x, rest, rfl, -⟩ := h
  have hlt : as ++ [] < as ++ x :: rest := List.append_left_lt (List.nil_lt_cons x rest)
  rwa [List.append_nil] at hlt

/-- Texts that go on after a separator compare as their first parts do, unless one of these runs on
where the other one is already cut off. -/
theorem append_sep_lt_iff (ha : sep ∉ as) (hb : sep ∉ bs) :
    as ++ sep :: ss < bs ++ sep :: ts ↔
      RunsOn sep bs as ∨ (as < bs ∨ as = bs ∧ ss < ts) ∧ ¬ RunsOn sep as bs := by
  induction as generalizing bs with
  | nil =>
    cases bs with
    | nil => simp [not_runsOn_nil]
    | cons y bs =>
      have hne : sep ≠ y := fun he => hb (he ▸ List.mem_cons_self)
      have hlt : sep < y ↔ ¬ y < sep := by
        refine ⟨Char.lt_asymm, fun hn => ?_⟩
        by_contra hlt
        exact hne (Char.le_antisymm (Char.not_lt.1 hn) (Char.not_lt.1 hlt))
      simp [not_runsOn_nil, nil_runsOn_cons, List.cons_lt_cons_iff, hne, hlt]
  | cons x as ih =>
    obtain ⟨hx, ha⟩ := not_or.1 (mt List.mem_cons.2 ha)
    cases bs with
    | nil => simp [not_runsOn_nil, nil_runsOn_cons, List.cons_lt_cons_iff, Ne.symm hx]
    | cons y bs =>
      obtain ⟨-, hb⟩ := not_or.1 (mt List.mem_cons.2 hb)
      rw [List.cons_append, List.cons_append, List.cons_lt_cons_iff, List.cons_lt_cons_iff,
        cons_runsOn_cons, cons_runsOn_cons, ih ha hb]
      by_cases he : x = y
      · subst he
        simp
      · simp [he, Ne.symm he]

end Text

namespace Grant

/-- By permission id first and by token second, in the order of the bytes. -/
def Precedes (g h : Grant) : Prop :=
  Text.bytes g.permission < Text.bytes h.permission ∨
    g.permission = h.permission ∧ Text.bytes g.sid < Text.bytes h.sid

/-- The id of the second grant goes on where that of the first one ends, with a character that comes
before the colon: a blank, a digit, a dot or some other mark. -/
def RunsOn (g h : Grant) : Prop := Text.RunsOn ':' g.permission.toList h.permission.toList

theorem RunsOn.bytes_lt (hr : g.RunsOn h) : Text.bytes g.permission < Text.bytes h.permission :=
  Text.bytes_lt_iff.2 hr.lt

theorem not_runsOn_of_eq (he : g.permission = h.permission) : ¬ g.RunsOn h := by
  intro hr
  exact List.lt_irrefl _ (he ▸ hr.bytes_lt)

theorem RunsOn.not_precedes (hr : g.RunsOn h) : ¬ h.Precedes g := by
  rintro (hlt | ⟨he, -⟩)
  · exact List.lt_asymm hlt hr.bytes_lt
  · exact not_runsOn_of_eq he.symm hr

theorem RunsOn.asymm (hr : g.RunsOn h) : ¬ h.RunsOn g :=
  fun hr' => List.lt_asymm hr.bytes_lt hr'.bytes_lt

/-- Which of two lines comes first. -/
def PrintedBefore (g h : Grant) : Prop := h.RunsOn g ∨ g.Precedes h ∧ ¬ g.RunsOn h

theorem bytes_line_lt_iff (hg : ':' ∉ g.permission.toList) (hh : ':' ∉ h.permission.toList) :
    Text.bytes g.line < Text.bytes h.line ↔ g.PrintedBefore h := by
  rw [Text.bytes_lt_iff, toList_line, toList_line, Text.append_sep_lt_iff hg hh, PrintedBefore,
    Precedes, Text.bytes_lt_iff, Text.bytes_lt_iff, String.toList_inj]
  rfl

/-- Among the tokens of one permission there is no exception. -/
theorem PrintedBefore.sid_lt (hp : g.PrintedBefore h) (he : g.permission = h.permission) :
    Text.bytes g.sid < Text.bytes h.sid := by
  rcases hp with hr | ⟨hlt | ⟨-, hs⟩, -⟩
  · exact absurd hr (not_runsOn_of_eq he.symm)
  · exact absurd hlt (he ▸ List.lt_irrefl _)
  · exact hs

end Grant

/-- Of two members of an ordered list one comes before the other. -/
theorem rel_or_rel_of_pairwise {α : Type} {r : α → α → Prop} {xs : List α} {x y : α}
    (hp : xs.Pairwise r) (hx : x ∈ xs) (hy : y ∈ xs) (hne : x ≠ y) : r x y ∨ r y x := by
  have : Std.Symm fun x y => r x y ∨ r y x := ⟨fun _ _ => Or.symm⟩
  have hsym : xs.Pairwise fun x y => r x y ∨ r y x := hp.imp Or.inl
  exact hsym.forall hx hy hne

namespace Matrix

/-- The lines are those of the grants, in some order. -/
theorem exists_toLines_eq_map (h : c.WellFormed) (hm : m.Over c) :
    ∃ gs : List Grant, m.toLines = gs.map Grant.line ∧ gs.Perm m.grants := by
  have hp := perm_toLines h hm
  have hcomp := congrFun₂ (List.eq_map_comp_perm Grant.line) m.toLines m.grants
  exact hcomp.mpr hp

/-- The order of the lines is that of the ids and tokens unless there is an id that runs on. -/
theorem pairwise_precedes_iff {gs : List Grant} (hp : gs.Pairwise Grant.PrintedBefore) :
    gs.Pairwise Grant.Precedes ↔ ∀ g ∈ gs, ∀ h ∈ gs, ¬ g.RunsOn h := by
  constructor
  · intro hs g hg h hh hr
    have hne : g ≠ h := fun he => Grant.not_runsOn_of_eq (congrArg Grant.permission he) hr
    -- one of the two stands before the other, which one of the two orders does not admit
    rcases rel_or_rel_of_pairwise (hs.and hp) hg hh hne with ⟨-, hr' | ⟨-, hn⟩⟩ | ⟨hlt, -⟩
    · exact hr.asymm hr'
    · exact hn hr
    · exact hr.not_precedes hlt
  · intro hn
    refine hp.imp_of_mem ?_
    rintro g h hg hh (hr | ⟨hlt, -⟩)
    · exact absurd hr (hn h hh g hg)
    · exact hlt

/-- Every grant has one line in the listing. The lines of one permission are in the order of their
tokens. All lines are in the order of the ids first and of the tokens second if and only if no id in
the matrix runs on where another one ends; one that does is listed before it. -/
theorem toLines_order (hc : c.Reachable) (hm : m.Over c) :
    ∃ gs : List Grant, m.toLines = gs.map Grant.line ∧ gs.Perm m.grants ∧ gs.Nodup ∧
      (gs.Pairwise fun g h => g.permission = h.permission → Text.bytes g.sid < Text.bytes h.sid) ∧
      gs.Pairwise Grant.PrintedBefore ∧
      (gs.Pairwise Grant.Precedes ↔ ∀ g ∈ m.grants, ∀ h ∈ m.grants, ¬ g.RunsOn h) := by
  have h := hc.wellFormed
  obtain ⟨gs, hlines, hperm⟩ := exists_toLines_eq_map h hm
  have hcolon := hm.colon_notMem h
  have hnodup := hperm.nodup_iff.2 (Ascending.nodup Grant.before_strictTotal m.ascending)
  have hprinted : gs.Pairwise Grant.PrintedBefore := by
    have hs := m.pairwise_toLines
    rw [hlines, List.pairwise_map] at hs
    refine hs.imp_of_mem ?_
    intro g h hg hh hlt
    exact (Grant.bytes_line_lt_iff (hcolon g (hperm.mem_iff.1 hg))
      (hcolon h (hperm.mem_iff.1 hh))).1 hlt
  refine ⟨gs, hlines, hperm, hnodup, hprinted.imp fun hp => hp.sid_lt, hprinted, ?_⟩
  rw [pairwise_precedes_iff hprinted]
  simp only [hperm.mem_iff]

/-- Two permissions of which one is called like the other, with a digit behind. -/
def numbered : Catalog :=
  .run { serial := 0 } [.register "job" "Read" none [], .register "job" "Read2" none []]

/-- Grants of both of them, one to two tokens. -/
def numberedGrants : Matrix :=
  .ofLines numbered ["job.Read2:ann", "job.Read:bob", "job.Read:ann"]

theorem over_numberedGrants : numberedGrants.Over numbered := by
  intro g hg
  exact ((mem_ofLines_iff_line (Catalog.reachable_run 0 _).wellFormed).1 hg).2.1

theorem toLines_order_numbered : numbered.Reachable ∧ numberedGrants.Over numbered ∧
    ∃ gs : List Grant, numberedGrants.toLines = gs.map Grant.line ∧
      gs.Pairwise Grant.PrintedBefore ∧ ¬ gs.Pairwise Grant.Precedes := by
  have hc : numbered.Reachable := Catalog.reachable_run 0 _
  obtain ⟨gs, hlines, -, -, -, hprinted, hiff⟩ := toLines_order hc over_numberedGrants
  refine ⟨hc, over_numberedGrants, gs, hlines, hprinted, ?_⟩
  rw [hiff]
  intro hn
  exact hn ⟨"job.Read", "ann"⟩ (by decide +kernel) ⟨"job.Read2", "ann"⟩ (by decide +kernel)
    ⟨'2', [], rfl, by decide⟩

/-- The line of the larger id comes first. -/
theorem toLines_not_by_permission : numbered.Reachable ∧ numberedGrants.Over numbered ∧
    numberedGrants.toLines = ["job.Read2:ann", "job.Read:ann", "job.Read:bob"] ∧
      Text.bytes "job.Read" < Text.bytes "job.Read2" := by
  refine ⟨Catalog.reachable_run 0 _, over_numberedGrants, by decide +kernel, ?_⟩
  exact Text.bytes_lt_iff.2 (by decide)

end Matrix

end AccessPolicy
