import AccessPolicy.Controller
import AccessPolicy.Proofs.Acl.Report
import AccessPolicy.Proofs.Matrix.Decision

/-!
What lifts a denial. Under one matrix for the whole tree a refused identity lacks a grant, and the
denial says which: each permission that it names would do, granted to any token of the identity. The
only other grants that would do are of hidden permissions, which a denial does not name.
-/
namespace AccessPolicy

variable {shown : Visibility} {who : Identity} {q : Permission} {ps : List Permission} {d : Denial}
  {a : Acl} {c : Catalog} {m : Matrix} {hooks : List Hook}

/-- Hooks that have nothing to say about the permissions might as well not be there. -/
theorem Acl.checkAny_guarded {t : Target}
    (hsilent : ∀ p ∈ ps, Hook.consult hooks t who p = none) :
    (guarded t hooks a).checkAny shown who ps = a.checkAny shown who ps := by
  have hhas : ∀ p ∈ ps, (guarded t hooks a).has who p = a.has who p := by
    intro p hp
    rw [has, has, admits_guarded, hsilent p hp, Option.getD_none]
  have hany : ps.any ((guarded t hooks a).has who) = ps.any (a.has who) := by
    rw [Bool.eq_iff_iff, List.any_eq_true, List.any_eq_true]
    exact exists_congr fun p => and_congr_right fun hp => by rw [hhas p hp]
  rw [checkAny, checkAny, hasAny, hasAny, hany]

namespace Controller

/-- The list for the root of the tree, of a controller with one matrix for the whole tree. -/
def matrixAcl (m : Matrix) (hooks : List Hook) : Acl := (mk (.globalMatrix m) hooks).aclAt none

theorem matrixAcl_checkAny_eq_ok_iff (hne : ps ≠ []) (hs : who.isSystem = false)
    (hsilent : ∀ p ∈ ps, Hook.consult hooks .root who p = none) :
    (matrixAcl m hooks).checkAny shown who ps = .ok () ↔
      ∃ p ∈ ps, m.GrantsOnChain who.names p := by
  have hroot : matrixAcl m hooks = .guarded .root hooks (.sids (.matrix m)) := rfl
  rw [hroot, Acl.checkAny_guarded hsilent, Acl.checkAny_eq_ok_iff hne]
  simp only [Acl.has_of_not_system _ hs, Matrix.admits_matrix_iff]

/-- A denied check passes with one more grant just if the grant is of a permission on a requested chain,
and to a token of the identity. -/
theorem checkAny_grant_eq_ok_iff (hc : c.WellFormed) (hps : ps ⊆ c.all)
    (hsilent : ∀ p ∈ ps, Hook.consult hooks .root who p = none)
    (hd : (matrixAcl m hooks).checkAny shown who ps = .error (.denied d)) (hq : q ∈ c.all)
    (sid : String) :
    (matrixAcl (m.grant q sid) hooks).checkAny shown who ps = .ok () ↔
      (∃ p ∈ ps, q ∈ p.chain) ∧ ∃ s ∈ who.sids, s.matrixName = sid := by
  have hne : ps ≠ [] := by
    rintro rfl
    cases hd
  obtain ⟨p₀, hp₀⟩ := List.exists_mem_of_ne_nil ps hne
  have hs : who.isSystem = false := by
    rw [Bool.eq_false_iff]
    intro hs
    have hhas := (matrixAcl m hooks).has_system hs p₀
    rw [Acl.has_eq_false_of_denied hd hp₀] at hhas
    cases hhas
  -- as it is, the matrix grants nothing that would do
  have hm : ¬ ∃ p ∈ ps, m.GrantsOnChain who.names p := by
    rw [← matrixAcl_checkAny_eq_ok_iff hne hs hsilent, hd]
    simp
  rw [matrixAcl_checkAny_eq_ok_iff hne hs hsilent, ← Identity.mem_names]
  constructor
  · rintro ⟨p, hp, hg⟩
    rcases Matrix.grantsOnChain_insert_iff.1 hg with hg | ⟨hid, hsid⟩
    · exact absurd ⟨p, hp, hg⟩ hm
    · exact ⟨⟨p, hp, (hc.id_mem_chainIds_iff (hps hp) hq).1 hid⟩, hsid⟩
  · rintro ⟨⟨p, hp, hmem⟩, hsid⟩
    exact ⟨p, hp, Matrix.grantsOnChain_insert_iff.2 (.inr ⟨List.mem_map_of_mem hmem, hsid⟩)⟩

end Controller

/-- The denial tells what would lift it. Here `passes q sid` says that the check passes with one more
grant, of `q` to `sid`. -/
structure Denial.Actionable (d : Denial) (c : Catalog) (shown : Visibility) (who : Identity)
    (ps : List Permission) (passes : Permission → String → Prop) : Prop where
  /-- Whatever is reported would do, for any token of the identity. -/
  sufficient : ∀ e ∈ d.permissions, ∀ id ∈ e.ids, ∃ q, c.lookup id = some q ∧
    ∀ s ∈ who.sids, passes q s.matrixName
  passes_iff : ∀ q ∈ c.all, ∀ sid, passes q sid ↔
    (∃ p ∈ ps, q ∈ p.chain) ∧ ∃ s ∈ who.sids, s.matrixName = sid
  /-- The report of a permission leaves out what its chain has below the reported one, and nothing that
  is shown. -/
  omitted : ∀ p ∈ ps, ∃ e ∈ d.permissions, ∃ q ∈ p.chain, e.Describes shown p ∧ e.id = q.id ∧
    ∀ r ∈ p.chain, (r.id ∉ e.ids ↔ q ∈ r.ancestors) ∧ (r.id ∉ e.ids → shown r = false)

/-- Under one matrix for the whole tree, every denial that no hook has a part in tells what would lift
it, whatever was granted and whatever is shown. -/
theorem Controller.actionable_of_denied (hc : c.Reachable) (hps : ps ⊆ c.all)
    (hsilent : ∀ p ∈ ps, Hook.consult hooks .root who p = none)
    (hd : (matrixAcl m hooks).checkAny shown who ps = .error (.denied d)) :
    d.Actionable c shown who ps fun q sid =>
      (matrixAcl (m.grant q sid) hooks).checkAny shown who ps = .ok () := by
  have hwf := hc.wellFormed
  have hexplains := (Acl.checks_agree hc hps (matrixAcl m hooks) shown who).checkAny_denied d hd
  have hpasses := fun q (hq : q ∈ c.all) sid =>
    checkAny_grant_eq_ok_iff hwf hps hsilent hd hq sid
  refine ⟨?_, hpasses, ?_⟩
  · intro e he id hid
    obtain ⟨p, hp, hdesc⟩ := (hexplains.mem_iff e).1 he
    rw [DeniedPermission.describes_iff.1 hdesc, DeniedPermission.ids_of] at hid
    obtain ⟨q, hq, rfl⟩ := List.mem_map.1 hid
    have hchain : q ∈ p.chain :=
      (Permission.chain_suffix (p.nearestShown_mem_chain shown)).subset hq
    have hall : q ∈ c.all := hwf.chain_mem (hps hp) hchain
    exact ⟨q, hwf.lookup_id hall, fun s hs => (hpasses q hall _).2 ⟨⟨p, hp, hchain⟩, s, hs, rfl⟩⟩
  · intro p hp
    have hdesc : (DeniedPermission.of shown p).Describes shown p :=
      DeniedPermission.describes_iff.2 rfl
    have hq := p.nearestShown_mem_chain shown
    refine ⟨_, (hexplains.mem_iff _).2 ⟨p, hp, hdesc⟩, _, hq, hdesc, rfl, ?_⟩
    intro r hr
    have hids : r.id ∈ (DeniedPermission.of shown p).ids ↔ r ∈ (p.nearestShown shown).chain := by
      rw [DeniedPermission.ids_of, hwf.id_mem_chainIds_iff (hwf.chain_mem (hps hp) hq)
        (hwf.chain_mem (hps hp) hr)]
    rw [hids, Permission.mem_ancestors_iff hq hr]
    exact ⟨Iff.rfl, Permission.shown_eq_false_of_notMem hr⟩

/-- A hook that breaks down whenever it is asked. -/
def Hook.failing : Hook := { name := "failing", check := fun _ _ _ => .broken }

/-- Whoever is refused to enter the workspace is told to be missing the right to administer. That one
does, for a group as well, and so does the hidden permission itself, but nothing that others are
granted. -/
theorem Controller.actionable_of_denied_workshop : Catalog.workshop.Reachable ∧
    [Catalog.workspace] ⊆ Catalog.workshop.all ∧
    (∀ p ∈ [Catalog.workspace],
      Hook.consult [Hook.failing] .root (.user "ann" ["dev"]) p = none) ∧
    ∃ d, (matrixAcl .empty [Hook.failing]).checkAny Catalog.workshop.isEnabled
        (.user "ann" ["dev"]) [Catalog.workspace] = .error (.denied d) ∧
      d.permissions = [⟨"core.Administer", []⟩] ∧
      (matrixAcl (Matrix.empty.grant Catalog.administer "dev") [Hook.failing]).checkAny
        Catalog.workshop.isEnabled (.user "ann" ["dev"]) [Catalog.workspace] = .ok () ∧
      (matrixAcl (Matrix.empty.grant Catalog.workspace "ann") [Hook.failing]).checkAny
        Catalog.workshop.isEnabled (.user "ann" ["dev"]) [Catalog.workspace] = .ok () ∧
      (matrixAcl (Matrix.empty.grant Catalog.administer "bob") [Hook.failing]).checkAny
        Catalog.workshop.isEnabled (.user "ann" ["dev"]) [Catalog.workspace] ≠ .ok () := by
  have hc := Catalog.reachable_workshop
  have hps : [Catalog.workspace] ⊆ Catalog.workshop.all := by simp [Catalog.all_workshop]
  have hworkspace : Catalog.workspace ∈ Catalog.workshop.all := hps List.mem_cons_self
  have hadminister : Catalog.administer ∈ Catalog.workshop.all := by simp [Catalog.all_workshop]
  have hsilent : ∀ p ∈ [Catalog.workspace],
      Hook.consult [Hook.failing] .root (.user "ann" ["dev"]) p = none := fun _ _ => rfl
  have hreport : Denial.distinct ([Catalog.workspace].map (.of Catalog.workshop.isEnabled)) =
      [⟨"core.Administer", []⟩] := by
    decide
  obtain ⟨d, hd⟩ : ∃ d, (matrixAcl .empty [Hook.failing]).checkAny Catalog.workshop.isEnabled
      (.user "ann" ["dev"]) [Catalog.workspace] = .error (.denied d) := ⟨_, rfl⟩
  have hpermissions : d.permissions = [⟨"core.Administer", []⟩] := by
    cases hd
    exact hreport
  have h := actionable_of_denied hc hps hsilent hd
  refine ⟨hc, hps, hsilent, d, hd, hpermissions, ?_, ?_, ?_⟩
  · have hchain : Catalog.administer ∈ Catalog.workspace.chain :=
      List.mem_cons_of_mem _ Catalog.administer.self_mem_chain
    exact (h.passes_iff _ hadminister "dev").2
      ⟨⟨_, List.mem_cons_self, hchain⟩, .group "dev", by decide, rfl⟩
  · exact (h.passes_iff _ hworkspace "ann").2
      ⟨⟨_, List.mem_cons_self, Permission.self_mem_chain _⟩, .principal "ann", by decide, rfl⟩
  · rw [ne_eq, h.passes_iff _ hadminister "bob"]
    rintro ⟨-, hbob⟩
    exact absurd hbob (by decide)

end AccessPolicy
