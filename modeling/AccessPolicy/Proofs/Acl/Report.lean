import AccessPolicy.Acl.Basic
import AccessPolicy.Proofs.Catalog.Run
import Mathlib.Data.List.Induction

/-!
What a refused identity is told. A check passes if the list allows what is asked for, and an any-of
check if it allows one of the alternatives. Otherwise the denial reports every refused permission as
administrators know it, in the order in which they were asked for. Several permissions may be reported
as one; in one catalog these are reported alike, so nothing is lost by reporting them once.
-/
namespace AccessPolicy

variable {shown : Visibility} {who : Identity} {p : Permission} {ps : List Permission}
  {e : DeniedPermission} {es : List DeniedPermission} {d : Denial} {a : Acl} {c : Catalog}

namespace DeniedPermission

/-- The report is on the first permission of the chain that is shown, or on the last one if none is,
and lists the ids of all that come behind it. -/
def Describes (e : DeniedPermission) (shown : Visibility) (p : Permission) : Prop :=
  ∃ hidden q above, p.chain = hidden ++ q :: above ∧ (∀ r ∈ hidden, shown r = false) ∧
    (shown q = true ∨ above = []) ∧ e = ⟨q.id, above.map Permission.id⟩

theorem describes_root {self : Capability} :
    e.Describes shown (.root self) ↔ e = ⟨(Permission.root self).id, []⟩ := by
  constructor
  · rintro ⟨hidden, q, above, hc, -, -, rfl⟩
    rw [Permission.chain_root, List.singleton_eq_append_iff] at hc
    rcases hc with ⟨-, hc⟩ | ⟨-, hc⟩
    · obtain ⟨rfl, rfl⟩ := List.cons.inj hc
      rfl
    · cases hc
  · rintro rfl
    exact ⟨[], _, [], rfl, by simp, .inr rfl, rfl⟩

/-- A permission that is not shown is described as its parent is. -/
theorem describes_implied {self : Capability} {q : Permission} :
    e.Describes shown (.implied self q) ↔
      if shown (.implied self q) = true then e = ⟨(Permission.implied self q).id, q.chainIds⟩
      else e.Describes shown q := by
  constructor
  · rintro ⟨hidden, r, above, hc, hh, hs, rfl⟩
    rw [Permission.chain_implied] at hc
    cases hidden with
    | nil =>
      obtain ⟨rfl, rfl⟩ := List.cons.inj hc
      have hshown : shown (.implied self q) = true := hs.resolve_right (by simp [q.chain_eq_cons])
      rw [if_pos hshown]
      rfl
    | cons first hidden =>
      rw [List.cons_append, List.cons.injEq] at hc
      obtain ⟨rfl, hc⟩ := hc
      obtain ⟨hself, hh⟩ := List.forall_mem_cons.1 hh
      rw [if_neg (by simp [hself])]
      exact ⟨hidden, r, above, hc, hh, hs, rfl⟩
  · intro h
    by_cases hself : shown (.implied self q) = true
    · rw [if_pos hself] at h
      exact ⟨[], _, q.chain, rfl, by simp, .inl hself, h⟩
    · rw [if_neg hself] at h
      obtain ⟨hidden, r, above, hc, hh, hs, rfl⟩ := h
      refine ⟨.implied self q :: hidden, r, above, ?_, ?_, hs, rfl⟩
      · rw [Permission.chain_implied, hc, List.cons_append]
      · exact List.forall_mem_cons.2 ⟨by simpa using hself, hh⟩

/-- There is one description of each permission. -/
theorem describes_iff : e.Describes shown p ↔ e = .of shown p := by
  induction p with
  | root self =>
    rw [describes_root]
    rfl
  | implied self q ih =>
    rw [describes_implied, of, Permission.nearestShown]
    split
    · rfl
    · exact ih

/-- The ids that a report names, of the missing permission and of those that imply it. -/
def ids (e : DeniedPermission) : List String := e.id :: e.impliedBy

theorem ids_of (shown : Visibility) (p : Permission) :
    (of shown p).ids = (p.nearestShown shown).chainIds := by
  rw [Permission.chainIds, Permission.chain_eq_cons]
  rfl

end DeniedPermission

theorem Permission.nearestShown_mem_chain (shown : Visibility) (p : Permission) :
    p.nearestShown shown ∈ p.chain := by
  induction p with
  | root self => exact List.mem_singleton_self _
  | implied self q ih =>
    rw [nearestShown, chain_implied]
    split
    · exact List.mem_cons_self
    · exact List.mem_cons_of_mem _ ih

/-- Nothing that is shown stands below the nearest permission that is. -/
theorem Permission.shown_eq_false_of_notMem {r : Permission} (hr : r ∈ p.chain)
    (hout : r ∉ (p.nearestShown shown).chain) : shown r = false := by
  induction p with
  | root self => exact absurd hr hout
  | implied self q ih =>
    rw [nearestShown] at hout
    split at hout
    · exact absurd hr hout
    · next hself =>
      rcases List.mem_cons.1 hr with rfl | hr
      · exact Bool.eq_false_iff.2 hself
      · exact ih hr hout

/-- In one catalog the id of a report says all of it. -/
theorem Catalog.WellFormed.of_eq_of_id_eq (h : c.WellFormed) {q : Permission} (hp : p ∈ c.all)
    (hq : q ∈ c.all) (he : (DeniedPermission.of shown p).id = (DeniedPermission.of shown q).id) :
    DeniedPermission.of shown p = .of shown q := by
  have hp' := h.chain_mem hp (p.nearestShown_mem_chain shown)
  have hq' := h.chain_mem hq (q.nearestShown_mem_chain shown)
  rw [DeniedPermission.of, DeniedPermission.of, h.eq_of_id_eq hp' hq' he]

namespace Denial

/-- The report stands in the list, and nothing with the id of the other one stands before it. -/
def Precedes (es : List DeniedPermission) (e f : DeniedPermission) : Prop :=
  ∃ before after, es = before ++ e :: after ∧ f.id ∉ before.map DeniedPermission.id

theorem Precedes.concat {f : DeniedPermission} (h : Precedes es e f) (g : DeniedPermission) :
    Precedes (es ++ [g]) e f := by
  obtain ⟨before, after, rfl, hf⟩ := h
  exact ⟨before, after ++ [g], by simp, hf⟩

theorem distinct_concat (es : List DeniedPermission) (e : DeniedPermission) :
    distinct (es ++ [e]) =
      if e.id ∈ (distinct es).map DeniedPermission.id then distinct es else distinct es ++ [e] := by
  have hany : (distinct es).any (·.id == e.id) = true ↔
      e.id ∈ (distinct es).map DeniedPermission.id := by
    simp
  rw [← if_congr hany rfl rfl]
  simp [distinct]

theorem distinct_subset (es : List DeniedPermission) : distinct es ⊆ es := by
  induction es using List.reverseRecOn with
  | nil => exact List.Subset.refl _
  | append_singleton es e ih =>
    rw [distinct_concat]
    split
    · exact List.subset_append_of_subset_left _ ih
    · exact List.append_subset.2 ⟨List.subset_append_of_subset_left _ ih, List.subset_append_right _ _⟩

theorem map_id_subset_distinct (es : List DeniedPermission) :
    es.map DeniedPermission.id ⊆ (distinct es).map DeniedPermission.id := by
  induction es using List.reverseRecOn with
  | nil => exact List.Subset.refl _
  | append_singleton es e ih =>
    rw [List.map_append, List.append_subset, distinct_concat]
    split
    · next hold => exact ⟨ih, List.cons_subset.2 ⟨hold, List.nil_subset _⟩⟩
    · rw [List.map_append]
      exact ⟨List.subset_append_of_subset_left _ ih, List.subset_append_right _ _⟩

theorem nodup_distinct (es : List DeniedPermission) :
    ((distinct es).map DeniedPermission.id).Nodup := by
  induction es using List.reverseRecOn with
  | nil => exact List.nodup_nil
  | append_singleton es e ih =>
    rw [distinct_concat]
    split
    · exact ih
    · next hnew =>
      rw [List.map_append, List.map_singleton, ← List.concat_eq_append]
      exact ih.concat hnew

/-- What is kept stays in the order of first appearance. -/
theorem pairwise_distinct (es : List DeniedPermission) : (distinct es).Pairwise (Precedes es) := by
  induction es using List.reverseRecOn with
  | nil => exact .nil
  | append_singleton es e ih =>
    have hold := ih.imp fun h => h.concat e
    rw [distinct_concat]
    split
    · exact hold
    · next hnew =>
      rw [List.pairwise_append]
      refine ⟨hold, List.pairwise_singleton _ _, ?_⟩
      intro f hf g hg
      obtain rfl := List.mem_singleton.1 hg
      obtain ⟨before, after, hes⟩ := List.append_of_mem (distinct_subset es hf)
      refine ⟨before, after ++ [g], by simp [hes], ?_⟩
      -- an id that stood in the list before is one that is kept
      intro hg
      refine hnew (map_id_subset_distinct es ?_)
      rw [hes, List.map_append]
      exact List.mem_append_left _ hg

/-- The denial is about this identity and these permissions. -/
structure Explains (d : Denial) (shown : Visibility) (who : Identity) (ps : List Permission) :
    Prop where
  principal : d.principal = who.principal
  groups : d.groups = who.groups
  anonymous : d.anonymous = true ↔ who.kind = .anonymous
  ids_nodup : (d.permissions.map DeniedPermission.id).Nodup
  /-- Every permission is represented, and nothing else is reported. -/
  mem_iff : ∀ e, e ∈ d.permissions ↔ ∃ p ∈ ps, e.Describes shown p
  /-- What is reported earlier was asked for before anything that is reported later. -/
  ordered : d.permissions.Pairwise fun e f => ∃ before p after, ps = before ++ p :: after ∧
    e.Describes shown p ∧ ∀ q ∈ before, ¬ f.Describes shown q
  /-- A required permission is named in a header if there is one to be named. -/
  header_iff : ∀ id, ("X-Required-Permission", id) ∈ d.headers ↔
    ∃ impliedBy, d.permissions = [⟨id, impliedBy⟩]

theorem required_mem_headers_iff {id : String} :
    ("X-Required-Permission", id) ∈ d.headers ↔ ∃ impliedBy, d.permissions = [⟨id, impliedBy⟩] := by
  have hperson : ∀ name, ("X-Required-Permission", id) ≠ ("X-You-Are-Authenticated-As", name) := by
    intro name h
    exact absurd (Prod.mk.inj h).1 (by decide)
  have hgroup : ("X-Required-Permission", id) ∉
      d.groups.map (fun g => ("X-You-Are-In-Group", g)) := by
    rw [List.mem_map]
    rintro ⟨g, -, h⟩
    exact absurd (Prod.mk.inj h).1 (by decide)
  rw [headers, List.cons_append, List.mem_cons, or_iff_right (hperson _), List.mem_append,
    or_iff_right hgroup]
  match d.permissions with
  | [] => simp
  | [⟨reported, impliedBy⟩] =>
    have habove : ("X-Required-Permission", id) ∉
        impliedBy.map (fun q => ("X-Permission-Implied-By", q)) := by
      rw [List.mem_map]
      rintro ⟨q, -, h⟩
      exact absurd (Prod.mk.inj h).1 (by decide)
    rw [List.mem_cons, or_iff_left habove]
    simp [eq_comm]
  | _ :: _ :: _ => simp

theorem explains_of (hinj : ∀ p ∈ ps, ∀ q ∈ ps,
      (DeniedPermission.of shown p).id = (DeniedPermission.of shown q).id →
        DeniedPermission.of shown p = .of shown q) :
    (Denial.of who (distinct (ps.map (.of shown)))).Explains shown who ps where
  principal := rfl
  groups := rfl
  anonymous := by simp [Denial.of, Identity.isAnonymous]
  ids_nodup := nodup_distinct _
  mem_iff e := by
    simp only [DeniedPermission.describes_iff]
    constructor
    · intro he
      obtain ⟨p, hp, rfl⟩ := List.mem_map.1 (distinct_subset _ he)
      exact ⟨p, hp, rfl⟩
    · rintro ⟨p, hp, rfl⟩
      have hid : (DeniedPermission.of shown p).id ∈
          (distinct (ps.map (.of shown))).map DeniedPermission.id :=
        map_id_subset_distinct _ (List.mem_map_of_mem (List.mem_map_of_mem hp))
      obtain ⟨f, hf, he⟩ := List.mem_map.1 hid
      obtain ⟨q, hq, rfl⟩ := List.mem_map.1 (distinct_subset _ hf)
      rw [← hinj q hq p hp he]
      exact hf
  ordered := by
    simp only [DeniedPermission.describes_iff]
    refine (pairwise_distinct _).imp ?_
    rintro e f ⟨before, after, hes, hf⟩
    obtain ⟨before, rest, rfl, rfl, hrest⟩ := List.map_eq_append_iff.1 hes
    obtain ⟨p, after, rfl, rfl, -⟩ := List.map_eq_cons_iff.1 hrest
    refine ⟨before, p, after, rfl, rfl, ?_⟩
    rintro q hq rfl
    exact hf (List.mem_map_of_mem (List.mem_map_of_mem hq))
  header_iff _ := required_mem_headers_iff

end Denial

namespace Acl

theorem check_eq_ok_iff : a.check shown who p = .ok () ↔ a.has who p = true := by
  unfold check
  cases a.has who p <;> simp

theorem check_eq_error_iff :
    a.check shown who p = .error d ↔ a.has who p = false ∧ d = .of who [.of shown p] := by
  unfold check
  cases a.has who p <;> simp [eq_comm]

theorem hasAny_nil : a.hasAny who [] = .error .noPermissions := rfl

theorem hasAny_of_ne_nil (h : ps ≠ []) : a.hasAny who ps = .ok (ps.any (a.has who)) := by
  obtain ⟨p, hp⟩ := List.exists_mem_of_ne_nil ps h
  rw [hasAny, if_neg (by simpa using h)]
  cases hs : who.isSystem with
  | false => rfl
  | true =>
    have hany : ps.any (a.has who) = true := List.any_eq_true.2 ⟨p, hp, a.has_system hs p⟩
    rw [hany]
    rfl

theorem checkAny_nil : a.checkAny shown who [] = .error (.misuse .noPermissions) := rfl

theorem checkAny_of_ne_nil (h : ps ≠ []) :
    a.checkAny shown who ps =
      if ps.any (a.has who) then .ok ()
      else .error (.denied (.of who (Denial.distinct (ps.map (.of shown))))) := by
  rw [checkAny, hasAny_of_ne_nil h]
  cases ps.any (a.has who) <;> rfl

theorem checkAny_eq_ok_iff (h : ps ≠ []) :
    a.checkAny shown who ps = .ok () ↔ ∃ p ∈ ps, a.has who p = true := by
  rw [checkAny_of_ne_nil h, ← List.any_eq_true]
  cases ps.any (a.has who) <;> simp

theorem has_eq_false_of_denied (hd : a.checkAny shown who ps = .error (.denied d)) (hp : p ∈ ps) :
    a.has who p = false := by
  have hok : a.checkAny shown who ps ≠ .ok () := by rw [hd]; simp
  rw [ne_eq, checkAny_eq_ok_iff (List.ne_nil_of_mem hp)] at hok
  exact Bool.eq_false_iff.2 fun hhas => hok ⟨p, hp, hhas⟩

/-- The checks of a list say the same as its answers, and their denials say what was refused. -/
structure ChecksAgree (a : Acl) (shown : Visibility) (who : Identity) (ps : List Permission) :
    Prop where
  check_iff : ∀ p ∈ ps, a.check shown who p = .ok () ↔ a.has who p = true
  check_denied : ∀ p ∈ ps, ∀ d, a.check shown who p = .error d → d.Explains shown who [p]
  hasAny_misuse_iff : a.hasAny who ps = .error .noPermissions ↔ ps = []
  checkAny_misuse_iff : a.checkAny shown who ps = .error (.misuse .noPermissions) ↔ ps = []
  hasAny_iff : ps ≠ [] →
    ∃ any, a.hasAny who ps = .ok any ∧ (any = true ↔ ∃ p ∈ ps, a.has who p = true)
  checkAny_iff : a.checkAny shown who ps = .ok () ↔ a.hasAny who ps = .ok true
  checkAny_denied : ∀ d, a.checkAny shown who ps = .error (.denied d) → d.Explains shown who ps

/-- However a list is built, and whatever is shown of the permissions of a catalog, its checks agree
with its answers, for every identity. -/
theorem checks_agree (hc : c.Reachable) (hps : ps ⊆ c.all) (a : Acl) (shown : Visibility)
    (who : Identity) : a.ChecksAgree shown who ps where
  check_iff _ _ := check_eq_ok_iff
  check_denied p hp d hd := by
    obtain ⟨-, rfl⟩ := check_eq_error_iff.1 hd
    have hone : (Denial.of who (Denial.distinct ([p].map (.of shown)))).Explains shown who [p] :=
      Denial.explains_of (by simp)
    exact hone
  hasAny_misuse_iff := by
    constructor
    · intro h
      by_contra hne
      rw [hasAny_of_ne_nil hne] at h
      cases h
    · rintro rfl
      exact hasAny_nil
  checkAny_misuse_iff := by
    constructor
    · intro h
      by_contra hne
      rw [checkAny_of_ne_nil hne] at h
      split at h <;> cases h
    · rintro rfl
      exact checkAny_nil
  hasAny_iff hne := ⟨_, hasAny_of_ne_nil hne, List.any_eq_true⟩
  checkAny_iff := by
    by_cases hne : ps = []
    · simp [hne, checkAny_nil, hasAny_nil]
    · rw [checkAny_of_ne_nil hne, hasAny_of_ne_nil hne]
      cases ps.any (a.has who) <;> simp
  checkAny_denied d hd := by
    have hne : ps ≠ [] := by
      rintro rfl
      cases hd
    rw [checkAny_of_ne_nil hne] at hd
    split at hd
    · cases hd
    · cases hd
      refine Denial.explains_of ?_
      intro p hp q hq
      exact hc.wellFormed.of_eq_of_id_eq (hps hp) (hps hq)

end Acl

namespace Catalog

def administer : Permission := .root ⟨0, "core", "Administer", none, []⟩

def workspace : Permission := .implied ⟨0, "job", "Workspace", none, []⟩ administer

/-- A catalog of one permission and a hidden one below it. -/
def workshop : Catalog :=
  run { serial := 0 }
    [.register "core" "Administer" none [],
      .define { owner := "job", name := "Workspace", parent := some administer, enabled := false }]

theorem reachable_workshop : workshop.Reachable := reachable_run 0 _

theorem all_workshop : workshop.all = [administer, workspace] := by rfl

end Catalog

/-- Who may neither administer nor enter the workspace is told of the former, once and in a header. -/
theorem Acl.checks_agree_workshop : Catalog.workshop.Reachable ∧
    [Catalog.workspace, Catalog.administer] ⊆ Catalog.workshop.all ∧
    ∃ d, closed.checkAny Catalog.workshop.isEnabled (.user "ann" ["dev"])
        [Catalog.workspace, Catalog.administer] = .error (.denied d) ∧
      d.principal = "ann" ∧ d.groups = ["dev"] ∧ d.permissions = [⟨"core.Administer", []⟩] ∧
      ("X-Required-Permission", "core.Administer") ∈ d.headers := by
  have hc := Catalog.reachable_workshop
  have hps : [Catalog.workspace, Catalog.administer] ⊆ Catalog.workshop.all := by
    simp [Catalog.all_workshop]
  have h := checks_agree hc hps closed Catalog.workshop.isEnabled (.user "ann" ["dev"])
  have hreport : Denial.distinct ([Catalog.workspace, Catalog.administer].map
      (.of Catalog.workshop.isEnabled)) = [⟨"core.Administer", []⟩] := by
    decide
  obtain ⟨d, hd⟩ : ∃ d, closed.checkAny Catalog.workshop.isEnabled (.user "ann" ["dev"])
      [Catalog.workspace, Catalog.administer] = .error (.denied d) := ⟨_, rfl⟩
  have hpermissions : d.permissions = [⟨"core.Administer", []⟩] := by
    cases hd
    exact hreport
  have hd' := h.checkAny_denied d hd
  exact ⟨hc, hps, d, hd, hd'.principal, hd'.groups, hpermissions,
    (hd'.header_iff _).2 ⟨[], hpermissions⟩⟩

end AccessPolicy
