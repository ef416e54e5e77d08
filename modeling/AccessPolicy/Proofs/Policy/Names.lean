import AccessPolicy.Proofs.Acl.Mirror
import AccessPolicy.Proofs.Policy.Meaning
import AccessPolicy.Proofs.Strategy.Fixed
import Mathlib.Data.List.Find

/-!
Names carry no privilege of their own. Two users whose names the settings do not mention, and whom
the override rules cannot tell apart, are treated alike at every target, and this includes a user that
has the name of the system identity. That identity itself is not known by its name, and nothing is
denied to it.
-/
namespace AccessPolicy

variable {s : Settings} {c : Catalog} {P : Policy} {a b name : String} {groups : List String}
  {p : Permission} {m : Matrix}

/-- The name of a user has no effect but through its own token. -/
theorem Oracle.resolve_user_congr {o : Oracle}
    (h : o.decide (.principal a) p = o.decide (.principal b) p) :
    o.resolve (.user a groups) p = o.resolve (.user b groups) p := by
  have hsids : ∀ name, (Identity.user name groups).sids =
      .principal name :: (groups.map .group ++ [.everyone]) := fun _ => rfl
  rw [resolve, resolve, hsids, hsids, List.findSome?_cons, List.findSome?_cons, h]

theorem Oracle.decide_entries_of_unmentioned {es : List Entry}
    (h : ∀ e ∈ es, e.sid ≠ .principal name) : (entries es).decide (.principal name) p = none :=
  Entry.decide_eq_none_iff.2 fun e he hs => absurd hs (h e he)

namespace Matrix

/-- No grant mentions the name. -/
def Unmentioned (m : Matrix) (name : String) : Prop := ∀ g ∈ m.grants, g.sid ≠ name

theorem Unmentioned.grantsExactly (h : m.Unmentioned name) (id : String) :
    m.grantsExactly name id = false := by
  rw [Bool.eq_false_iff, Ne, grantsExactly_iff]
  intro hg
  exact h _ hg rfl

theorem Unmentioned.decide (h : m.Unmentioned name) : m.decide (.principal name) p = none := by
  have hname : (Sid.principal name).matrixName = name := rfl
  simp [Matrix.decide, allows, hname, h.grantsExactly]

/-- All that is left to a name that is not mentioned is what everybody has as a visitor. -/
theorem Unmentioned.decideOpen (h : m.Unmentioned name) :
    m.decideOpen (.principal name) p = m.decideOpen .anonymous p := by
  have hname : (Sid.principal name).matrixName = name := rfl
  have hanonymous : Sid.anonymous.matrixName = Sid.anonymousName := rfl
  simp only [Matrix.decideOpen, hname, hanonymous, h.grantsExactly, Bool.false_or, Bool.or_self]

end Matrix

theorem MatrixProperty.decide_oracle_user {q : MatrixProperty} (ha : q.matrix.Unmentioned a)
    (hb : q.matrix.Unmentioned b) (hma : m.Unmentioned a) (hmb : m.Unmentioned b) :
    (q.oracle (.matrix m)).decide (.principal a) p =
      (q.oracle (.matrix m)).decide (.principal b) p := by
  have hown : q.matrix.decideOpen (.principal a) p = q.matrix.decideOpen (.principal b) p :=
    ha.decideOpen.trans hb.decideOpen.symm
  unfold oracle
  cases q.inheritance with
  | none => exact hown
  | global =>
    rw [Oracle.decide_inheriting, Oracle.decide_inheriting, Oracle.decide_property,
      Oracle.decide_property, hown, Oracle.decide_matrix, Oracle.decide_matrix, hma.decide,
      hmb.decide]

/-- The name has no meaning in the settings: it is neither that of visitors nor that of the
administrator, and no line of the root policy or of an object is for it. -/
structure Settings.Unmentioned (s : Settings) (name : String) : Prop where
  ne_anonymous : name ≠ Sid.anonymousName
  ne_admin : name ≠ s.authorization.adminSid
  root : ∀ id, ¬ Grant.StatedIn ⟨id, name⟩ s.authorization.grants
  objects : ∀ o ∈ s.objects, ∀ id, ¬ Grant.StatedIn ⟨id, name⟩ o.grants

namespace Settings.Unmentioned

/-- The migration grants to nobody that no line is for. -/
theorem ofSettings (h : s.Unmentioned name) (hc : c.WellFormed) (hb : c.hasBuiltins = true) :
    (Matrix.ofSettings s.authorization c).Unmentioned name := by
  rintro ⟨id, sid⟩ hg rfl
  rcases ((Matrix.mem_ofSettings_iff hc (hc.lists_builtin hb .read)).1 hg).1 with hs | ⟨-, -, hs⟩
  · exact h.root _ hs
  · exact h.root _ hs

theorem ofLines (h : s.Unmentioned name) (hc : c.WellFormed) {o : ObjectSettings}
    (ho : o ∈ s.objects) : (Matrix.ofLines c o.grants).Unmentioned name := by
  rintro ⟨id, sid⟩ hg rfl
  exact h.objects o ho _ ((Matrix.mem_ofLines_iff hc).1 hg).1

end Settings.Unmentioned

theorem Acl.admits_sids_user_congr {o : Oracle}
    (h : o.decide (.principal a) p = o.decide (.principal b) p) :
    (sids o).admits (.user a groups) p = (sids o).admits (.user b groups) p := by
  rw [admits_sids, admits_sids, Oracle.resolve_user_congr h]

namespace Strategy

theorem sid_ne_of_mem_onceLoggedInEntries (h : name ≠ Sid.anonymousName) :
    ∀ e ∈ onceLoggedInEntries, e.sid ≠ .principal name := by
  simp [onceLoggedInEntries, Sid.anonymous, Ne.symm h]

theorem sid_ne_of_mem_legacyEntries {admin : String} (h : name ≠ admin) :
    ∀ e ∈ legacyEntries admin, e.sid ≠ .principal name := by
  simp [legacyEntries, Ne.symm h]

theorem admits_aclAt_user {st : Strategy} (hst : StrategyTable.Builds s.authorization c st)
    (hc : c.WellFormed) (hb : c.hasBuiltins = true) (ha : s.Unmentioned a) (hb' : s.Unmentioned b)
    {x : Option SecuredItem} (hx : ∀ i, x = some i → ∃ o ∈ s.objects, i = .ofSettings c o) :
    (st.aclAt x).admits (.user a groups) p = (st.aclAt x).admits (.user b groups) p := by
  have hma := ha.ofSettings hc hb
  have hmb := hb'.ofSettings hc hb
  have hroot : (Acl.sids (.matrix (.ofSettings s.authorization c))).admits (.user a groups) p =
      (Acl.sids (.matrix (.ofSettings s.authorization c))).admits (.user b groups) p :=
    Acl.admits_sids_user_congr (hma.decide.trans hmb.decide.symm)
  cases hst with
  | unsecured _ =>
    rw [aclAt_eq_rootAcl (by simp)]
    rfl
  | fullControlOnceLoggedIn _ _ =>
    rw [aclAt_eq_rootAcl (by simp)]
    refine Acl.admits_sids_user_congr ?_
    rw [Oracle.decide_entries_of_unmentioned (sid_ne_of_mem_onceLoggedInEntries ha.ne_anonymous),
      Oracle.decide_entries_of_unmentioned (sid_ne_of_mem_onceLoggedInEntries hb'.ne_anonymous)]
  | legacy _ _ =>
    rw [aclAt_eq_rootAcl (by simp)]
    refine Acl.admits_sids_user_congr ?_
    rw [Oracle.decide_entries_of_unmentioned (sid_ne_of_mem_legacyEntries ha.ne_admin),
      Oracle.decide_entries_of_unmentioned (sid_ne_of_mem_legacyEntries hb'.ne_admin)]
  | globalMatrix _ =>
    rw [aclAt_eq_rootAcl (by simp)]
    exact hroot
  | projectMatrix _ =>
    obtain he | ⟨i, hi, -, he⟩ := aclAt_projectMatrix_cases (.ofSettings s.authorization c) x
    · rw [he]
      exact hroot
    · obtain ⟨o, ho, rfl⟩ := hx i hi
      rw [he]
      exact Acl.admits_sids_user_congr
        (MatrixProperty.decide_oracle_user (ha.ofLines hc ho) (hb'.ofLines hc ho) hma hmb)

end Strategy

/-- Rules that match both names or neither cannot tell the users apart. -/
theorem OverrideRule.covers_user {r : OverrideRule} {t : Target}
    (h : r.principals.any (Filter.matchedBy a) = r.principals.any (Filter.matchedBy b)) :
    r.covers t (.user a groups) p = r.covers t (.user b groups) p := by
  have hprincipal : ∀ name, (Identity.user name groups).principal = name := fun _ => rfl
  rw [covers, covers, hprincipal, hprincipal, h]

def Denial.rename (name : String) (d : Denial) : Denial := { d with principal := name }

namespace Policy

/-- At the root and at every configured object two users that the settings do not mention and the
rules do not tell apart get the same answers, and denials that differ in the name alone. The system
identity passes everywhere. -/
theorem users_alike (hc : c.Reachable) (hl : loadWith s c .builtin = .ok P)
    (ha : s.Unmentioned a) (hb : s.Unmentioned b)
    (hr : ∀ r ∈ s.authorization.overrides,
      r.principals.any (Filter.matchedBy a) = r.principals.any (Filter.matchedBy b))
    (groups : List String) (shown : Visibility) :
    (∀ x, (∀ i, x = some i → i ∈ P.items) →
      Acl.View.Mirrors P.catalog.all (Denial.rename b)
        ⟨P.controller.aclAt x, shown, .user a groups⟩
        ⟨P.controller.aclAt x, shown, .user b groups⟩) ∧
      ∀ x, (P.controller.aclAt x).Passes ⟨.system, groups⟩ := by
  have h := loadWith_eq_ok_iff.1 hl
  have hw := h.wellFormed hc.wellFormed
  have hbuiltins := h.hasBuiltins hc.wellFormed
  refine ⟨?_, fun x => Acl.passes_system _ rfl⟩
  intro x hx
  refine .of_has rfl (fun _ => rfl) (fun _ _ => rfl) ?_ ?_
  · intro t kind
    rw [h.hasCreate, h.hasCreate]
  · intro p hp
    obtain ⟨os, hos, hh⟩ := h.hooks
    have hitems : ∀ i, x = some i → ∃ o ∈ s.objects, i = .ofSettings P.catalog o := by
      intro i hi
      have hm := hx i hi
      rw [h.items] at hm
      exact exists_of_mem_itemsOf hm
    refine Controller.has_aclAt_congr rfl ?_
      (Strategy.admits_aclAt_user h.builds hw hbuiltins hb ha hitems)
    rw [hh, Controller.consult_compileRules hw hp hos, Controller.consult_compileRules hw hp hos]
    congr 1
    exact List.find?_congr fun r hm => (OverrideRule.covers_user (hr r hm)).symm

/-- A single principal administers, beside another one that a rule admits. -/
def deputized : Settings where
  authorization :=
    { strategy := "legacy"
      overrides :=
        [{ name := "deputy", permissions := ["hudson.model.Hudson.Administer"]
           principals := ["^ann$"], decision := .allow }] }

theorem unmentioned_deputized (hanonymous : name ≠ Sid.anonymousName) (hadmin : name ≠ "admin") :
    deputized.Unmentioned name :=
  ⟨hanonymous, hadmin, by simp [Grant.StatedIn, deputized], by simp [deputized]⟩

theorem exists_loadWith_deputized : ∃ P, loadWith deputized Catalog.builtins .builtin = .ok P := by
  have hb := Catalog.hasBuiltins_builtins
  obtain ⟨os, hos⟩ : ∃ os, Controller.compileRules Catalog.builtins
      deputized.authorization.overrides = .ok os := by
    refine Controller.exists_compileRules_iff.2 ?_
    intro r hr
    obtain rfl := List.mem_singleton.1 hr
    obtain ⟨p, hp⟩ := Catalog.exists_lookup_builtin hb .administer
    refine OverrideRule.exists_compile_iff.2 ⟨⟨_, List.mem_singleton_self _, p, hp⟩, ?_, {}, rfl⟩
    have hcompiles : (Filter.ofSources ["^ann$"]).toOption.isSome = true := by decide +kernel
    cases hf : Filter.ofSources ["^ann$"] with
    | ok f => exact ⟨f, rfl⟩
    | error e =>
      rw [hf] at hcompiles
      cases hcompiles
  have hcreate : StrategyTable.builtin.create deputized.authorization Catalog.builtins =
      .ok (.legacy "admin") := StrategyTable.create_eq_ok_iff.2 (.legacy rfl hb)
  exact ⟨_, loadWith_of_compileRules hb rfl hcreate hos⟩

/-- A user called like the system identity may administer no more than one that nobody knows. -/
theorem users_alike_deputized : ∃ P, loadWith deputized Catalog.builtins .builtin = .ok P ∧
    ∃ p ∈ P.catalog.all, p.id = Builtin.administer.id ∧
      (P.controller.aclAt none).has (.user "nobody" ["dev"]) p = false ∧
      (P.controller.aclAt none).has (.user Identity.systemName ["dev"]) p = false ∧
      (P.controller.aclAt none).has ⟨.system, ["dev"]⟩ p = true := by
  have hc := Catalog.extendsBuiltins_builtins
  have hb := Catalog.hasBuiltins_builtins
  obtain ⟨p, hlookup⟩ := Catalog.exists_lookup_builtin hb .administer
  obtain ⟨hp, hid⟩ := hc.wellFormed.lookup_eq_some_iff.1 hlookup
  have hchain := hc.chainIds_administer hp hid
  obtain ⟨P, hl⟩ := exists_loadWith_deputized
  have h := loadWith_eq_ok_iff.1 hl
  have hw := h.wellFormed hc.wellFormed
  have hlisted : p ∈ P.catalog.all := by rwa [(h.sameListing hb).all]
  have hstrategy : P.controller.strategy = .legacy "admin" :=
    h.builds.unique (.legacy rfl (h.hasBuiltins hc.wellFormed))
  have hnobody : (P.controller.aclAt none).has (.user "nobody" ["dev"]) p = false := by
    have hrule : deputized.authorization.overrides.find? (fun r =>
        r.covers .root (.user "nobody" ["dev"]) p) = none := by
      have hunmatched : ["^ann$"].any (Filter.matchedBy "nobody") = false := by decide +kernel
      have hprincipal : (Identity.user "nobody" ["dev"]).principal = "nobody" := rfl
      rw [List.find?_eq_none]
      intro r hr
      obtain rfl := List.mem_singleton.1 hr
      rw [OverrideRule.covers, hprincipal, hunmatched]
      simp
    rw [Controller.aclAt, hstrategy, Bool.eq_false_iff, Ne,
      h.has_guarded_iff hw hlisted .root (Strategy.admits_legacy_iff "admin"), hchain, hrule]
    decide
  have hrules : ∀ r ∈ deputized.authorization.overrides, r.principals.any (Filter.matchedBy "nobody") =
      r.principals.any (Filter.matchedBy Identity.systemName) := by
    intro r hr
    obtain rfl := List.mem_singleton.1 hr
    decide +kernel
  obtain ⟨halike, hpasses⟩ := users_alike Catalog.reachable_builtins hl
    (unmentioned_deputized (by decide) (by decide))
    (unmentioned_deputized (by decide) (by decide)) hrules ["dev"] fun _ => true
  have hsystem := (halike none (by simp)).has p hlisted
  exact ⟨P, hl, p, hlisted, hid, hnobody, hsystem.trans hnobody, (hpasses none).has p⟩

end Policy

end AccessPolicy
