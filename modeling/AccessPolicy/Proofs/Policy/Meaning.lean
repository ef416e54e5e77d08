import AccessPolicy.Proofs.Matrix.Decision
import AccessPolicy.Proofs.Matrix.Lines
import AccessPolicy.Proofs.Override
import AccessPolicy.Proofs.Policy.Loading

/-!
What a configuration with a matrix strategy means, said of its rules and lines alone. The first rule
that covers a request decides it; where none does, a line has to grant the identity the permission
or one that implies it. Parsing, migrating, compiling and the order of the tokens leave no trace.
-/
namespace AccessPolicy

variable {s : Settings} {c : Catalog} {t : StrategyTable} {P : Policy} {who : Identity}
  {p : Permission} {o : ObjectSettings}

/-- A line of the root policy grants one of the names of the identity a permission on the chain. -/
def AuthorizationSettings.Permits (a : AuthorizationSettings) (who : Identity) (p : Permission) :
    Prop :=
  ∃ q ∈ p.chain, ∃ sid ∈ who.names, a.Grants ⟨q.id, sid⟩

/-- A line of the object does, where what is granted to the anonymous user is granted to all. -/
def ObjectSettings.Permits (o : ObjectSettings) (who : Identity) (p : Permission) : Prop :=
  ∃ q ∈ p.chain, ∃ sid ∈ Sid.anonymousName :: who.names, Grant.StatedIn ⟨q.id, sid⟩ o.grants

namespace Settings

/-- The lines that apply are those of the root policy; under the project matrix an object that asks
for a matrix of its own has its own lines instead, with those of the root policy if it inherits. -/
def Permits (s : Settings) (o : Option ObjectSettings) (who : Identity) (p : Permission) : Prop :=
  match o with
  | none => s.authorization.Permits who p
  | some o =>
    if s.authorization.strategy = "project_matrix" ∧ o.useProjectSecurity = true then
      o.Permits who p ∨ o.inheritance = .global ∧ s.authorization.Permits who p
    else s.authorization.Permits who p

def targetOf (o : Option ObjectSettings) : Target := o.elim .root fun o => .object o.name

/-- The meaning of a configuration, for the root of the tree or one of its objects. -/
def Allows (s : Settings) (o : Option ObjectSettings) (who : Identity) (p : Permission) : Prop :=
  who.isSystem = true ∨
    match s.authorization.overrides.find? fun r => r.covers (targetOf o) who p with
    | some r => r.decision = .allow
    | none => s.Permits o who p

end Settings

/-- Only listed permissions are on the chain of a listed one, so it does not matter that a matrix
holds no others. -/
theorem Matrix.grantsOnChain_iff (h : c.WellFormed) (hp : p ∈ c.all) {m : Matrix}
    {states : Grant → Prop} (hm : ∀ g, g ∈ m.grants ↔ states g ∧ c.Lists g.permission)
    (names : List String) :
    m.GrantsOnChain names p ↔ ∃ q ∈ p.chain, ∃ sid ∈ names, states ⟨q.id, sid⟩ := by
  constructor
  · rintro ⟨q, hq, sid, hsid, hg⟩
    exact ⟨q, hq, sid, hsid, ((hm _).1 hg).1⟩
  · rintro ⟨q, hq, sid, hsid, hg⟩
    exact ⟨q, hq, sid, hsid, (hm _).2 ⟨hg, q, h.chain_mem hp hq, rfl⟩⟩

theorem Matrix.grantsOnChain_ofSettings_iff (h : c.WellFormed) (hr : c.Lists Builtin.read.id)
    (hp : p ∈ c.all) (a : AuthorizationSettings) :
    (ofSettings a c).GrantsOnChain who.names p ↔ a.Permits who p :=
  grantsOnChain_iff h hp (fun _ => mem_ofSettings_iff h hr) _

theorem Matrix.grantsOnChain_ofLines_iff (h : c.WellFormed) (hp : p ∈ c.all)
    (o : ObjectSettings) :
    (ofLines c o.grants).GrantsOnChain (Sid.anonymousName :: who.names) p ↔ o.Permits who p :=
  grantsOnChain_iff h hp (fun _ => mem_ofLines_iff h) _

/-- The two strategies over matrices, as the builtin table builds them. -/
theorem Policy.Loaded.strategy_eq (h : Policy.Loaded s c t P)
    (ht : t.factories.lookup s.authorization.strategy =
      StrategyTable.builtin.factories.lookup s.authorization.strategy)
    (hs : s.authorization.strategy = "global_matrix" ∨
      s.authorization.strategy = "project_matrix") :
    P.controller.strategy =
      .ofMatrix s.authorization.strategy (.ofSettings s.authorization P.catalog) := by
  have hc : StrategyTable.builtin.create s.authorization P.catalog = .ok P.controller.strategy := by
    simpa only [StrategyTable.create, ht] using h.strategy
  rw [StrategyTable.create_ofMatrix hs, Except.ok.injEq] at hc
  exact hc.symm

namespace Strategy

theorem rootAcl_matrix (k : String) (m : Matrix) : (ofMatrix k m).rootAcl = .sids (.matrix m) := by
  unfold ofMatrix
  split <;> rfl

theorem aclFor_matrix (k : String) (m : Matrix) (i : SecuredItem) (q : MatrixProperty)
    (hq : i.property = some q) :
    (ofMatrix k m).aclFor i =
      if k = "project_matrix" ∧ q.useProjectSecurity = true then q.acl (.matrix m)
      else .sids (.matrix m) := by
  unfold ofMatrix
  by_cases hk : k = "project_matrix"
  · simp [hk, aclFor, hq, rootAcl]
  · simp [hk, aclFor, rootAcl]

end Strategy

namespace Policy

/-- Before the list of the strategy is asked, the rules are. -/
theorem Loaded.has_guarded_iff (h : Loaded s c t P) (hc : P.catalog.WellFormed)
    (hp : p ∈ P.catalog.all) (x : Target) {inner : Acl} {permits : Prop}
    (hi : inner.admits who p = true ↔ permits) :
    (Acl.guarded x P.controller.hooks inner).has who p = true ↔ who.isSystem = true ∨
      match s.authorization.overrides.find? fun r => r.covers x who p with
      | some r => r.decision = .allow
      | none => permits := by
  obtain ⟨os, hos, hh⟩ := h.hooks
  have hconsult : Hook.consult (os.map Override.toHook) x who p =
      (s.authorization.overrides.find? fun r => r.covers x who p).map fun r => r.decision == .allow :=
    Controller.consult_compileRules hc hp hos
  rw [Acl.has, Acl.admits_guarded, hh, hconsult, Bool.or_eq_true]
  cases s.authorization.overrides.find? fun r => r.covers x who p with
  | none => simpa using or_congr_right hi
  | some r => simp

theorem Loaded.lists_read (h : Loaded s c t P) (hc : P.catalog.WellFormed)
    (hb : c.hasBuiltins = true) : P.catalog.Lists Builtin.read.id := by
  obtain ⟨p, hp⟩ := Catalog.exists_lookup_builtin hb .read
  rw [← (h.sameListing hb).lookup] at hp
  exact ⟨p, hc.lookup_eq_some_iff.1 hp⟩

/-- A loaded policy allows what its configuration allows, to every identity and for every listed
permission, at the root and at each object. -/
theorem has_iff_allows (hc : c.Reachable) (hb : c.hasBuiltins = true)
    (hd : (s.objects.map ObjectSettings.name).Nodup)
    (hs : s.authorization.strategy = "global_matrix" ∨
      s.authorization.strategy = "project_matrix")
    (ht : t.factories.lookup s.authorization.strategy =
      StrategyTable.builtin.factories.lookup s.authorization.strategy)
    (hl : loadWith s c t = .ok P) (hp : p ∈ c.all) (who : Identity) :
    ((P.controller.aclAt none).has who p = true ↔ s.Allows none who p) ∧
      ∀ o ∈ s.objects, ∃ i, P.item? o.name = some i ∧
        ((P.controller.aclAt (some i)).has who p = true ↔ s.Allows (some o) who p) := by
  have h := loadWith_eq_ok_iff.1 hl
  have hw := h.wellFormed hc.wellFormed
  have hr := h.lists_read hw hb
  rw [← (h.sameListing hb).all] at hp
  have hstrategy := h.strategy_eq ht hs
  have hroot : (Acl.sids (.matrix (.ofSettings s.authorization P.catalog))).admits who p = true ↔
      s.authorization.Permits who p :=
    Matrix.admits_matrix_iff.trans (Matrix.grantsOnChain_ofSettings_iff hw hr hp _)
  refine ⟨?_, ?_⟩
  · rw [Controller.aclAt, hstrategy, Strategy.rootAcl_matrix]
    exact h.has_guarded_iff hw hp .root hroot
  · intro o ho
    refine ⟨.ofSettings P.catalog o, ?_, ?_⟩
    · rw [item?, h.items]
      exact find?_itemsOf_of_nodup P.catalog hd ho
    · rw [Controller.aclAt, hstrategy, Strategy.aclFor_matrix _ _ _ _ rfl]
      refine h.has_guarded_iff hw hp (.object o.name) ?_
      have hown : (MatrixProperty.ofSettings P.catalog o).useProjectSecurity =
        o.useProjectSecurity := rfl
      rw [hown, Settings.Permits]
      by_cases hu : s.authorization.strategy = "project_matrix" ∧ o.useProjectSecurity = true
      · rw [if_pos hu, if_pos hu, MatrixProperty.admits_acl_iff]
        exact or_congr (Matrix.grantsOnChain_ofLines_iff hw hp o)
          (and_congr_right fun _ => Matrix.grantsOnChain_ofSettings_iff hw hr hp _)
      · rw [if_neg hu, if_neg hu]
        exact hroot

/-- An object that visitors may read, below a root that only one principal may read. -/
def openProject : Settings where
  authorization :=
    { strategy := "project_matrix", grants := ["hudson.model.Hudson.Read:bob"]
      migrateLegacyRead := true }
  objects :=
    [{ name := "job", useProjectSecurity := true, inheritance := .global
       grants := ["\thudson.model.Item.Read:anonymous "] }]

/-- Whoever logged in may read the object as the anonymous user may, but not the root. -/
theorem has_iff_allows_openProject : ∃ P p i,
    Catalog.builtins.lookup Builtin.itemRead.id = some p ∧
    loadWith openProject Catalog.builtins .builtin = .ok P ∧ P.item? "job" = some i ∧
    (P.controller.aclAt (some i)).has (.user "ann" []) p = true ∧
    (P.controller.aclAt none).has (.user "ann" []) p = false := by
  have hr := Catalog.reachable_builtins
  have hb := Catalog.hasBuiltins_builtins
  obtain ⟨p, hp⟩ := Catalog.exists_lookup_builtin hb .itemRead
  obtain ⟨hm, hid⟩ := hr.wellFormed.lookup_eq_some_iff.1 hp
  have hl := loadWith_of_create (s := openProject) (t := .builtin) hb rfl rfl rfl
  obtain ⟨hroot, hobjects⟩ :=
    has_iff_allows hr hb (by decide) (.inr rfl) rfl hl hm (.user "ann" [])
  obtain ⟨i, hi, hobject⟩ := hobjects _ (List.mem_singleton_self _)
  refine ⟨_, p, i, hp, hl, hi, hobject.2 (.inr ?_), ?_⟩
  · have hne : Sid.anonymousName ≠ "" := by decide
    refine .inl ⟨p, p.self_mem_chain, Sid.anonymousName, List.mem_cons_self, _,
      List.mem_singleton_self _, Grant.statedBy_iff.2 ⟨?_, hne⟩⟩
    rw [hid]
    decide
  · rw [Bool.eq_false_iff, Ne, hroot]
    -- the only line is for another principal, and so is what the migration makes of it
    have hline : ∀ id sid, Grant.StatedIn ⟨id, sid⟩ openProject.authorization.grants →
        sid = "bob" := by
      rintro id sid ⟨line, hline, hs⟩
      obtain rfl := List.mem_singleton.1 hline
      have hparts : Text.cutAtFirst ':' (Text.trim "hudson.model.Hudson.Read:bob") =
          some ("hudson.model.Hudson.Read", "bob") := by decide
      have hcut := (Grant.statedBy_iff.1 hs).1
      rw [hparts, Option.some.injEq, Prod.mk.injEq] at hcut
      exact hcut.2.symm
    rintro (hs | ⟨q, -, sid, hsid, hg⟩)
    · cases hs
    · have he : sid = "bob" := by
        rcases hg with hg | ⟨-, -, hg⟩
        · exact hline _ _ hg
        · exact hline _ _ hg
      rw [he] at hsid
      exact absurd hsid (by decide)

/-- A line whose token has no name. -/
def namelessLine : Settings where
  authorization := { grants := ["hudson.model.Hudson.Read:"] }

/-- A line without a token is left out, so it grants nothing to a principal without a name, although
it is the permission, a colon and that name. -/
theorem nameless_line_grants_nothing : ∃ P p, Catalog.builtins.lookup Builtin.read.id = some p ∧
    loadWith namelessLine Catalog.builtins .builtin = .ok P ∧
    namelessLine.authorization.overrides = [] ∧
    (∃ line ∈ namelessLine.authorization.grants,
      Text.trim line = p.id ++ ":" ++ (Identity.user "" []).principal ∧ ':' ∉ p.id.toList) ∧
    (P.controller.aclAt none).has (.user "" []) p = false := by
  have hb := Catalog.hasBuiltins_builtins
  have hw := Catalog.reachable_builtins.wellFormed
  obtain ⟨p, hp⟩ := Catalog.exists_lookup_builtin hb .read
  obtain ⟨hm, hid⟩ := hw.lookup_eq_some_iff.1 hp
  have hl := loadWith_of_create (s := namelessLine) (t := .builtin) hb rfl rfl rfl
  refine ⟨_, p, hp, hl, rfl, ⟨_, List.mem_singleton_self _, ?_, ?_⟩, ?_⟩
  · rw [hid]
    decide
  · rw [hid]
    decide
  · have h := loadWith_eq_ok_iff.1 hl
    rw [Bool.eq_false_iff, Ne, Acl.has, Bool.or_eq_true]
    rintro (hs | ha)
    · cases hs
    · have ha' := Matrix.admits_matrix_iff.1 ha
      rw [Matrix.grantsOnChain_ofSettings_iff hw ⟨p, hm, hid⟩ hm] at ha'
      obtain ⟨q, -, sid, -, ⟨line, hline, hs⟩ | ⟨hf, -⟩⟩ := ha'
      · obtain ⟨hcut, hne⟩ := Grant.statedBy_iff.1 hs
        obtain rfl := List.mem_singleton.1 hline
        have hparts : Text.cutAtFirst ':' (Text.trim "hudson.model.Hudson.Read:") =
            some ("hudson.model.Hudson.Read", "") := by decide
        rw [hparts, Option.some.injEq, Prod.mk.injEq] at hcut
        exact hne hcut.2.symm
      · cases hf

end Policy

end AccessPolicy
