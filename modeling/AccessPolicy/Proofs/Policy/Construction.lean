import AccessPolicy.Proofs.Matrix.Lines
import AccessPolicy.Proofs.Override
import AccessPolicy.Proofs.Policy.Loading
import AccessPolicy.Proofs.Settings.Validation

/-!
Policies from valid settings. What validation accepts can be built unless the strategy is unknown or
a rule names no builtin permission, and the policy has one item for each object and one hook for each
rule.
-/
namespace AccessPolicy

variable {s : Settings} {c : Catalog} {P : Policy} {e : ConfigError} {serial : Nat}

/-- The rule lists the id of a builtin permission. -/
def OverrideRule.NamesBuiltin (r : OverrideRule) : Prop := ∃ b : Builtin, b.id ∈ r.permissions

/-- The ids of the catalog are those of the builtin permissions. -/
def Catalog.OnlyBuiltins (c : Catalog) : Prop :=
  ∀ id, (c.lookup id).isSome = true ↔ ∃ b : Builtin, b.id = id

theorem Catalog.OnlyBuiltins.exists_lookup_iff (h : c.OnlyBuiltins) {r : OverrideRule} :
    (∃ id ∈ r.permissions, ∃ p, c.lookup id = some p) ↔ r.NamesBuiltin := by
  simp only [← Option.isSome_iff_exists, h _, OverrideRule.NamesBuiltin]
  constructor
  · rintro ⟨_, hid, b, rfl⟩
    exact ⟨b, hid⟩
  · rintro ⟨b, hb⟩
    exact ⟨_, hb, b, rfl⟩

theorem Catalog.OnlyBuiltins.hasBuiltins (h : c.OnlyBuiltins) : c.hasBuiltins = true :=
  List.all_eq_true.2 fun b _ => (h b.id).2 ⟨b, rfl⟩

/-- What keeps valid settings from being built, by the error that reports it. -/
inductive Settings.Obstacle (s : Settings) : ConfigError → Prop
  | strategy (h : ¬ s.authorization.NamesStrategy) :
      Obstacle s (.strategyUnknown s.authorization.strategy)
  | rule (hs : s.authorization.NamesStrategy) {before after : List OverrideRule} {r : OverrideRule}
      (ho : s.authorization.overrides = before ++ r :: after)
      (hbefore : ∀ x ∈ before, x.NamesBuiltin) (hr : ¬ r.NamesBuiltin) : Obstacle s r.idleError

theorem Settings.Obstacle.category (h : s.Obstacle e) : e.category = .unknownStrategy ∧
      ¬ s.authorization.NamesStrategy ∨ e.category = .invalid ∧ s.authorization.NamesStrategy := by
  cases h with
  | strategy h => exact .inl ⟨rfl, h⟩
  | @rule hs before after r ho hbefore hr =>
    refine .inr ⟨?_, hs⟩
    rw [OverrideRule.idleError]
    split <;> rfl

theorem Settings.Obstacle.ne_builtinsMissing (h : s.Obstacle e) : e ≠ .builtinsMissing := by
  cases h with
  | strategy h => exact ConfigError.noConfusion
  | @rule hs before after r ho hbefore hr =>
    rw [OverrideRule.idleError]
    split <;> exact ConfigError.noConfusion

namespace Settings.Valid

theorem exists_compile_iff (h : s.Valid) (hc : c.OnlyBuiltins) {r : OverrideRule}
    (hr : r ∈ s.authorization.overrides) : (∃ o, r.compile c = .ok o) ↔ r.NamesBuiltin := by
  obtain ⟨hprincipals, hobjects⟩ := List.forall_mem_append.1 (h.rule_patterns r hr)
  rw [OverrideRule.exists_compile_iff, hc.exists_lookup_iff, Filter.ofSources_ok_iff,
    Filter.ofSources_ok_iff]
  exact and_iff_left ⟨hprincipals, hobjects⟩

theorem compile_eq_error_iff (h : s.Valid) (hc : c.OnlyBuiltins) {r : OverrideRule}
    (hr : r ∈ s.authorization.overrides) :
    r.compile c = .error e ↔ ¬ r.NamesBuiltin ∧ e = r.idleError := by
  have hnames : (∀ id ∈ r.permissions, c.lookup id = none) ↔ ¬ r.NamesBuiltin := by
    rw [← hc.exists_lookup_iff]
    simp only [← Option.isSome_iff_exists, ← Option.not_isSome_iff_eq_none, not_exists, not_and]
  rw [OverrideRule.compile_eq_error_iff (h.rule_patterns r hr), hnames]

theorem exists_build_iff (h : s.Valid) (hc : c.OnlyBuiltins) :
    (∃ k, Controller.build s.authorization c .builtin = .ok k) ↔
      s.authorization.NamesStrategy ∧ ∀ r ∈ s.authorization.overrides, r.NamesBuiltin := by
  have hrules : (∃ os, Controller.compileRules c s.authorization.overrides = .ok os) ↔
      ∀ r ∈ s.authorization.overrides, r.NamesBuiltin := by
    rw [Controller.exists_compileRules_iff]
    exact forall₂_congr fun r hr => h.exists_compile_iff hc hr
  rw [← StrategyTable.exists_create_iff hc.hasBuiltins, ← hrules]
  constructor
  · rintro ⟨k, hk⟩
    obtain ⟨hs, os, ho, -⟩ := Controller.build_eq_ok_iff.1 hk
    exact ⟨⟨_, hs⟩, os, ho⟩
  · rintro ⟨⟨strategy, hs⟩, os, ho⟩
    exact ⟨⟨strategy, os.map Override.toHook⟩, Controller.build_eq_ok_iff.2 ⟨hs, os, ho, rfl⟩⟩

/-- The strategy is built before the rules are compiled, and these in their order. -/
theorem build_eq_error_iff (h : s.Valid) (hc : c.OnlyBuiltins) :
    Controller.build s.authorization c .builtin = .error e ↔ s.Obstacle e := by
  rw [Controller.build_eq_error_iff, StrategyTable.create_eq_error_iff hc.hasBuiltins,
    StrategyTable.exists_create_iff hc.hasBuiltins, Controller.compileRules_eq_mapM,
    Traversal.mapM_eq_error_iff]
  constructor
  · rintro (⟨hn, rfl⟩ | ⟨hn, before, r, after, ho, hbefore, hr⟩)
    · exact .strategy hn
    · have hmem : ∀ x ∈ before ++ r :: after, x ∈ s.authorization.overrides := ho ▸ fun _ => id
      obtain ⟨hidle, rfl⟩ := (h.compile_eq_error_iff hc (hmem r (by simp))).1 hr
      refine .rule hn ho ?_ hidle
      intro x hx
      exact (h.exists_compile_iff hc (hmem x (by simp [hx]))).1 (hbefore x hx)
  · rintro (hn | @⟨hn, before, after, r, ho, hbefore, hr⟩)
    · exact .inl ⟨hn, rfl⟩
    · have hmem : ∀ x ∈ before ++ r :: after, x ∈ s.authorization.overrides := ho ▸ fun _ => id
      refine .inr ⟨hn, before, r, after, ho, ?_, ?_⟩
      · intro x hx
        exact (h.exists_compile_iff hc (hmem x (by simp [hx]))).2 (hbefore x hx)
      · exact (h.compile_eq_error_iff hc (hmem r (by simp))).2 ⟨hr, rfl⟩

end Settings.Valid

/-- The item bears the name of the object and has what the object says as its property: the flag, the
mode of inheritance, and a matrix of the grants that its lines state for permissions of the catalog. -/
structure SecuredItem.StandsFor (i : SecuredItem) (c : Catalog) (o : ObjectSettings) : Prop where
  name : i.name = o.name
  property : ∃ q, i.property = some q ∧ q.useProjectSecurity = o.useProjectSecurity ∧
    q.inheritance = o.inheritance ∧
    ∀ g, g ∈ q.matrix.grants ↔ g.StatedIn o.grants ∧ c.Lists g.permission

theorem SecuredItem.standsFor_ofSettings (h : c.WellFormed) (o : ObjectSettings) :
    (ofSettings c o).StandsFor c o :=
  ⟨rfl, _, rfl, rfl, rfl, fun _ => Matrix.mem_ofLines_iff h⟩

namespace Policy

/-- A new catalog is prepared by registering the builtin permissions and nothing else. -/
theorem prepare_fresh (serial : Nat) : ∃ c, prepare { serial } = .ok c ∧ c.OnlyBuiltins := by
  obtain ⟨c, hc, hids⟩ := Catalog.registerBuiltins_fresh serial
  have hw : c.WellFormed := (Catalog.wellFormed_empty serial).of_registerBuiltins hc
  refine ⟨c, ?_, ?_⟩
  · have hb : ({ serial } : Catalog).hasBuiltins = false := by rfl
    simp [prepare, hb, hc]
  · intro id
    rw [hw.lookup_isSome_iff, Catalog.outline, hids, List.mem_map]
    simp only [Builtin.mem_all, true_and]

/-- To load settings is to build their controller on a catalog of the builtin permissions. -/
theorem load_eq (serial : Nat) (s : Settings) : ∃ c : Catalog, c.OnlyBuiltins ∧
    load serial s = match Controller.build s.authorization c .builtin with
      | .error e => .error (.config e)
      | .ok k => .ok ⟨c, k, itemsOf c s.objects⟩ := by
  obtain ⟨c, hp, hc⟩ := prepare_fresh serial
  have hs := Controller.sameListing_hideListed c s.authorization.disabledPermissions
  refine ⟨Controller.hideListed c s.authorization.disabledPermissions, ?_, ?_⟩
  · intro id
    rw [hs.lookup]
    exact hc id
  · simp only [load, loadWith, hp, Controller.ofSettings]
    cases Controller.build s.authorization
      (Controller.hideListed c s.authorization.disabledPermissions) .builtin <;> rfl

/-- The policy is made of the parts of the settings. -/
structure MadeOf (P : Policy) (s : Settings) : Prop where
  onlyBuiltins : P.catalog.OnlyBuiltins
  strategy : StrategyTable.Builds s.authorization P.catalog P.controller.strategy
  /-- Each rule has its hook, in the same order. -/
  hooks : List.Forall₂ (fun r h => ∃ o, r.compile P.catalog = .ok o ∧ h = o.toHook)
    s.authorization.overrides P.controller.hooks
  /-- Each object has its item, and the item the property of the object. -/
  items : P.items.Perm (s.objects.map (SecuredItem.ofSettings P.catalog))
  item?_eq : ∀ o ∈ s.objects, P.item? o.name = some (.ofSettings P.catalog o)
  standsFor : ∀ o ∈ s.objects, ∃ i, P.item? o.name = some i ∧ i.StandsFor P.catalog o

/-- What becomes of settings that are loaded. -/
structure Construction (serial : Nat) (s : Settings) : Prop where
  succeeds_iff : (∃ P, load serial s = .ok P) ↔
    s.authorization.NamesStrategy ∧ ∀ r ∈ s.authorization.overrides, r.NamesBuiltin
  madeOf : ∀ P, load serial s = .ok P → P.MadeOf s
  fails_iff : ∀ e, load serial s = .error e ↔ ∃ e', s.Obstacle e' ∧ e = .config e'
  category : ∀ e, load serial s = .error (.config e) →
    e.category = .unknownStrategy ∧ ¬ s.authorization.NamesStrategy ∨
      e.category = .invalid ∧ s.authorization.NamesStrategy
  not_invalidPattern : ∀ field bad, load serial s ≠ .error (.config (.invalidPattern field bad))
  not_builtinsMissing : load serial s ≠ .error (.config .builtinsMissing)
  not_catalog : ∀ e, load serial s ≠ .error (.catalog e)

end Policy

namespace Settings.Valid

theorem exists_load_iff (h : s.Valid) (serial : Nat) : (∃ P, Policy.load serial s = .ok P) ↔
    s.authorization.NamesStrategy ∧ ∀ r ∈ s.authorization.overrides, r.NamesBuiltin := by
  obtain ⟨c, hc, hload⟩ := Policy.load_eq serial s
  rw [← h.exists_build_iff hc, hload]
  cases Controller.build s.authorization c .builtin <;> simp

theorem load_eq_error_iff (h : s.Valid) {e : PolicyError} :
    Policy.load serial s = .error e ↔ ∃ e', s.Obstacle e' ∧ e = .config e' := by
  obtain ⟨c, hc, hload⟩ := Policy.load_eq serial s
  simp only [hload, ← h.build_eq_error_iff hc]
  cases Controller.build s.authorization c .builtin <;> simp [eq_comm]

theorem obstacle (h : s.Valid) (he : Policy.load serial s = .error (.config e)) : s.Obstacle e := by
  obtain ⟨e', hobstacle, hee'⟩ := h.load_eq_error_iff.1 he
  rwa [PolicyError.config.inj hee']

theorem madeOf_of_build (h : s.Valid) (hc : c.OnlyBuiltins) (hw : c.WellFormed) {k : Controller}
    (hk : Controller.build s.authorization c .builtin = .ok k) :
    Policy.MadeOf ⟨c, k, Policy.itemsOf c s.objects⟩ s := by
  obtain ⟨hs, os, ho, hh⟩ := Controller.build_eq_ok_iff.1 hk
  rw [Controller.compileRules_eq_mapM, Traversal.mapM_eq_ok_iff] at ho
  have hitem : ∀ o ∈ s.objects,
      Policy.item? ⟨c, k, Policy.itemsOf c s.objects⟩ o.name = some (.ofSettings c o) := by
    intro o ho
    exact Policy.find?_itemsOf_of_nodup c h.object_names_nodup ho
  refine ⟨hc, StrategyTable.create_eq_ok_iff.1 hs, ?_, Policy.perm_itemsOf c h.object_names_nodup,
    hitem, ?_⟩
  · rw [hh, List.forall₂_map_right_iff]
    exact ho.imp fun r o hr => ⟨o, hr, rfl⟩
  · intro o ho
    exact ⟨_, hitem o ho, SecuredItem.standsFor_ofSettings hw o⟩

theorem madeOf_of_load (h : s.Valid) (hP : Policy.load serial s = .ok P) : P.MadeOf s := by
  have hw := (Policy.loadWith_eq_ok_iff.1 hP).wellFormed (Catalog.wellFormed_empty serial)
  obtain ⟨c, hc, hload⟩ := Policy.load_eq serial s
  rw [hload] at hP
  cases hk : Controller.build s.authorization c .builtin with
  | error e => simp [hk] at hP
  | ok k =>
    rw [hk] at hP
    cases hP
    exact h.madeOf_of_build hc hw hk

end Settings.Valid

namespace Policy

/-- Validation accepts settings for what is in them, and then they are loaded unless their strategy
is unknown or one of their rules could never apply. -/
theorem load_construction (serial : Nat) (s : Settings) : (s.validate = .ok () ↔ s.Valid) ∧
    (s.validate = .ok () → Construction serial s) := by
  refine ⟨Settings.validate_iff_valid, ?_⟩
  intro hv
  have h := Settings.validate_iff_valid.1 hv
  refine ⟨h.exists_load_iff serial, fun P => h.madeOf_of_load, fun e => h.load_eq_error_iff,
    fun e he => (h.obstacle he).category, ?_, ?_, ?_⟩
  · intro field bad he
    rcases (h.obstacle he).category with ⟨hk, -⟩ | ⟨hk, -⟩ <;> cases hk
  · intro he
    exact (h.obstacle he).ne_builtinsMissing rfl
  · intro e he
    obtain ⟨e', -, hee'⟩ := h.load_eq_error_iff.1 he
    cases hee'

/-- Objects out of order, and a rule of whose ids one is unknown. -/
def sundry : Settings where
  authorization :=
    { strategy := "project_matrix"
      disabledPermissions := ["hudson.model.Item.Build", "no.Such"]
      overrides :=
        [{ name := "freeze", permissions := ["no.Such", "hudson.model.Item.Build"],
           principals := ["^bot-"], decision := .deny }] }
  objects := [{ name := "job" }, { name := "app", useProjectSecurity := true }]

/-- A second rule lists nothing that is registered. -/
def stale : Settings :=
  { sundry with
    authorization := { sundry.authorization with
      overrides := sundry.authorization.overrides ++
        [{ name := "stale", permissions := ["plugin.Gone.Use"], decision := .allow }] } }

theorem load_construction_stale : sundry.validate = .ok () ∧
    (∃ P, load 0 sundry = .ok P ∧ P.MadeOf sundry) ∧
    stale.validate = .ok () ∧
    load 0 stale = .error (.config (.overrideUnregistered "stale" ["plugin.Gone.Use"])) := by
  have hsundry : sundry.validate = .ok () := by decide +kernel
  have hstale : stale.validate = .ok () := by decide +kernel
  have hfreeze : ∀ r ∈ sundry.authorization.overrides, r.NamesBuiltin := by
    intro r hr
    obtain rfl := List.mem_singleton.1 hr
    exact ⟨.itemBuild, by decide⟩
  have hgone : ∀ b ∈ Builtin.all, b.id ∉ ["plugin.Gone.Use"] := by decide
  refine ⟨hsundry, ?_, hstale, ?_⟩
  · have hloads := (load_construction 0 sundry).2 hsundry
    have hnames : sundry.authorization.NamesStrategy := by
      simp [AuthorizationSettings.NamesStrategy, sundry]
    obtain ⟨P, hP⟩ := hloads.succeeds_iff.2 ⟨hnames, hfreeze⟩
    exact ⟨P, hP, hloads.madeOf P hP⟩
  · refine ((load_construction 0 stale).2 hstale).fails_iff _ |>.2 ⟨_, .rule ?_ rfl hfreeze ?_, rfl⟩
    · simp [AuthorizationSettings.NamesStrategy, stale, sundry]
    · rintro ⟨b, hb⟩
      exact hgone b b.mem_all hb

end Policy

end AccessPolicy
