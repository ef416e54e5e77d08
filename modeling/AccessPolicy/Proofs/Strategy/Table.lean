import AccessPolicy.Strategy.Table

/-!
The builtin strategies and their lists. Each of the five names of the table stands for one strategy,
which takes from the section the lines and the migration, or the administrator, or nothing. It gives
one list for the whole tree, but for the project matrix at objects that ask for their own.
-/
namespace AccessPolicy

variable {c : Catalog} {a : AuthorizationSettings} {strategy : Strategy} {m : Matrix}

/-- The strategy over a matrix that goes by the name `k`. -/
def Strategy.ofMatrix (k : String) (m : Matrix) : Strategy :=
  if k = "project_matrix" then .projectMatrix m else .globalMatrix m

@[simp] theorem Strategy.matrix?_ofMatrix (k : String) (m : Matrix) :
    (ofMatrix k m).matrix? = some m := by
  unfold ofMatrix
  split <;> rfl

/-- The property of the object, which is empty if it has none. -/
def SecuredItem.own (i : SecuredItem) : MatrixProperty := i.property.getD {}

theorem SecuredItem.own_of_property {i : SecuredItem} {q : MatrixProperty}
    (h : i.property = some q) : i.own = q := by
  rw [own, h, Option.getD_some]

theorem SecuredItem.own_edit_grant (i : SecuredItem) (p : Permission) (sid : String) :
    (i.edit [.grant p sid]).own = { i.own with matrix := i.own.matrix.grant p sid } := rfl

namespace Strategy

/-- The list for the root, or for an object. -/
def aclAt (s : Strategy) : Option SecuredItem → Acl
  | none => s.rootAcl
  | some i => s.aclFor i

/-- An object that does not ask for a matrix of its own is governed by the root list. -/
theorem aclFor_projectMatrix (m : Matrix) (i : SecuredItem) :
    (projectMatrix m).aclFor i =
      if i.own.useProjectSecurity = true then i.own.acl (.matrix m) else .sids (.matrix m) := by
  unfold aclFor SecuredItem.own
  cases i.property <;> rfl

theorem aclFor_eq_rootAcl (h : ∀ m, strategy ≠ .projectMatrix m) (i : SecuredItem) :
    strategy.aclFor i = strategy.rootAcl := by
  cases strategy with
  | projectMatrix m => exact absurd rfl (h m)
  | _ => rfl

theorem aclAt_eq_rootAcl (h : ∀ m, strategy ≠ .projectMatrix m) (x : Option SecuredItem) :
    strategy.aclAt x = strategy.rootAcl := by
  cases x with
  | none => rfl
  | some i => exact aclFor_eq_rootAcl h i

/-- Under the project matrix the list is that of the root matrix, unless the object asks for its own. -/
theorem aclAt_projectMatrix_cases (m : Matrix) (x : Option SecuredItem) :
    (projectMatrix m).aclAt x = .sids (.matrix m) ∨
      ∃ i, x = some i ∧ i.own.useProjectSecurity = true ∧
        (projectMatrix m).aclAt x = i.own.acl (.matrix m) := by
  cases x with
  | none => exact .inl rfl
  | some i =>
    rw [aclAt, aclFor_projectMatrix]
    by_cases hu : i.own.useProjectSecurity = true
    · exact .inr ⟨i, rfl, hu, if_pos hu⟩
    · exact .inl (if_neg hu)

end Strategy

/-- The section names one of the builtin strategies. -/
def AuthorizationSettings.NamesStrategy (a : AuthorizationSettings) : Prop :=
  a.strategy ∈
    ["full_control_once_logged_in", "global_matrix", "legacy", "project_matrix", "unsecured"]

namespace StrategyTable

/-- The strategy that a section gets on a catalog. -/
inductive Builds (a : AuthorizationSettings) (c : Catalog) : Strategy → Prop
  | unsecured (hs : a.strategy = "unsecured") : Builds a c .unsecured
  | fullControlOnceLoggedIn (hs : a.strategy = "full_control_once_logged_in")
      (hb : c.hasBuiltins = true) : Builds a c .fullControlOnceLoggedIn
  | legacy (hs : a.strategy = "legacy") (hb : c.hasBuiltins = true) : Builds a c (.legacy a.adminSid)
  | globalMatrix (hs : a.strategy = "global_matrix") : Builds a c (.globalMatrix (.ofSettings a c))
  | projectMatrix (hs : a.strategy = "project_matrix") :
      Builds a c (.projectMatrix (.ofSettings a c))

theorem requireBuiltins_eq_ok_iff {strategy' : Strategy} :
    requireBuiltins c strategy = .ok strategy' ↔ c.hasBuiltins = true ∧ strategy = strategy' := by
  unfold requireBuiltins
  by_cases hb : c.hasBuiltins = true
  · simp [hb]
  · simp [hb]

theorem create_eq_ok_iff : builtin.create a c = .ok strategy ↔ Builds a c strategy := by
  constructor
  · intro hc
    unfold create at hc
    cases hf : builtin.factories.lookup a.strategy with
    | none => simp [hf] at hc
    | some f =>
      simp only [hf] at hc
      have hm : (a.strategy, f) ∈ builtin.factories := by
        obtain ⟨before, after, he, -⟩ := List.lookup_eq_some_iff.1 hf
        simp [he]
      simp only [builtin, List.mem_cons, Prod.mk.injEq, List.not_mem_nil, or_false] at hm
      rcases hm with ⟨hs, rfl⟩ | ⟨hs, rfl⟩ | ⟨hs, rfl⟩ | ⟨hs, rfl⟩ | ⟨hs, rfl⟩
      · obtain ⟨hb, rfl⟩ := requireBuiltins_eq_ok_iff.1 hc
        exact .fullControlOnceLoggedIn hs hb
      · cases hc
        exact .globalMatrix hs
      · obtain ⟨hb, rfl⟩ := requireBuiltins_eq_ok_iff.1 hc
        exact .legacy hs hb
      · cases hc
        exact .projectMatrix hs
      · cases hc
        exact .unsecured hs
  · intro hb
    unfold create
    cases hb with
    | unsecured hs => rw [hs]; rfl
    | fullControlOnceLoggedIn hs hb => rw [hs]; exact requireBuiltins_eq_ok_iff.2 ⟨hb, rfl⟩
    | legacy hs hb => rw [hs]; exact requireBuiltins_eq_ok_iff.2 ⟨hb, rfl⟩
    | globalMatrix hs => rw [hs]; rfl
    | projectMatrix hs => rw [hs]; rfl

theorem create_ofMatrix (h : a.strategy = "global_matrix" ∨ a.strategy = "project_matrix")
    (c : Catalog) : builtin.create a c = .ok (.ofMatrix a.strategy (.ofSettings a c)) := by
  rw [create_eq_ok_iff]
  rcases h with h | h
  · rw [h]
    exact .globalMatrix h
  · rw [h]
    exact .projectMatrix h

/-- The two strategies over matrices are built from the lines and the migration, the others from
neither. -/
theorem create_cases (hc : builtin.create a c = .ok strategy) :
    (a.strategy = "global_matrix" ∨ a.strategy = "project_matrix") ∧
        strategy = .ofMatrix a.strategy (.ofSettings a c) ∨
      ¬ (a.strategy = "global_matrix" ∨ a.strategy = "project_matrix") ∧ strategy.matrix? = none ∧
        ∀ a' : AuthorizationSettings, a'.strategy = a.strategy → a'.adminSid = a.adminSid →
          builtin.create a' c = .ok strategy := by
  cases create_eq_ok_iff.1 hc with
  | unsecured hs =>
    refine .inr ⟨by simp [hs], rfl, ?_⟩
    intro a' hs' _
    exact create_eq_ok_iff.2 (.unsecured (hs'.trans hs))
  | fullControlOnceLoggedIn hs hb =>
    refine .inr ⟨by simp [hs], rfl, ?_⟩
    intro a' hs' _
    exact create_eq_ok_iff.2 (.fullControlOnceLoggedIn (hs'.trans hs) hb)
  | legacy hs hb =>
    refine .inr ⟨by simp [hs], rfl, ?_⟩
    intro a' hs' ha'
    rw [← ha', create_eq_ok_iff]
    exact .legacy (hs'.trans hs) hb
  | globalMatrix hs => exact .inl ⟨.inl hs, by rw [hs]; rfl⟩
  | projectMatrix hs => exact .inl ⟨.inr hs, by rw [hs]; rfl⟩

theorem exists_create_iff (hb : c.hasBuiltins = true) :
    (∃ strategy, builtin.create a c = .ok strategy) ↔ a.NamesStrategy := by
  simp only [create_eq_ok_iff, AuthorizationSettings.NamesStrategy, List.mem_cons, List.not_mem_nil,
    or_false]
  constructor
  · rintro ⟨strategy, hs⟩
    cases hs with
    | unsecured hs => simp [hs]
    | fullControlOnceLoggedIn hs => simp [hs]
    | legacy hs => simp [hs]
    | globalMatrix hs => simp [hs]
    | projectMatrix hs => simp [hs]
  · rintro (hs | hs | hs | hs | hs)
    · exact ⟨_, .fullControlOnceLoggedIn hs hb⟩
    · exact ⟨_, .globalMatrix hs⟩
    · exact ⟨_, .legacy hs hb⟩
    · exact ⟨_, .projectMatrix hs⟩
    · exact ⟨_, .unsecured hs⟩

theorem create_of_not_namesStrategy (hn : ¬ a.NamesStrategy) (c : Catalog) :
    builtin.create a c = .error (.strategyUnknown a.strategy) := by
  have hf : builtin.factories.lookup a.strategy = none := by
    rw [List.lookup_eq_none_iff]
    simpa [builtin, AuthorizationSettings.NamesStrategy, bne_iff_ne] using hn
  rw [create, hf]

/-- Once the builtin permissions are there, only the name can be wrong. -/
theorem create_eq_error_iff (hb : c.hasBuiltins = true) {e : ConfigError} :
    builtin.create a c = .error e ↔ ¬ a.NamesStrategy ∧ e = .strategyUnknown a.strategy := by
  by_cases hn : a.NamesStrategy
  · obtain ⟨strategy, hs⟩ := (exists_create_iff hb).2 hn
    simp [hs, hn]
  · simp [create_of_not_namesStrategy hn, hn, eq_comm]

theorem Builds.unique {strategy' : Strategy} (h : Builds a c strategy) (h' : Builds a c strategy') :
    strategy = strategy' :=
  Except.ok.inj ((create_eq_ok_iff.2 h).symm.trans (create_eq_ok_iff.2 h'))

/-- Which strategy can be built is a matter of its name alone, once the builtin permissions are there. -/
theorem Builds.exists_of_strategy {a' : AuthorizationSettings} {c' : Catalog} (h : Builds a c strategy)
    (hs : a'.strategy = a.strategy) (hb : c'.hasBuiltins = true) :
    ∃ strategy', Builds a' c' strategy' := by
  cases h with
  | unsecured h => exact ⟨_, .unsecured (hs.trans h)⟩
  | fullControlOnceLoggedIn h _ => exact ⟨_, .fullControlOnceLoggedIn (hs.trans h) hb⟩
  | legacy h _ => exact ⟨_, .legacy (hs.trans h) hb⟩
  | globalMatrix h => exact ⟨_, .globalMatrix (hs.trans h)⟩
  | projectMatrix h => exact ⟨_, .projectMatrix (hs.trans h)⟩

/-- None of the builtin strategies restricts what may be created where. -/
theorem Builds.hasCreate (h : Builds a c strategy) (x : Option SecuredItem) (who : Identity)
    (t : Target) (kind : String) : (strategy.aclAt x).hasCreate who t kind = true := by
  cases h with
  | projectMatrix _ =>
    obtain he | ⟨i, -, -, he⟩ := Strategy.aclAt_projectMatrix_cases (.ofSettings a c) x
    · rw [he]
      rfl
    · rw [he]
      rfl
  | _ =>
    rw [Strategy.aclAt_eq_rootAcl (by simp)]
    rfl

end StrategyTable

end AccessPolicy
