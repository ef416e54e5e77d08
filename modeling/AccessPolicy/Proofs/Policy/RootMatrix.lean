import AccessPolicy.Proofs.Policy.Export

/-!
The root matrix of an export. The lines of a section are a root matrix also while another strategy
is in use, and count once the strategy is changed to one over matrices. An export always turns the
migration off, but only under such a strategy has it written the migrated grants down; under the
others the migration is lost, unless there was nothing to migrate.
-/
namespace AccessPolicy

variable {s : Settings} {c : Catalog} {P : Policy} {a : AuthorizationSettings} {k : String}

/-- Whoever may read the root by some line may read the objects by another. -/
def AuthorizationSettings.Migrated (a : AuthorizationSettings) : Prop :=
  ∀ sid, Grant.StatedIn ⟨Builtin.read.id, sid⟩ a.grants →
    Grant.StatedIn ⟨Builtin.itemRead.id, sid⟩ a.grants

/-- The same settings under another strategy. -/
def Settings.withStrategy (s : Settings) (k : String) : Settings :=
  { s with authorization := { s.authorization with strategy := k } }

namespace Matrix

theorem ofLines_subset_ofSettings {g : Grant} (hg : g ∈ (ofLines c a.grants).grants) :
    g ∈ (ofSettings a c).grants := by
  unfold ofSettings
  split
  · split
    · exact mem_migrateRead.2 (.inl hg)
    · exact hg
  · exact hg

/-- The migration makes a difference if it is on and some right to read the root is not yet one to
read the objects. -/
theorem ofLines_eq_ofSettings_iff (h : c.WellFormed) (hb : c.hasBuiltins = true) :
    ofLines c a.grants = ofSettings a c ↔ a.migrateLegacyRead = false ∨ a.Migrated := by
  have hread := h.lists_builtin hb .read
  have hitem := h.lists_builtin hb .itemRead
  constructor
  · intro he
    cases hm : a.migrateLegacyRead with
    | false => exact .inl rfl
    | true =>
      refine .inr ?_
      intro sid hsid
      have hg : ⟨Builtin.itemRead.id, sid⟩ ∈ (ofSettings a c).grants :=
        (mem_ofSettings_iff h hread).2 ⟨.inr ⟨hm, rfl, hsid⟩, hitem⟩
      rw [← he] at hg
      exact ((mem_ofLines_iff h).1 hg).1
  · intro hc
    ext g
    rw [mem_ofLines_iff h, mem_ofSettings_iff h hread]
    refine and_congr_left fun _ => ⟨.inl, ?_⟩
    rintro (hg | ⟨hm, hp, hg⟩)
    · exact hg
    · obtain ⟨id, sid⟩ := g
      obtain rfl : id = Builtin.itemRead.id := hp
      rcases hc with hf | hmigrated
      · simp [hf] at hm
      · exact hmigrated sid hg

end Matrix

namespace Policy

/-- An export keeps the root matrix of a strategy over matrices, and under another one the lines. -/
theorem Loaded.ofSettings_exported (h : Loaded s c .builtin P) (hc : c.WellFormed) :
    Matrix.ofSettings (P.exportSettings s).authorization P.catalog =
      if s.authorization.strategy = "global_matrix" ∨ s.authorization.strategy = "project_matrix" then
        Matrix.ofSettings s.authorization P.catalog
      else Matrix.ofLines P.catalog s.authorization.grants := by
  have hm : (P.exportSettings s).authorization.migrateLegacyRead = false := rfl
  have hg := P.grants_exportSettings s
  obtain ⟨hs, he⟩ | ⟨hs, he, -⟩ := StrategyTable.create_cases h.strategy
  · rw [he, Strategy.matrix?_ofMatrix] at hg
    rw [if_pos hs]
    exact Matrix.ofSettings_of_exported (h.wellFormed hc) hg hm
  · rw [if_neg hs, Matrix.ofSettings, hm, hg, he]
    rfl

/-- What was loaded is loaded under either strategy over matrices as well. -/
theorem Loaded.loadWith_withStrategy (h : Loaded s c .builtin P)
    (hk : k = "global_matrix" ∨ k = "project_matrix") :
    loadWith (s.withStrategy k) c .builtin = .ok { P with
      controller := { P.controller with
        strategy := .ofMatrix k (.ofSettings s.authorization P.catalog) } } := by
  refine loadWith_eq_ok_iff.2 ⟨h.catalog, ?_, h.hooks, h.items⟩
  exact StrategyTable.create_ofMatrix hk P.catalog

/-- An export never adds to the root matrix, and keeps all of it exactly if the strategy is one over
matrices or there is nothing to migrate. The same decides whether the settings and their export are
the same policy once both are changed to a strategy over matrices. -/
theorem ofSettings_exportSettings_iff (hc : c.Reachable) (hl : loadWith s c .builtin = .ok P) :
    (∀ g ∈ (Matrix.ofSettings (P.exportSettings s).authorization P.catalog).grants,
        g ∈ (Matrix.ofSettings s.authorization P.catalog).grants) ∧
      (Matrix.ofSettings (P.exportSettings s).authorization P.catalog =
          Matrix.ofSettings s.authorization P.catalog ↔
        (s.authorization.strategy = "global_matrix" ∨
            s.authorization.strategy = "project_matrix") ∨
          s.authorization.migrateLegacyRead = false ∨ s.authorization.Migrated) ∧
      ∀ k, k = "global_matrix" ∨ k = "project_matrix" →
        (loadWith ((P.exportSettings s).withStrategy k) c .builtin =
            loadWith (s.withStrategy k) c .builtin ↔
          Matrix.ofSettings (P.exportSettings s).authorization P.catalog =
            Matrix.ofSettings s.authorization P.catalog) := by
  have h := loadWith_eq_ok_iff.1 hl
  have hw := h.wellFormed hc.wellFormed
  have hexported := h.ofSettings_exported hc.wellFormed
  refine ⟨?_, ?_, ?_⟩
  · intro g hg
    rw [hexported] at hg
    split at hg
    · exact hg
    · exact Matrix.ofLines_subset_ofSettings hg
  · rw [hexported]
    by_cases hs : s.authorization.strategy = "global_matrix" ∨
        s.authorization.strategy = "project_matrix"
    · simp only [hs, if_true, true_or]
    · simp only [hs, if_false, false_or]
      exact Matrix.ofLines_eq_ofSettings_iff hw (h.hasBuiltins hc.wellFormed)
  · intro k hk
    rw [h.loadWith_withStrategy hk, (h.exported hc.wellFormed).loadWith_withStrategy hk]
    constructor
    · intro he
      have hm := congrArg (fun P : Policy => P.controller.strategy.matrix?) (Except.ok.inj he)
      simpa using hm
    · intro he
      rw [he]

/-- The migration is on and no matrix in use; whoever may read the root may read the objects. -/
def migrated : Settings where
  authorization :=
    { strategy := "unsecured"
      grants := ["hudson.model.Hudson.Read:dev", "hudson.model.Item.Read:dev"]
      migrateLegacyRead := true }

theorem ofSettings_exportSettings_migrated : ∃ P,
    loadWith migrated Catalog.builtins .builtin = .ok P ∧
    Matrix.ofSettings (P.exportSettings migrated).authorization P.catalog =
      Matrix.ofSettings migrated.authorization P.catalog ∧
    loadWith ((P.exportSettings migrated).withStrategy "global_matrix") Catalog.builtins .builtin =
      loadWith (migrated.withStrategy "global_matrix") Catalog.builtins .builtin := by
  have hl := loadWith_of_create (s := migrated) (t := .builtin) Catalog.hasBuiltins_builtins rfl rfl
    rfl
  obtain ⟨-, hiff, hswitch⟩ := ofSettings_exportSettings_iff Catalog.reachable_builtins hl
  have he := hiff.2 (.inr (.inr ?_))
  · exact ⟨_, hl, he, (hswitch _ (.inl rfl)).2 he⟩
  · rintro sid ⟨line, hline, hs⟩
    simp only [migrated, List.mem_cons, List.not_mem_nil, or_false] at hline
    rcases hline with rfl | rfl
    · have hread : Grant.StatedBy ⟨Builtin.read.id, "dev"⟩ "hudson.model.Hudson.Read:dev" := by
        decide
      obtain rfl : sid = "dev" := congrArg Grant.sid (hs.unique hread)
      decide
    · have hitem : Grant.StatedBy ⟨Builtin.itemRead.id, "dev"⟩ "hudson.model.Item.Read:dev" := by
        decide
      have hid : Builtin.read.id = Builtin.itemRead.id := congrArg Grant.permission (hs.unique hitem)
      exact absurd hid (by decide)

/-- The same with nobody reading the objects yet. -/
def unmigrated : Settings where
  authorization :=
    { strategy := "unsecured", grants := ["hudson.model.Hudson.Read:dev"], migrateLegacyRead := true }

/-- The settings are loaded, and their export has lost the migration. -/
theorem exportSettings_loses_migration : ∃ P,
    loadWith unmigrated Catalog.builtins .builtin = .ok P ∧
    Matrix.ofSettings (P.exportSettings unmigrated).authorization P.catalog ≠
      Matrix.ofSettings unmigrated.authorization P.catalog := by
  have hb := Catalog.hasBuiltins_builtins
  have hw := Catalog.reachable_builtins.wellFormed
  have hl := loadWith_of_create (s := unmigrated) (t := .builtin) hb rfl rfl rfl
  refine ⟨_, hl, ?_⟩
  rw [(loadWith_eq_ok_iff.1 hl).ofSettings_exported hw, if_neg (by decide), Ne,
    Matrix.ofLines_eq_ofSettings_iff hw hb]
  rintro (hf | hm)
  · cases hf
  · have hread : Grant.StatedIn ⟨Builtin.read.id, "dev"⟩ unmigrated.authorization.grants := by
      decide
    exact absurd (hm "dev" hread) (by decide)

end Policy

end AccessPolicy
