import AccessPolicy.Proofs.Matrix.Decision
import AccessPolicy.Proofs.Matrix.Lines
import AccessPolicy.Proofs.Strategy.Fixed

/-!
The migration of read grants. Only who was granted the read permission of the root by that very name is
granted the one of objects, yet afterwards whoever reads the root reads the objects: all that implies the
one implies the other, because both stand below the same builtin permission. Nothing else changes.
-/
namespace AccessPolicy

variable {c : Catalog} {m : Matrix} {p q read item : Permission} {names : List String}

/-- Builtin permissions that were declared below the same one have the same ancestors. -/
theorem Catalog.ExtendsBuiltins.ancestors_eq (h : c.ExtendsBuiltins) {a b : Builtin}
    (hp : c.lookup a.id = some p) (hq : c.lookup b.id = some q) (hab : a.parent? = b.parent?) :
    p.ancestors = q.ancestors := by
  have hw := h.wellFormed
  obtain ⟨hpm, hpid⟩ := hw.lookup_eq_some_iff.1 hp
  obtain ⟨hqm, hqid⟩ := hw.lookup_eq_some_iff.1 hq
  have hparents : p.parent?.map Permission.id = q.parent?.map Permission.id := by
    rw [h.map_id_parent? hpm hpid, h.map_id_parent? hqm hqid, hab]
  cases p with
  | root self =>
    cases q with
    | root self' => rfl
    | implied self' r' => cases hparents
  | implied self r =>
    cases q with
    | root self' => cases hparents
    | implied self' r' =>
      have hr := hw.eq_of_id_eq (hw.parent_mem hpm rfl) (hw.parent_mem hqm rfl)
        (Option.some.inj hparents)
      exact congrArg Permission.chain hr

/-- What stands above the one stands above the other. -/
theorem Permission.mem_chainIds_of_ancestors_eq {id : String} (ha : p.ancestors = q.ancestors)
    (hid : id ∈ p.chainIds) (hne : id ≠ p.id) : id ∈ q.chainIds := by
  rw [chainIds, chain_eq_cons, List.map_cons, List.mem_cons] at hid ⊢
  exact .inr (ha ▸ hid.resolve_left hne)

namespace Matrix

theorem allows_iff {sid : String} : m.allows sid p = true ↔ m.GrantsOnChain [sid] p := by
  simp [allows, GrantsOnChain, grantsExactly_iff]

/-- Only permissions that the read permission of objects implies are given to anybody else. -/
theorem grantsOnChain_migrateRead_iff :
    (m.migrateRead read item).GrantsOnChain names p ↔
      m.GrantsOnChain names p ∨
        item.id ∈ p.chainIds ∧ ∃ sid ∈ names, ⟨read.id, sid⟩ ∈ m.grants := by
  simp only [GrantsOnChain, mem_migrateRead]
  constructor
  · rintro ⟨q, hq, sid, hsid, hg | ⟨hid, hg⟩⟩
    · exact .inl ⟨q, hq, sid, hsid, hg⟩
    · exact .inr ⟨List.mem_map.2 ⟨q, hq, hid⟩, sid, hsid, hg⟩
  · rintro (⟨q, hq, sid, hsid, hg⟩ | ⟨hid, sid, hsid, hg⟩)
    · exact ⟨q, hq, sid, hsid, .inl hg⟩
    · obtain ⟨q, hq, hid⟩ := List.mem_map.1 hid
      exact ⟨q, hq, sid, hsid, .inr ⟨hid, hg⟩⟩

/-- The migration adds no grant of the permission that it starts from. -/
theorem mem_migrateRead_read {sid : String} :
    ⟨read.id, sid⟩ ∈ (m.migrateRead read item).grants ↔ ⟨read.id, sid⟩ ∈ m.grants := by
  rw [mem_migrateRead, or_iff_left_iff_imp]
  exact And.right

theorem migrateRead_migrateRead :
    (m.migrateRead read item).migrateRead read item = m.migrateRead read item := by
  ext g
  rw [mem_migrateRead, mem_migrateRead_read, mem_migrateRead, or_assoc, or_self]

/-- After the migration, who holds the one permission holds the other, however it is implied. -/
theorem GrantsOnChain.migrated (ha : read.ancestors = item.ancestors)
    (h : (m.migrateRead read item).GrantsOnChain names read) :
    (m.migrateRead read item).GrantsOnChain names item := by
  obtain ⟨q, hq, sid, hsid, hg⟩ := h
  rw [read.chain_eq_cons, List.mem_cons] at hq
  rcases hq with rfl | hq
  · have hread := mem_migrateRead_read.1 hg
    exact ⟨item, item.self_mem_chain, sid, hsid, mem_migrateRead.2 (.inr ⟨rfl, hread⟩)⟩
  · have hchain : q ∈ item.chain := by
      rw [item.chain_eq_cons, ← ha]
      exact List.mem_cons_of_mem _ hq
    exact ⟨q, hchain, sid, hsid, hg⟩

/-- With the migration on, a root matrix is what its lines grant, migrated. -/
theorem ofSettings_of_migrate {a : AuthorizationSettings} (hm : a.migrateLegacyRead = true)
    (hr : c.lookup Builtin.read.id = some read) (hi : c.lookup Builtin.itemRead.id = some item) :
    ofSettings a c = (ofLines c a.grants).migrateRead read item := by
  simp [ofSettings, hm, hr, hi]

/-- What the migration of a matrix `m` comes to. -/
structure ReadMigration (c : Catalog) (read item : Permission) (m m' : Matrix) : Prop where
  mem_grants_iff : ∀ g, g ∈ m'.grants ↔
    g ∈ m.grants ∨ g.permission = item.id ∧ ⟨read.id, g.sid⟩ ∈ m.grants
  /-- Whoever reads the root reads the objects, also if it only follows from another grant. -/
  reads_items : ∀ sid, m'.allows sid read = true → m'.allows sid item = true
  allows_eq : ∀ p ∈ c.all, item ∉ p.chain → ∀ sid, m'.allows sid p = m.allows sid p
  idempotent : m'.migrateRead read item = m'

theorem readMigration (hc : c.WellFormed) (hi : item ∈ c.all) (ha : read.ancestors = item.ancestors)
    (m : Matrix) : m.ReadMigration c read item (m.migrateRead read item) where
  mem_grants_iff _ := mem_migrateRead
  reads_items sid hread := allows_iff.2 ((allows_iff.1 hread).migrated ha)
  allows_eq p hp hout sid := by
    have hid : item.id ∉ p.chainIds := mt (hc.id_mem_chainIds_iff hp hi).1 hout
    rw [Bool.eq_iff_iff, allows_iff, allows_iff, grantsOnChain_migrateRead_iff]
    simp only [hid, false_and, or_false]
  idempotent := migrateRead_migrateRead

end Matrix

namespace Strategy

/-- A root matrix that was migrated lets whoever reads the root read the objects. -/
theorem has_matrix_migrated (ha : read.ancestors = item.ancestors)
    (h : (Acl.sids (.matrix (m.migrateRead read item))).has who read = true) :
    (Acl.sids (.matrix (m.migrateRead read item))).has who item = true := by
  rw [Acl.has, Bool.or_eq_true, Matrix.admits_matrix_iff] at h ⊢
  exact h.imp_right (Matrix.GrantsOnChain.migrated ha)

/-- A strategy that was built with the migration lets whoever reads the root read the objects. The ones
without a matrix know the two permissions only by what implies them both. -/
theorem has_item_of_has_read (hc : c.ExtendsBuiltins) (hr : c.lookup Builtin.read.id = some read)
    (hi : c.lookup Builtin.itemRead.id = some item) {a : AuthorizationSettings} {st : Strategy}
    (hm : a.migrateLegacyRead = true) (hs : StrategyTable.Builds a c st)
    (h : (st.aclAt none).has who read = true) : (st.aclAt none).has who item = true := by
  have hanc := hc.ancestors_eq hr hi rfl
  obtain ⟨hrm, hrid⟩ := hc.wellFormed.lookup_eq_some_iff.1 hr
  obtain ⟨him, -⟩ := hc.wellFormed.lookup_eq_some_iff.1 hi
  have hgeneric : Builtin.genericRead.id ∈ read.chainIds → Builtin.genericRead.id ∈ item.chainIds :=
    fun hid => Permission.mem_chainIds_of_ancestors_eq hanc hid (hrid ▸ by decide)
  have hadminister : Builtin.administer.id ∈ read.chainIds → Builtin.administer.id ∈ item.chainIds :=
    fun hid => Permission.mem_chainIds_of_ancestors_eq hanc hid (hrid ▸ by decide)
  have hsettings := Matrix.ofSettings_of_migrate hm hr hi
  cases hs with
  | unsecured _ => exact has_unsecured none
  | fullControlOnceLoggedIn _ _ =>
    rw [has_fullControlOnceLoggedIn_iff hc hrm] at h
    rw [has_fullControlOnceLoggedIn_iff hc him]
    exact h.imp_right (Or.imp (And.imp_right hadminister) (And.imp_right hgeneric))
  | legacy _ _ =>
    rw [has_legacy_iff] at h ⊢
    exact h.imp_right (Or.imp hgeneric (And.imp_right hadminister))
  | globalMatrix _ =>
    rw [hsettings] at h ⊢
    exact has_matrix_migrated hanc h
  | projectMatrix _ =>
    rw [hsettings] at h ⊢
    exact has_matrix_migrated hanc h

/-- Over any catalog with the builtin permissions, the migration gives the read permission of objects to
those who were granted the one of the root, and to nobody else anything. It is enough for all who read
the root, and under a strategy that was built with it, to every identity. -/
theorem read_migration (hc : c.ExtendsBuiltins) : ∃ read item,
    c.lookup Builtin.read.id = some read ∧ c.lookup Builtin.itemRead.id = some item ∧
      (∀ m : Matrix, m.ReadMigration c read item (m.migrateRead read item)) ∧
      ∀ (a : AuthorizationSettings) (st : Strategy), a.migrateLegacyRead = true →
        StrategyTable.builtin.create a c = .ok st →
          (∀ m, st.matrix? = some m → m = (Matrix.ofLines c a.grants).migrateRead read item) ∧
          ∀ who, st.rootAcl.has who read = true → st.rootAcl.has who item = true := by
  obtain ⟨read, hr, -⟩ := hc.lookup_builtin .read
  obtain ⟨item, hi, -⟩ := hc.lookup_builtin .itemRead
  have him := (hc.wellFormed.lookup_eq_some_iff.1 hi).1
  refine ⟨read, item, hr, hi, Matrix.readMigration hc.wellFormed him (hc.ancestors_eq hr hi rfl), ?_⟩
  intro a st hm hs
  refine ⟨?_, ?_⟩
  · intro m hst
    rw [← Matrix.ofSettings_of_migrate hm hr hi]
    obtain ⟨-, rfl⟩ | ⟨-, hnone, -⟩ := StrategyTable.create_cases hs
    · rw [matrix?_ofMatrix, Option.some.injEq] at hst
      exact hst.symm
    · rw [hnone] at hst
      cases hst
  · exact fun who => has_item_of_has_read hc hr hi hm (StrategyTable.create_eq_ok_iff.1 hs)

/-- Some may read the root by name, and others because they may read anything. -/
def readers : AuthorizationSettings :=
  { strategy := "global_matrix"
    grants := ["hudson.model.Hudson.Read:dev", "hudson.security.Permission.GenericRead:ops"]
    migrateLegacyRead := true }

/-- A root matrix lets a group hold what its lines grant the group above the permission. -/
theorem has_matrix_of_statedIn (hc : c.WellFormed) (hb : c.hasBuiltins = true)
    {a : AuthorizationSettings} {b : Builtin} {name group : String} (hid : b.id ∈ p.chainIds)
    (hs : Grant.StatedIn ⟨b.id, group⟩ a.grants) :
    (Acl.sids (.matrix (.ofSettings a c))).has (.user name [group]) p = true := by
  obtain ⟨q, hq, hqid⟩ := List.mem_map.1 hid
  have hg : ⟨q.id, group⟩ ∈ (Matrix.ofSettings a c).grants := by
    rw [Matrix.mem_ofSettings_iff hc (hc.lists_builtin hb .read), hqid]
    exact ⟨.inl hs, hc.lists_builtin hb b⟩
  rw [Acl.has, Bool.or_eq_true, Matrix.admits_matrix_iff]
  exact .inr ⟨q, hq, group, by simp [Identity.names, Identity.user], hg⟩

/-- Whoever is in the one group or the other reads the objects too. -/
theorem read_migration_readers : ∃ read item st,
    Catalog.builtins.lookup Builtin.read.id = some read ∧
      Catalog.builtins.lookup Builtin.itemRead.id = some item ∧
      StrategyTable.builtin.create readers Catalog.builtins = .ok st ∧
      ∀ group ∈ ["dev", "ops"], st.rootAcl.has (.user "ann" [group]) read = true ∧
        st.rootAcl.has (.user "ann" [group]) item = true := by
  have hc := Catalog.extendsBuiltins_builtins
  obtain ⟨read, item, hr, hi, -, hstrategy⟩ := read_migration hc
  have hs := StrategyTable.create_ofMatrix (a := readers) (.inl rfl) Catalog.builtins
  obtain ⟨-, hitems⟩ := hstrategy readers _ rfl hs
  obtain ⟨hrm, hrid⟩ := hc.wellFormed.lookup_eq_some_iff.1 hr
  have hparent := hc.map_id_parent? hrm hrid
  obtain ⟨generic, hgeneric, hgid⟩ := Option.map_eq_some_iff.1 hparent
  have hreads : ∀ group ∈ ["dev", "ops"],
      (Strategy.ofMatrix readers.strategy (.ofSettings readers Catalog.builtins)).rootAcl.has
        (.user "ann" [group]) read = true := by
    intro group hgroup
    simp only [List.mem_cons, List.not_mem_nil, or_false] at hgroup
    rcases hgroup with rfl | rfl
    · exact has_matrix_of_statedIn (b := .read) hc.wellFormed hc.hasBuiltins
        (hrid ▸ read.id_mem_chainIds) (by decide)
    · exact has_matrix_of_statedIn (b := .genericRead) hc.wellFormed hc.hasBuiltins
        (hgid ▸ List.mem_map_of_mem (Permission.mem_chain_of_parent hgeneric)) (by decide)
  exact ⟨read, item, _, hr, hi, hs, fun group hg => ⟨hreads group hg, hitems _ (hreads group hg)⟩⟩

end Strategy

end AccessPolicy
