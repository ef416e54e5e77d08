import AccessPolicy.Proofs.Acl.Permissive
import AccessPolicy.Proofs.Catalog.Forest
import AccessPolicy.Proofs.Strategy.Table

/-!
The strategies without a matrix, said without entries. Where whoever logged in administers, the
anonymous user is denied to administer and yet may read, because reading stands below administering
and is met first on every chain. The strategy with a single administrator denies nothing. What these
strategies say holds at the root and at every object, whatever else the catalog lists.
-/
namespace AccessPolicy.Strategy

variable {c : Catalog} {who : Identity} {p : Permission}

theorem first?_onceLoggedInEntries (id : String) :
    Entry.first? onceLoggedInEntries .anonymous id =
      if id = Builtin.administer.id then some false
      else if id = Builtin.genericRead.id then some true else none := by
  have hne : Builtin.administer.id ≠ Builtin.genericRead.id := by decide
  by_cases ha : id = Builtin.administer.id
  · subst ha
    rfl
  · by_cases hr : id = Builtin.genericRead.id
    · subst hr
      rfl
    · simp [Entry.first?, onceLoggedInEntries, Sid.anonymous, ha, hr, Ne.symm ha, Ne.symm hr]

/-- Nothing stands above administering, so a chain with the generic right to read comes to it first. -/
theorem decide_onceLoggedInEntries
    (hroot : ∀ q ∈ p.chain, q.id = Builtin.administer.id → q.parent? = none) :
    Entry.decide onceLoggedInEntries .anonymous p = some true ↔
      Builtin.genericRead.id ∈ p.chainIds := by
  have hne : Builtin.genericRead.id ≠ Builtin.administer.id := by decide
  induction p with
  | root self =>
    rw [Entry.decide_root, first?_onceLoggedInEntries, Permission.chainIds_root, List.mem_singleton]
    by_cases hr : Builtin.genericRead.id = (Permission.root self).id
    · simp [← hr, hne]
    · rw [if_neg (Ne.symm hr)]
      split <;> simp [hr]
  | implied self q ih =>
    have ha : (Permission.implied self q).id ≠ Builtin.administer.id := by
      intro ha
      cases hroot _ (Permission.self_mem_chain _) ha
    have hq : Entry.decide onceLoggedInEntries .anonymous q = some true ↔
        Builtin.genericRead.id ∈ q.chainIds := ih fun r hr => hroot r (List.mem_cons_of_mem _ hr)
    rw [Entry.decide_implied, first?_onceLoggedInEntries, if_neg ha, Permission.chainIds_implied,
      List.mem_cons, ← hq]
    by_cases hr : Builtin.genericRead.id = (Permission.implied self q).id
    · simp [← hr]
    · simp [hr, Ne.symm hr]

theorem mem_onceLoggedInEntries {e : Entry} :
    e ∈ onceLoggedInEntries ↔ e = ⟨.everyone, Builtin.administer.id, true⟩ ∨
      e = ⟨.anonymous, Builtin.administer.id, false⟩ ∨
      e = ⟨.anonymous, Builtin.genericRead.id, true⟩ := by
  simp [onceLoggedInEntries]

/-- The anonymous user is never thrown back on what everybody may do, for whatever administering implies
it is denied or allowed by itself. -/
theorem resolve_onceLoggedInEntries (hn : who.principal = Sid.anonymousName) :
    ((Oracle.entries onceLoggedInEntries).resolve who p).getD false = true ↔
      Entry.decide onceLoggedInEntries .anonymous p = some true := by
  have hs : Sid.principal who.principal = .anonymous := by rw [hn]; rfl
  cases hd : Entry.decide onceLoggedInEntries .anonymous p with
  | some allow =>
    rw [Oracle.resolve_of_principal (hs ▸ hd)]
    simp
  | none =>
    -- every permission of the list comes up in an entry for the anonymous user
    have hnone := Entry.decide_eq_none_iff.1 hd
    have hsilent : ∀ e ∈ onceLoggedInEntries, e.permission ∉ p.chainIds := by
      intro e he
      rcases mem_onceLoggedInEntries.1 he with rfl | rfl | rfl
      · exact hnone ⟨.anonymous, Builtin.administer.id, false⟩ (by simp [mem_onceLoggedInEntries]) rfl
      · exact hnone _ he rfl
      · exact hnone _ he rfl
    have hr : (Oracle.entries onceLoggedInEntries).resolve who p = none := by
      rw [Oracle.resolve, List.findSome?_eq_none_iff]
      intro s _
      exact Entry.decide_eq_none_iff.2 fun e he _ => hsilent e he
    simp [hr]

/-- Whoever logged in holds what administering implies, and the anonymous user what the generic right
to read implies. -/
theorem admits_fullControlOnceLoggedIn_iff (h : c.ExtendsBuiltins) (hp : p ∈ c.all) :
    fullControlOnceLoggedIn.rootAcl.admits who p = true ↔
      if who.principal = Sid.anonymousName then Builtin.genericRead.id ∈ p.chainIds
      else Builtin.administer.id ∈ p.chainIds := by
  rw [rootAcl, Acl.admits_sids]
  by_cases hn : who.principal = Sid.anonymousName
  · rw [if_pos hn, resolve_onceLoggedInEntries hn, decide_onceLoggedInEntries]
    intro q hq hid
    have hparent := h.map_id_parent? (h.wellFormed.chain_mem hp hq) hid
    exact Option.map_eq_none_iff.1 hparent
  · have hmem : Sid.anonymous ∉ who.sids := by
      intro hm
      rcases Identity.mem_sids.1 hm with hs | ⟨g, -, hs⟩ | hs
      · exact hn (Sid.principal.inj hs).symm
      · cases hs
      · cases hs
    rw [if_neg hn, Oracle.resolve_entries_iff]
    · constructor
      · rintro ⟨e, he, hs, hid⟩
        rcases mem_onceLoggedInEntries.1 he with rfl | rfl | rfl
        · exact hid
        · exact absurd hs hmem
        · exact absurd hs hmem
      · intro hid
        exact ⟨_, mem_onceLoggedInEntries.2 (.inl rfl), by simp [Identity.mem_sids], hid⟩
    · intro e he hs
      rcases mem_onceLoggedInEntries.1 he with rfl | rfl | rfl
      · rfl
      · exact absurd hs hmem
      · rfl

/-- Everybody holds what the generic right to read implies, and the administrator what administering
does. -/
theorem admits_legacy_iff (admin : String) :
    (legacy admin).rootAcl.admits who p = true ↔
      Builtin.genericRead.id ∈ p.chainIds ∨
        who.principal = admin ∧ Builtin.administer.id ∈ p.chainIds := by
  have ha : ∀ e ∈ legacyEntries admin, e.sid ∈ who.sids → e.allow = true := by
    intro e he _
    simp only [legacyEntries, List.mem_cons, List.not_mem_nil, or_false] at he
    rcases he with rfl | rfl
    · rfl
    · rfl
  rw [rootAcl, Acl.admits_sids, Oracle.resolve_entries_iff ha]
  simp [legacyEntries, Identity.mem_sids, eq_comm]

/-- The anonymous user is told by its name, so a user who goes by that name is no better off. -/
theorem has_fullControlOnceLoggedIn_iff (h : c.ExtendsBuiltins) (hp : p ∈ c.all)
    (x : Option SecuredItem) :
    (fullControlOnceLoggedIn.aclAt x).has who p = true ↔
      who.isSystem = true ∨
        who.principal ≠ Sid.anonymousName ∧ Builtin.administer.id ∈ p.chainIds ∨
        who.principal = Sid.anonymousName ∧ Builtin.genericRead.id ∈ p.chainIds := by
  rw [aclAt_eq_rootAcl (by simp), Acl.has, Bool.or_eq_true,
    admits_fullControlOnceLoggedIn_iff h hp]
  by_cases hn : who.principal = Sid.anonymousName
  · simp [hn]
  · simp [hn]

theorem has_legacy_iff (admin : String) (x : Option SecuredItem) :
    ((legacy admin).aclAt x).has who p = true ↔
      who.isSystem = true ∨ Builtin.genericRead.id ∈ p.chainIds ∨
        who.principal = admin ∧ Builtin.administer.id ∈ p.chainIds := by
  rw [aclAt_eq_rootAcl (by simp), Acl.has, Bool.or_eq_true, admits_legacy_iff]

theorem has_unsecured (x : Option SecuredItem) : (unsecured.aclAt x).has who p = true := by
  rw [aclAt_eq_rootAcl (by simp), Acl.has, Bool.or_eq_true]
  exact .inr rfl

/-- In every catalog with the builtin permissions, the strategies without a matrix can be built, and
allow at the root and at any object just what their names promise. A group that goes by the name of the
administrator has no part in it. -/
theorem has_of_fixed (h : c.ExtendsBuiltins) (hp : p ∈ c.all) (a : AuthorizationSettings)
    (who : Identity) (x : Option SecuredItem) :
    (a.strategy = "full_control_once_logged_in" →
        ∃ st, StrategyTable.builtin.create a c = .ok st ∧
          ((st.aclAt x).has who p = true ↔
            who.isSystem = true ∨
              who.principal ≠ Sid.anonymousName ∧ Builtin.administer.id ∈ p.chainIds ∨
              who.principal = Sid.anonymousName ∧ Builtin.genericRead.id ∈ p.chainIds)) ∧
      (a.strategy = "legacy" →
        ∃ st, StrategyTable.builtin.create a c = .ok st ∧
          ((st.aclAt x).has who p = true ↔
            who.isSystem = true ∨ Builtin.genericRead.id ∈ p.chainIds ∨
              who.principal = a.adminSid ∧ Builtin.administer.id ∈ p.chainIds)) ∧
      (a.strategy = "unsecured" →
        ∃ st, StrategyTable.builtin.create a c = .ok st ∧ (st.aclAt x).has who p = true) := by
  have hb := h.hasBuiltins
  refine ⟨?_, ?_, ?_⟩
  · intro hs
    exact ⟨_, StrategyTable.create_eq_ok_iff.2 (.fullControlOnceLoggedIn hs hb),
      has_fullControlOnceLoggedIn_iff h hp x⟩
  · intro hs
    exact ⟨_, StrategyTable.create_eq_ok_iff.2 (.legacy hs hb), has_legacy_iff a.adminSid x⟩
  · intro hs
    exact ⟨_, StrategyTable.create_eq_ok_iff.2 (.unsecured hs), has_unsecured x⟩

/-- A permission that nothing but administering implies. -/
theorem exists_deploy : ∃ (c : Catalog) (p : Permission), c.ExtendsBuiltins ∧ p ∈ c.all ∧
    p.chainIds = ["tools.Deploy", Builtin.administer.id] := by
  have hf : "tools.Deploy" ∉ Catalog.builtins.all.map Permission.id := by
    rw [Catalog.map_id_builtins]
    decide
  obtain ⟨c, p, hc, hp, hid, hparent⟩ := Catalog.extendsBuiltins_builtins.exists_below .administer
    "tools" "Deploy" (by decide) (by decide) hf
  obtain ⟨q, hq, hqid⟩ := Option.map_eq_some_iff.1 hparent
  have hroot := hc.chainIds_administer (hc.wellFormed.parent_mem hp hq) hqid
  refine ⟨c, p, hc, hp, ?_⟩
  cases p with
  | root self => cases hq
  | implied self r =>
    cases hq
    rw [Permission.chainIds_implied, hroot, hid]
    rfl

/-- Whoever logged in may deploy, but not a visitor; under a single administrator, called `root`, neither
may anybody else, a member of a group of that name included. -/
theorem has_of_fixed_deploy : ∃ (c : Catalog) (p : Permission) (st st' : Strategy),
    c.ExtendsBuiltins ∧ p ∈ c.all ∧ p.chainIds = ["tools.Deploy", Builtin.administer.id] ∧
      StrategyTable.builtin.create { strategy := "full_control_once_logged_in" } c = .ok st ∧
      StrategyTable.builtin.create { strategy := "legacy", adminSid := "root" } c = .ok st' ∧
      (st.aclAt none).has (.user "ann" []) p = true ∧
      (st.aclAt none).has ⟨.anonymous, ["ann"]⟩ p = false ∧
      (st'.aclAt none).has (.user "root" []) p = true ∧
      (st'.aclAt none).has (.user "ann" ["root"]) p = false := by
  obtain ⟨c, p, hc, hp, hids⟩ := exists_deploy
  have hfixed := has_of_fixed hc hp
  obtain ⟨st, hst, hann⟩ := (hfixed { strategy := "full_control_once_logged_in" }
    (.user "ann" []) none).1 rfl
  obtain ⟨st₁, hst₁, hvisitor⟩ := (hfixed { strategy := "full_control_once_logged_in" }
    ⟨.anonymous, ["ann"]⟩ none).1 rfl
  obtain ⟨st', hst', hroot⟩ := (hfixed { strategy := "legacy", adminSid := "root" }
    (.user "root" []) none).2.1 rfl
  obtain ⟨st₂, hst₂, hmember⟩ := (hfixed { strategy := "legacy", adminSid := "root" }
    (.user "ann" ["root"]) none).2.1 rfl
  obtain rfl : st = st₁ := Except.ok.inj (hst.symm.trans hst₁)
  obtain rfl : st' = st₂ := Except.ok.inj (hst'.symm.trans hst₂)
  rw [hids] at hann hvisitor hroot hmember
  refine ⟨c, p, st, st', hc, hp, hids, hst, hst', hann.2 (by decide), ?_, hroot.2 (by decide), ?_⟩
  · rw [Bool.eq_false_iff, ne_eq, hvisitor]
    decide
  · rw [Bool.eq_false_iff, ne_eq, hmember]
    decide

end AccessPolicy.Strategy
