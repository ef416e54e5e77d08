import AccessPolicy.Proofs.Acl.Permissive
import AccessPolicy.Property

/-!
Oracles over matrices. They allow or are silent and never deny, so the order of the tokens is of no
account: an identity holds a permission if one of its tokens is allowed it, be it by a matrix or by
the one behind it.
-/
namespace AccessPolicy

variable {who more : Identity} {p : Permission} {s : Sid} {m : Matrix}

/-- The names under which a matrix may mention an identity. -/
def Identity.names (who : Identity) : List String :=
  who.principal :: (who.groups ++ [Sid.everyoneName])

theorem Identity.mem_names {name : String} :
    name ∈ who.names ↔ ∃ s ∈ who.sids, s.matrixName = name := by
  simp only [names, sids, List.mem_cons, List.mem_append, List.mem_map, List.not_mem_nil, or_false]
  constructor
  · rintro (rfl | hg | rfl)
    · exact ⟨.principal who.principal, .inl (.inl rfl), rfl⟩
    · exact ⟨.group name, .inl (.inr ⟨name, hg, rfl⟩), rfl⟩
    · exact ⟨.everyone, .inr rfl, rfl⟩
  · rintro ⟨s, (rfl | ⟨g, hg, rfl⟩) | rfl, rfl⟩
    · exact .inl rfl
    · exact .inr (.inl hg)
    · exact .inr (.inr rfl)

/-- The same identity, with all its groups and maybe others, in any order. -/
structure Identity.JoinsTo (who more : Identity) : Prop where
  kind : more.kind = who.kind
  groups : who.groups ⊆ more.groups

namespace Identity

theorem JoinsTo.refl (who : Identity) : who.JoinsTo who := ⟨rfl, List.Subset.refl _⟩

theorem JoinsTo.isSystem (h : who.JoinsTo more) : more.isSystem = who.isSystem := by
  rw [Identity.isSystem, Identity.isSystem, h.kind]

theorem JoinsTo.principal (h : who.JoinsTo more) : more.principal = who.principal := by
  rw [Identity.principal, Identity.principal, h.kind]

theorem JoinsTo.sids_subset (h : who.JoinsTo more) : who.sids ⊆ more.sids := by
  intro s hs
  rw [mem_sids] at hs ⊢
  rw [h.principal]
  rcases hs with hs | ⟨g, hg, hs⟩ | hs
  · exact .inl hs
  · exact .inr (.inl ⟨g, h.groups hg, hs⟩)
  · exact .inr (.inr hs)

theorem JoinsTo.names_subset (h : who.JoinsTo more) : who.names ⊆ more.names := by
  intro name hn
  obtain ⟨s, hs, he⟩ := mem_names.1 hn
  exact mem_names.2 ⟨s, h.sids_subset hs, he⟩

end Identity

namespace Matrix

/-- The matrix grants one of the names a permission on the chain. -/
def GrantsOnChain (m : Matrix) (names : List String) (p : Permission) : Prop :=
  ∃ q ∈ p.chain, ∃ sid ∈ names, ⟨q.id, sid⟩ ∈ m.grants

theorem GrantsOnChain.mono {names more : List String} (h : m.GrantsOnChain names p)
    (hs : names ⊆ more) : m.GrantsOnChain more p := by
  obtain ⟨q, hq, sid, hsid, hg⟩ := h
  exact ⟨q, hq, sid, hs hsid, hg⟩

theorem GrantsOnChain.mono_chain {names : List String} {q : Permission}
    (h : m.GrantsOnChain names p) (hc : p.chain ⊆ q.chain) : m.GrantsOnChain names q := by
  obtain ⟨r, hr, sid, hsid, hg⟩ := h
  exact ⟨r, hc hr, sid, hsid, hg⟩

theorem GrantsOnChain.mono_grants {names : List String} {n : Matrix} (h : m.GrantsOnChain names p)
    (hg : m.grants ⊆ n.grants) : n.GrantsOnChain names p := by
  obtain ⟨q, hq, sid, hsid, hm⟩ := h
  exact ⟨q, hq, sid, hsid, hg hm⟩

theorem grantsOnChain_insert_iff {g : Grant} {names : List String} :
    (m.insert g).GrantsOnChain names p ↔
      m.GrantsOnChain names p ∨ g.permission ∈ p.chainIds ∧ g.sid ∈ names := by
  simp only [GrantsOnChain, mem_grants_insert]
  constructor
  · rintro ⟨q, hq, sid, hsid, rfl | hg⟩
    · exact .inr ⟨List.mem_map_of_mem hq, hsid⟩
    · exact .inl ⟨q, hq, sid, hsid, hg⟩
  · rintro (⟨q, hq, sid, hsid, hg⟩ | ⟨hid, hsid⟩)
    · exact ⟨q, hq, sid, hsid, .inr hg⟩
    · obtain ⟨q, hq, hid⟩ := List.mem_map.1 hid
      exact ⟨q, hq, g.sid, hsid, .inl (by rw [hid])⟩

theorem decide_eq_some_true_iff :
    m.decide s p = some true ↔ m.GrantsOnChain [s.matrixName] p := by
  simp [decide, allows, GrantsOnChain, grantsExactly_iff]

theorem decideOpen_eq_some_true_iff :
    m.decideOpen s p = some true ↔ m.GrantsOnChain [s.matrixName, Sid.anonymousName] p := by
  simp only [decideOpen, List.any_eq_true, Bool.or_eq_true, grantsExactly_iff,
    Option.ite_none_right_eq_some, and_true, GrantsOnChain, List.mem_cons, List.not_mem_nil,
    or_false, exists_eq_or_imp, exists_eq_left]

theorem exists_grantsOnChain_iff (m : Matrix) (who : Identity) (p : Permission)
    (more : List String) :
    (∃ s ∈ who.sids, m.GrantsOnChain (s.matrixName :: more) p) ↔
      m.GrantsOnChain (more ++ who.names) p := by
  constructor
  · rintro ⟨s, hs, q, hq, sid, hsid, hg⟩
    refine ⟨q, hq, sid, List.mem_append.2 ?_, hg⟩
    rcases List.mem_cons.1 hsid with rfl | hm
    · exact .inr (Identity.mem_names.2 ⟨s, hs, rfl⟩)
    · exact .inl hm
  · rintro ⟨q, hq, sid, hsid, hg⟩
    rcases List.mem_append.1 hsid with hm | hn
    · exact ⟨.everyone, by simp [Identity.sids], q, hq, sid, List.mem_cons_of_mem _ hm, hg⟩
    · obtain ⟨s, hs, rfl⟩ := Identity.mem_names.1 hn
      exact ⟨s, hs, q, hq, _, List.mem_cons_self, hg⟩

theorem exists_decide_iff :
    (∃ s ∈ who.sids, m.decide s p = some true) ↔ m.GrantsOnChain who.names p := by
  simp only [decide_eq_some_true_iff]
  exact m.exists_grantsOnChain_iff who p []

/-- A root matrix admits whom it grants a permission on the chain. -/
theorem admits_matrix_iff :
    (Acl.sids (.matrix m)).admits who p = true ↔ m.GrantsOnChain who.names p := by
  rw [Acl.admits_sids, (Oracle.permissive_matrix m).resolve_iff]
  exact exists_decide_iff

theorem exists_decideOpen_iff :
    (∃ s ∈ who.sids, m.decideOpen s p = some true) ↔
      m.GrantsOnChain (Sid.anonymousName :: who.names) p := by
  simp only [decideOpen_eq_some_true_iff]
  exact m.exists_grantsOnChain_iff who p [Sid.anonymousName]

end Matrix

/-- The matrix of an object admits whom it grants a permission on the chain, be it as anonymous, and
if it inherits also whom the root matrix admits. -/
theorem MatrixProperty.admits_acl_iff (q : MatrixProperty) :
    (q.acl (.matrix m)).admits who p = true ↔
      q.matrix.GrantsOnChain (Sid.anonymousName :: who.names) p ∨
        q.inheritance = .global ∧ m.GrantsOnChain who.names p := by
  have hp := Oracle.permissive_property q.matrix
  have hm := Oracle.permissive_matrix m
  cases hi : q.inheritance with
  | none =>
    have ho : q.oracle (.matrix m) = .property q.matrix := by simp [oracle, hi]
    rw [acl, ho, Acl.admits_sids, hp.resolve_iff]
    simpa using Matrix.exists_decideOpen_iff
  | global =>
    have ho : q.oracle (.matrix m) = .inheriting (.property q.matrix) (.matrix m) := by
      simp [oracle, hi]
    rw [acl, ho, Acl.admits_sids, (hp.inheriting hm).resolve_iff, ← Matrix.exists_decideOpen_iff,
      ← Matrix.admits_matrix_iff, Acl.admits_sids, hm.resolve_iff]
    simp only [hp.decide_inheriting_iff, Oracle.decide_property, and_or_left, exists_or, true_and]

end AccessPolicy
