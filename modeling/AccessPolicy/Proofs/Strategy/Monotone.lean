import AccessPolicy.Proofs.Matrix.Decision
import AccessPolicy.Proofs.Strategy.Fixed
import AccessPolicy.Proofs.Strategy.Table

/-!
The lists of the builtin strategies are monotone. Whoever holds a permission holds what it implies,
more groups take nothing away, and neither does a further grant. Entries in general are not like
that; these are, also the one list that has a denial among its entries.
-/
namespace AccessPolicy

variable {c : Catalog} {a : Acl} {s : AuthorizationSettings} {st : Strategy} {m : Matrix}
  {who more : Identity} {p q r : Permission} {sid : String}

/-- For the permissions of a catalog the list follows the implications, and groups only add. -/
structure Acl.Monotone (c : Catalog) (a : Acl) : Prop where
  has_implied : ∀ (who : Identity) (p q : Permission), p ∈ c.all → q ∈ c.all → p ∈ q.chain →
    a.has who p = true → a.has who q = true
  has_joined : ∀ (who : Identity) (groups : List String) (p : Permission), p ∈ c.all →
    who.groups ⊆ groups → a.has who p = true → a.has { who with groups } p = true

namespace Acl

/-- Both ways of growing at once, for an identity other than the system. -/
theorem Monotone.of_admits
    (h : ∀ (who more : Identity) (p q : Permission), p ∈ c.all → q ∈ c.all → who.JoinsTo more →
      p.chain ⊆ q.chain → a.admits who p = true → a.admits more q = true) : a.Monotone c := by
  have hhas : ∀ (who more : Identity) (p q : Permission), p ∈ c.all → q ∈ c.all →
      who.JoinsTo more → p.chain ⊆ q.chain → a.has who p = true → a.has more q = true := by
    intro who more p q hp hq hj hchain ha
    rw [has, Bool.or_eq_true] at ha ⊢
    rcases ha with hs | ha
    · exact .inl (hj.isSystem.trans hs)
    · exact .inr (h who more p q hp hq hj hchain ha)
  refine ⟨?_, ?_⟩
  · intro who p q hp hq hm
    exact hhas who who p q hp hq (.refl who) (Permission.chain_suffix hm).subset
  · intro who groups p hp hg
    exact hhas who _ p p hp hp ⟨rfl, hg⟩ (List.Subset.refl _)

end Acl

namespace Strategy

theorem monotone_unsecured (c : Catalog) : unsecured.rootAcl.Monotone c :=
  .of_admits fun _ _ _ _ _ _ _ _ _ => rfl

theorem monotone_fullControlOnceLoggedIn (h : c.ExtendsBuiltins) :
    fullControlOnceLoggedIn.rootAcl.Monotone c := by
  refine .of_admits ?_
  intro who more p q hp hq hj hchain ha
  have hids : p.chainIds ⊆ q.chainIds := List.map_subset _ hchain
  rw [admits_fullControlOnceLoggedIn_iff h hp] at ha
  rw [admits_fullControlOnceLoggedIn_iff h hq, hj.principal]
  split at ha
  · rw [if_pos ‹_›]
    exact hids ha
  · rw [if_neg ‹_›]
    exact hids ha

theorem monotone_legacy (c : Catalog) (admin : String) : (legacy admin).rootAcl.Monotone c := by
  refine .of_admits ?_
  intro who more p q _ _ hj hchain ha
  have hids : p.chainIds ⊆ q.chainIds := List.map_subset _ hchain
  rw [admits_legacy_iff] at ha ⊢
  rw [hj.principal]
  rcases ha with hr | ⟨ha, hid⟩
  · exact .inl (hids hr)
  · exact .inr ⟨ha, hids hid⟩

theorem monotone_matrix (c : Catalog) (m : Matrix) : (Acl.sids (.matrix m)).Monotone c := by
  refine .of_admits ?_
  intro who more p q _ _ hj hchain ha
  rw [Matrix.admits_matrix_iff] at ha ⊢
  exact (ha.mono hj.names_subset).mono_chain hchain

theorem monotone_property (c : Catalog) (m : Matrix) (own : MatrixProperty) :
    (own.acl (.matrix m)).Monotone c := by
  refine .of_admits ?_
  intro who more p q _ _ hj hchain ha
  rw [MatrixProperty.admits_acl_iff] at ha ⊢
  rcases ha with hown | ⟨hi, hroot⟩
  · exact .inl ((hown.mono (List.cons_subset_cons _ hj.names_subset)).mono_chain hchain)
  · exact .inr ⟨hi, (hroot.mono hj.names_subset).mono_chain hchain⟩

theorem monotone_aclAt (hc : c.ExtendsBuiltins) (hs : StrategyTable.Builds s c st)
    (x : Option SecuredItem) : (st.aclAt x).Monotone c := by
  cases hs with
  | unsecured _ =>
    rw [aclAt_eq_rootAcl (by simp)]
    exact monotone_unsecured c
  | fullControlOnceLoggedIn _ _ =>
    rw [aclAt_eq_rootAcl (by simp)]
    exact monotone_fullControlOnceLoggedIn hc
  | legacy _ _ =>
    rw [aclAt_eq_rootAcl (by simp)]
    exact monotone_legacy c s.adminSid
  | globalMatrix _ =>
    rw [aclAt_eq_rootAcl (by simp)]
    exact monotone_matrix c _
  | projectMatrix _ =>
    obtain he | ⟨i, -, -, he⟩ := aclAt_projectMatrix_cases (.ofSettings s c) x
    · rw [he]
      exact monotone_matrix c _
    · rw [he]
      exact monotone_property c _ i.own

end Strategy

namespace Matrix

theorem grants_subset_grant (m : Matrix) (r : Permission) (sid : String) :
    m.grants ⊆ (m.grant r sid).grants :=
  fun _ hg => mem_grants_insert.2 (.inr hg)

theorem has_mono {m m' : Matrix} (hm : m.grants ⊆ m'.grants)
    (h : (Acl.sids (.matrix m)).has who p = true) : (Acl.sids (.matrix m')).has who p = true := by
  rw [Acl.has, Bool.or_eq_true, admits_matrix_iff] at h ⊢
  exact h.imp_right fun h => h.mono_grants hm

end Matrix

/-- More grants in the matrix of the object or behind it admit no fewer. -/
theorem MatrixProperty.has_acl_mono {own own' : MatrixProperty} {m m' : Matrix}
    (hi : own'.inheritance = own.inheritance) (ho : own.matrix.grants ⊆ own'.matrix.grants)
    (hm : m.grants ⊆ m'.grants) (h : (own.acl (.matrix m)).has who p = true) :
    (own'.acl (.matrix m')).has who p = true := by
  rw [Acl.has, Bool.or_eq_true, admits_acl_iff] at h ⊢
  rw [hi]
  rcases h with hs | hown | ⟨hg, hroot⟩
  · exact .inl hs
  · exact .inr (.inl (hown.mono_grants ho))
  · exact .inr (.inr ⟨hg, hroot.mono_grants hm⟩)

namespace Strategy

/-- A further grant in the root matrix, if there is one. -/
def grant (st : Strategy) (r : Permission) (sid : String) : Strategy :=
  match st with
  | globalMatrix m => globalMatrix (m.grant r sid)
  | projectMatrix m => projectMatrix (m.grant r sid)
  | other => other

/-- Grants may be added to the root matrix and to the matrix of the object. -/
theorem has_projectMatrix_mono {m m' : Matrix} {i i' : SecuredItem} (hm : m.grants ⊆ m'.grants)
    (hu : i'.own.useProjectSecurity = i.own.useProjectSecurity)
    (hi : i'.own.inheritance = i.own.inheritance)
    (ho : i.own.matrix.grants ⊆ i'.own.matrix.grants)
    (h : ((projectMatrix m).aclFor i).has who p = true) :
    ((projectMatrix m').aclFor i').has who p = true := by
  rw [aclFor_projectMatrix] at h ⊢
  rw [hu]
  split at h
  · rw [if_pos ‹_›]
    exact MatrixProperty.has_acl_mono hi ho hm h
  · rw [if_neg ‹_›]
    exact Matrix.has_mono hm h

theorem has_aclAt_grant {x : Option SecuredItem} (h : (st.aclAt x).has who p = true)
    (r : Permission) (sid : String) : ((st.grant r sid).aclAt x).has who p = true := by
  cases st with
  | globalMatrix m =>
    rw [aclAt_eq_rootAcl (by simp)] at h
    rw [grant, aclAt_eq_rootAcl (by simp)]
    exact Matrix.has_mono (m.grants_subset_grant r sid) h
  | projectMatrix m =>
    cases x with
    | none => exact Matrix.has_mono (m.grants_subset_grant r sid) h
    | some i =>
      exact has_projectMatrix_mono (m.grants_subset_grant r sid) rfl rfl (List.Subset.refl _) h
  | _ => exact h

theorem has_aclAt_edit_grant {x : Option SecuredItem} (h : (st.aclAt x).has who p = true)
    (r : Permission) (sid : String) :
    (st.aclAt (x.map (·.edit [.grant r sid]))).has who p = true := by
  cases x with
  | none => exact h
  | some i =>
    by_cases hst : ∃ m, st = .projectMatrix m
    · obtain ⟨m, rfl⟩ := hst
      have hown := i.own_edit_grant r sid
      rw [Option.map_some, aclAt]
      refine has_projectMatrix_mono (List.Subset.refl _) ?_ ?_ ?_ h
      · rw [hown]
      · rw [hown]
      · rw [hown]
        exact i.own.matrix.grants_subset_grant r sid
    · have hne : ∀ m, st ≠ .projectMatrix m := fun m hm => hst ⟨m, hm⟩
      rw [aclAt_eq_rootAcl hne] at h ⊢
      exact h

/-- The builtin strategies on a catalog with the builtin permissions, at the root and at every object:
whoever holds a permission holds what it implies, in more groups still holds it, and does not lose it
by a further grant in the root matrix or in that of the object. -/
theorem monotone_of_create (hc : c.ExtendsBuiltins)
    (hs : StrategyTable.builtin.create s c = .ok st) (x : Option SecuredItem) :
    (st.aclAt x).Monotone c ∧
      ∀ (who : Identity) (p r : Permission) (sid : String), (st.aclAt x).has who p = true →
        ((st.grant r sid).aclAt x).has who p = true ∧
          (st.aclAt (x.map (·.edit [.grant r sid]))).has who p = true := by
  refine ⟨monotone_aclAt hc (StrategyTable.create_eq_ok_iff.1 hs) x, ?_⟩
  intro who p r sid h
  exact ⟨has_aclAt_grant h r sid, has_aclAt_edit_grant h r sid⟩

/-- Where the anonymous user is denied to administer, it may read in general and therefore read an
object, in whatever groups it is. -/
theorem monotone_of_create_anonymous : ∃ st p q,
    StrategyTable.builtin.create { strategy := "full_control_once_logged_in" } Catalog.builtins =
        .ok st ∧
      p ∈ Catalog.builtins.all ∧ p.id = Builtin.genericRead.id ∧
      q ∈ Catalog.builtins.all ∧ q.id = Builtin.itemRead.id ∧ p ∈ q.chain ∧
      (st.aclAt none).has ⟨.anonymous, []⟩ p = true ∧
      (st.aclAt none).has ⟨.anonymous, []⟩ q = true ∧
      (st.aclAt none).has ⟨.anonymous, ["dev"]⟩ q = true := by
  have hc := Catalog.extendsBuiltins_builtins
  have hs : StrategyTable.builtin.create { strategy := "full_control_once_logged_in" }
      Catalog.builtins = .ok fullControlOnceLoggedIn :=
    StrategyTable.create_eq_ok_iff.2 (.fullControlOnceLoggedIn rfl Catalog.hasBuiltins_builtins)
  obtain ⟨q, hq, hparent⟩ := hc.lookup_builtin .itemRead
  obtain ⟨hq, hqid⟩ := hc.wellFormed.lookup_eq_some_iff.1 hq
  obtain ⟨p, hp, hpid⟩ := Option.map_eq_some_iff.1 hparent
  have hpm := hc.wellFormed.parent_mem hq hp
  have hchain := Permission.mem_chain_of_parent hp
  have hread : (fullControlOnceLoggedIn.aclAt none).has ⟨.anonymous, []⟩ p = true := by
    have ha : fullControlOnceLoggedIn.rootAcl.admits ⟨.anonymous, []⟩ p = true :=
      (admits_fullControlOnceLoggedIn_iff hc hpm).2 (hpid ▸ p.id_mem_chainIds)
    rw [aclAt, Acl.has, ha, Bool.or_true]
  obtain ⟨⟨himplied, hjoined⟩, -⟩ := monotone_of_create hc hs none
  have hq' := himplied _ p q hpm hq hchain hread
  exact ⟨_, p, q, hs, hpm, hpid, hq, hqid, hchain, hread, hq',
    hjoined _ ["dev"] q hq (List.nil_subset _) hq'⟩

end Strategy

end AccessPolicy
