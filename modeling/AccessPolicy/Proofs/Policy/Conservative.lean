import AccessPolicy.Proofs.Acl.Mirror
import AccessPolicy.Proofs.Catalog.Visibility
import AccessPolicy.Proofs.Policy.Meaning
import Mathlib.Data.List.Forall2

/-!
Larger catalogs. What can be loaded on a catalog can be loaded once more has been registered in it,
and then the old permissions are treated as before. Lines and ids that only the larger catalog knows
come into effect, but an old permission has only old ones on its chain, so it is out of their reach.
-/
namespace AccessPolicy

variable {s s' : Settings} {c c' : Catalog} {P P' : Policy} {who : Identity} {p : Permission}
  {t : Target}

namespace Catalog

/-- The lines state the same grants of listed permissions. -/
def SameGrants (c : Catalog) (lines lines' : List String) : Prop :=
  ∀ g : Grant, c.Lists g.permission → (g.StatedIn lines ↔ g.StatedIn lines')

/-- The ids of listed permissions are the same. -/
def SameIds (c : Catalog) (ids ids' : List String) : Prop :=
  ∀ id, c.Lists id → (id ∈ ids ↔ id ∈ ids')

theorem SameIds.contains {ids ids' : List String} (h : c.SameIds ids ids') (hp : p ∈ c.all) :
    ids'.contains p.id = ids.contains p.id := by
  rw [Bool.eq_iff_iff, List.contains_iff_mem, List.contains_iff_mem]
  exact (h p.id ⟨p, hp, rfl⟩).symm

/-- What the catalog does not list may be added. -/
theorem SameIds.concat (ids : List String) {id : String} (h : ¬ c.Lists id) :
    c.SameIds ids (ids ++ [id]) := by
  intro id' hid
  rw [List.mem_append, List.mem_singleton]
  refine (or_iff_left ?_).symm
  rintro rfl
  exact h hid

theorem SameGrants.concat (lines : List String) {line : String}
    (h : ∀ g : Grant, g.StatedBy line → ¬ c.Lists g.permission) :
    c.SameGrants lines (lines ++ [line]) := by
  intro g hg
  simp only [Grant.StatedIn, List.mem_append, List.mem_singleton, or_and_right, exists_or,
    exists_eq_left]
  exact (or_iff_left fun hs => h g hs hg).symm

end Catalog

structure OverrideRule.AgreesOn (c : Catalog) (r r' : OverrideRule) : Prop where
  permissions : c.SameIds r.permissions r'.permissions
  principals : r'.principals = r.principals
  objects : r'.objects = r.objects
  decision : r'.decision = r.decision

structure ObjectSettings.AgreesOn (c : Catalog) (o o' : ObjectSettings) : Prop where
  name : o'.name = o.name
  useProjectSecurity : o'.useProjectSecurity = o.useProjectSecurity
  inheritance : o'.inheritance = o.inheritance
  grants : c.SameGrants o.grants o'.grants

/-- The settings differ in no more than what they say of permissions that the catalog does not list. -/
structure Settings.AgreesOn (c : Catalog) (s s' : Settings) : Prop where
  strategy : s'.authorization.strategy = s.authorization.strategy
  adminSid : s'.authorization.adminSid = s.authorization.adminSid
  migrateLegacyRead : s'.authorization.migrateLegacyRead = s.authorization.migrateLegacyRead
  grants : c.SameGrants s.authorization.grants s'.authorization.grants
  disabled : c.SameIds s.authorization.disabledPermissions s'.authorization.disabledPermissions
  overrides : List.Forall₂ (OverrideRule.AgreesOn c) s.authorization.overrides
    s'.authorization.overrides
  objects : List.Forall₂ (ObjectSettings.AgreesOn c) s.objects s'.objects

theorem Settings.AgreesOn.refl (c : Catalog) (s : Settings) : s.AgreesOn c s where
  strategy := rfl
  adminSid := rfl
  migrateLegacyRead := rfl
  grants _ _ := Iff.rfl
  disabled _ _ := Iff.rfl
  overrides := List.forall₂_same.2 fun _ _ => ⟨fun _ _ => Iff.rfl, rfl, rfl, rfl⟩
  objects := List.forall₂_same.2 fun _ _ => ⟨rfl, rfl, rfl, fun _ _ => Iff.rfl⟩

/-- What is shown is of no account. -/
theorem Settings.AgreesOn.of_sameListing (h : s.AgreesOn c s') (hl : c.SameListing c') :
    s.AgreesOn c' s' where
  strategy := h.strategy
  adminSid := h.adminSid
  migrateLegacyRead := h.migrateLegacyRead
  grants g hg := h.grants g (hl.lists_iff.1 hg)
  disabled id hid := h.disabled id (hl.lists_iff.1 hid)
  overrides := h.overrides.imp fun _ _ hr =>
    ⟨fun id hid => hr.permissions id (hl.lists_iff.1 hid), hr.principals, hr.objects, hr.decision⟩
  objects := h.objects.imp fun _ _ ho =>
    ⟨ho.name, ho.useProjectSecurity, ho.inheritance, fun g hg => ho.grants g (hl.lists_iff.1 hg)⟩

/-- Both catalogs are well formed, and the second lists what the first does. -/
structure Catalog.Below (c c' : Catalog) : Prop where
  wellFormed : c.WellFormed
  wellFormed' : c'.WellFormed
  subset : c.all ⊆ c'.all

namespace Catalog

theorem WellFormed.below_run (h : c.WellFormed) (ops : List Operation) : c.Below (c.run ops) :=
  ⟨h, h.run ops, (h.extends_run ops).all.subset⟩

theorem Below.of_sameListing {d d' : Catalog} (h : c.Below c') (hs : c.SameListing d)
    (hs' : c'.SameListing d') : d.Below d' where
  wellFormed := hs.wellFormed h.wellFormed
  wellFormed' := hs'.wellFormed h.wellFormed'
  subset := by
    rw [hs.all, hs'.all]
    exact h.subset

theorem Below.lookup (h : c.Below c') {id : String} (hp : c.lookup id = some p) :
    c'.lookup id = some p := by
  obtain ⟨hm, hid⟩ := h.wellFormed.lookup_eq_some_iff.1 hp
  exact h.wellFormed'.lookup_eq_some_iff.2 ⟨h.subset hm, hid⟩

theorem Below.hasBuiltins (h : c.Below c') (hb : c.hasBuiltins = true) : c'.hasBuiltins = true := by
  refine List.all_eq_true.2 ?_
  intro b _
  obtain ⟨p, hp⟩ := exists_lookup_builtin hb b
  exact Option.isSome_iff_exists.2 ⟨p, h.lookup hp⟩

end Catalog

theorem rel_imp {α β : Type} {R S : α → β → Prop} (hrs : ∀ x y, R x y → S x y) {x : Option α}
    {y : Option β} (h : Option.Rel R x y) : Option.Rel S x y := by
  cases h with
  | none => exact .none
  | some hr => exact .some (hrs _ _ hr)

/-- Searching lists that agree element by element finds elements that agree. -/
theorem rel_find? {α β : Type} {R : α → β → Prop} {f : α → Bool} {g : β → Bool}
    (hfg : ∀ x y, R x y → f x = g y) {xs : List α} {ys : List β} (h : List.Forall₂ R xs ys) :
    Option.Rel R (xs.find? f) (ys.find? g) := by
  induction h with
  | nil => exact .none
  | @cons x y xs ys hxy _ ih =>
    rw [List.find?_cons, List.find?_cons, ← hfg x y hxy]
    cases f x with
    | true => exact .some hxy
    | false => exact ih

namespace OverrideRule

theorem AgreesOn.covers {r r' : OverrideRule} (h : r.AgreesOn c r') (hp : p ∈ c.all) :
    r'.covers t who p = r.covers t who p := by
  rw [OverrideRule.covers, OverrideRule.covers, h.permissions.contains hp, h.principals, h.objects]

/-- The id that a rule was accepted for is in the other rule too. -/
theorem AgreesOn.exists_compile (hc : c.Below c') {r r' : OverrideRule} (h : r.AgreesOn c r')
    (hr : ∃ o, r.compile c = .ok o) : ∃ o, r'.compile c' = .ok o := by
  obtain ⟨⟨id, hid, p, hp⟩, hprincipals, hobjects⟩ := exists_compile_iff.1 hr
  have hlisted : c.Lists id := ⟨p, hc.wellFormed.lookup_eq_some_iff.1 hp⟩
  refine exists_compile_iff.2 ⟨⟨id, (h.permissions id hlisted).1 hid, p, hc.lookup hp⟩, ?_, ?_⟩
  · rwa [h.principals]
  · rwa [h.objects]

theorem exists_compileRules (hc : c.Below c') {rs rs' : List OverrideRule}
    (h : List.Forall₂ (AgreesOn c) rs rs') (hr : ∃ os, Controller.compileRules c rs = .ok os) :
    ∃ os, Controller.compileRules c' rs' = .ok os := by
  rw [Controller.exists_compileRules_iff] at hr ⊢
  induction h with
  | nil => simp
  | cons hrr _ ih =>
    obtain ⟨hhead, htail⟩ := List.forall_mem_cons.1 hr
    exact List.forall_mem_cons.2 ⟨hrr.exists_compile hc hhead, ih htail⟩

/-- The rules that decide are related, if there are any. -/
theorem consult_eq (hc : c.Below c') (hp : p ∈ c.all) {rs rs' : List OverrideRule}
    {os os' : List Override} (h : List.Forall₂ (AgreesOn c) rs rs')
    (hos : Controller.compileRules c rs = .ok os) (hos' : Controller.compileRules c' rs' = .ok os') :
    Hook.consult (os'.map Override.toHook) t who p = Hook.consult (os.map Override.toHook) t who p := by
  rw [Controller.consult_compileRules hc.wellFormed hp hos,
    Controller.consult_compileRules hc.wellFormed' (hc.subset hp) hos']
  have hcovers : ∀ r r' : OverrideRule, r.AgreesOn c r' → r.covers t who p = r'.covers t who p :=
    fun _ _ hrr => (hrr.covers hp).symm
  have hfound := rel_find? hcovers h
  generalize rs.find? (fun r => r.covers t who p) = found at hfound ⊢
  generalize rs'.find? (fun r => r.covers t who p) = found' at hfound ⊢
  cases hfound with
  | none => rfl
  | some hrr => rw [Option.map_some, Option.map_some, hrr.decision]

end OverrideRule

/-- On the chain of an old permission matrices are told apart only by what they hold of old ones. -/
theorem Matrix.grantsOnChain_congr (hc : c.Below c') (hp : p ∈ c.all) {m m' : Matrix}
    {states states' : Grant → Prop} (hm : ∀ g, g ∈ m.grants ↔ states g ∧ c.Lists g.permission)
    (hm' : ∀ g, g ∈ m'.grants ↔ states' g ∧ c'.Lists g.permission)
    (hs : ∀ g, c.Lists g.permission → (states g ↔ states' g)) (names : List String) :
    m'.GrantsOnChain names p ↔ m.GrantsOnChain names p := by
  rw [grantsOnChain_iff hc.wellFormed hp hm, grantsOnChain_iff hc.wellFormed' (hc.subset hp) hm']
  refine exists_congr fun q => and_congr_right fun hq => exists_congr fun sid =>
    and_congr_right fun _ => (hs ⟨q.id, sid⟩ ?_).symm
  exact ⟨q, hc.wellFormed.chain_mem hp hq, rfl⟩

theorem Settings.AgreesOn.grants_iff (h : s.AgreesOn c s') (hc : c.WellFormed)
    (hb : c.hasBuiltins = true) {g : Grant} (hg : c.Lists g.permission) :
    s.authorization.Grants g ↔ s'.authorization.Grants g := by
  rw [AuthorizationSettings.Grants, AuthorizationSettings.Grants, h.migrateLegacyRead, h.grants g hg,
    h.grants ⟨Builtin.read.id, g.sid⟩ (hc.lists_builtin hb .read)]

/-- The root matrices agree on old permissions, and so do the matrices of an object. -/
theorem Settings.AgreesOn.grantsOnChain_root (h : s.AgreesOn c s') (hc : c.Below c')
    (hb : c.hasBuiltins = true) (hp : p ∈ c.all) (names : List String) :
    (Matrix.ofSettings s'.authorization c').GrantsOnChain names p ↔
      (Matrix.ofSettings s.authorization c).GrantsOnChain names p :=
  Matrix.grantsOnChain_congr hc hp
    (fun _ => Matrix.mem_ofSettings_iff hc.wellFormed (hc.wellFormed.lists_builtin hb .read))
    (fun _ => Matrix.mem_ofSettings_iff hc.wellFormed'
      (hc.wellFormed'.lists_builtin (hc.hasBuiltins hb) .read))
    (fun _ hg => h.grants_iff hc.wellFormed hb hg) names

theorem ObjectSettings.AgreesOn.grantsOnChain {o o' : ObjectSettings} (h : o.AgreesOn c o')
    (hc : c.Below c') (hp : p ∈ c.all) (names : List String) :
    (Matrix.ofLines c' o'.grants).GrantsOnChain names p ↔
      (Matrix.ofLines c o.grants).GrantsOnChain names p :=
  Matrix.grantsOnChain_congr hc hp (fun _ => Matrix.mem_ofLines_iff hc.wellFormed)
    (fun _ => Matrix.mem_ofLines_iff hc.wellFormed') h.grants names

/-- The items stand for settings that agree, on one catalog and on another. -/
def SecuredItem.Agree (c c' : Catalog) (i i' : SecuredItem) : Prop :=
  ∃ o o', ObjectSettings.AgreesOn c o o' ∧ i = .ofSettings c o ∧ i' = .ofSettings c' o'

theorem Policy.rel_find?_itemsOf {os os' : List ObjectSettings}
    (h : List.Forall₂ (ObjectSettings.AgreesOn c) os os') (name : String) :
    Option.Rel (SecuredItem.Agree c c') (Keyed.find? SecuredItem.name name (itemsOf c os))
      (Keyed.find? SecuredItem.name name (itemsOf c' os')) := by
  rw [find?_itemsOf, find?_itemsOf]
  have hname : ∀ o o', ObjectSettings.AgreesOn c o o' → (o.name == name) = (o'.name == name) :=
    fun _ _ ho => by rw [ho.name]
  have hfound := rel_find? hname (List.forall₂_reverse_iff.2 h)
  generalize os.reverse.find? (fun o => o.name == name) = found at hfound ⊢
  generalize os'.reverse.find? (fun o => o.name == name) = found' at hfound ⊢
  cases hfound with
  | none => exact .none
  | some ho => exact .some ⟨_, _, ho, rfl, rfl⟩

theorem SecuredItem.targetOf_eq {x x' : Option SecuredItem}
    (h : Option.Rel (SecuredItem.Agree c c') x x') :
    Controller.targetOf x' = Controller.targetOf x := by
  cases h with
  | none => rfl
  | some hi =>
    obtain ⟨o, o', ho, rfl, rfl⟩ := hi
    exact congrArg Target.object ho.name

theorem MatrixProperty.admits_acl_eq {q q' : MatrixProperty} {m m' : Matrix}
    (hi : q'.inheritance = q.inheritance)
    (hq : ∀ names, q'.matrix.GrantsOnChain names p ↔ q.matrix.GrantsOnChain names p)
    (hm : ∀ names, m'.GrantsOnChain names p ↔ m.GrantsOnChain names p) :
    (q'.acl (.matrix m')).admits who p = (q.acl (.matrix m)).admits who p := by
  rw [Bool.eq_iff_iff, admits_acl_iff, admits_acl_iff, hi, hq, hm]

/-- The lists of a strategy agree with those of the one that is built on the larger catalog. -/
theorem StrategyTable.Builds.admits_eq (hc : c.Below c') (hb : c.hasBuiltins = true)
    (h : s.AgreesOn c s') {st st' : Strategy} (hst : Builds s.authorization c st)
    (hst' : Builds s'.authorization c' st') (hp : p ∈ c.all) {x x' : Option SecuredItem}
    (hx : Option.Rel (SecuredItem.Agree c c') x x') :
    (st'.aclAt x').admits who p = (st.aclAt x).admits who p := by
  have hroot : (Acl.sids (.matrix (.ofSettings s'.authorization c'))).admits who p =
      (Acl.sids (.matrix (.ofSettings s.authorization c))).admits who p := by
    rw [Bool.eq_iff_iff, Matrix.admits_matrix_iff, Matrix.admits_matrix_iff,
      h.grantsOnChain_root hc hb hp]
  have hb' := hc.hasBuiltins hb
  cases hst with
  | unsecured hs =>
    obtain rfl := hst'.unique (.unsecured (h.strategy.trans hs))
    rw [Strategy.aclAt_eq_rootAcl (by simp), Strategy.aclAt_eq_rootAcl (by simp)]
  | fullControlOnceLoggedIn hs _ =>
    obtain rfl := hst'.unique (.fullControlOnceLoggedIn (h.strategy.trans hs) hb')
    rw [Strategy.aclAt_eq_rootAcl (by simp), Strategy.aclAt_eq_rootAcl (by simp)]
  | legacy hs _ =>
    obtain rfl := hst'.unique (.legacy (h.strategy.trans hs) hb')
    rw [Strategy.aclAt_eq_rootAcl (by simp), Strategy.aclAt_eq_rootAcl (by simp), h.adminSid]
  | globalMatrix hs =>
    obtain rfl := hst'.unique (.globalMatrix (h.strategy.trans hs))
    rw [Strategy.aclAt_eq_rootAcl (by simp), Strategy.aclAt_eq_rootAcl (by simp)]
    exact hroot
  | projectMatrix hs =>
    obtain rfl := hst'.unique (.projectMatrix (h.strategy.trans hs))
    cases hx with
    | none => exact hroot
    | some hi =>
      obtain ⟨o, o', ho, rfl, rfl⟩ := hi
      have huse : (SecuredItem.ofSettings c' o').own.useProjectSecurity =
        (SecuredItem.ofSettings c o).own.useProjectSecurity := ho.useProjectSecurity
      rw [Strategy.aclAt, Strategy.aclAt, Strategy.aclFor_projectMatrix,
        Strategy.aclFor_projectMatrix, huse]
      split
      · exact MatrixProperty.admits_acl_eq ho.inheritance (ho.grantsOnChain hc hp)
          (h.grantsOnChain_root hc hb hp)
      · exact hroot

theorem Permission.nearestShown_congr {shown shown' : Visibility}
    (h : ∀ q ∈ p.chain, shown' q = shown q) : p.nearestShown shown' = p.nearestShown shown := by
  induction p with
  | root self => rfl
  | implied self q ih =>
    obtain ⟨hself, hq⟩ := List.forall_mem_cons.1 h
    rw [nearestShown, nearestShown, hself, ih hq]

namespace Policy

/-- The list for the root or for an object, with the denials that the catalog of the policy makes. -/
def view (P : Policy) (x : Option SecuredItem) (who : Identity) : Acl.View :=
  ⟨P.controller.aclAt x, Catalog.visibility [P.catalog], who⟩

/-- The policies have the same objects, and at each of them and at the root they give every identity
the same answers about these permissions and the same denials. -/
structure SameOn (ps : List Permission) (P P' : Policy) : Prop where
  root : ∀ who, Acl.View.Mirrors ps id (P.view none who) (P'.view none who)
  object : ∀ name, Option.Rel
    (fun i i' => ∀ who, Acl.View.Mirrors ps id (P.view (some i) who) (P'.view (some i') who))
    (P.item? name) (P'.item? name)

/-- Old permissions are shown and hidden as on the smaller catalog. -/
theorem visibility_eq (hc : c.WellFormed) {ops : List Operation} (ho : ∀ op ∈ ops, op.Registers)
    {ids ids' : List String} (hids : c.SameIds ids ids') (hp : p ∈ c.all) :
    Catalog.visibility [Controller.hideListed (c.run ops) ids'] p =
      Catalog.visibility [Controller.hideListed c ids] p := by
  have hextends := hc.extends_run ops
  have hserial := (Controller.sameListing_hideListed (c.run ops) ids').serial.trans hextends.serial
  have hserial' := (Controller.sameListing_hideListed c ids).serial
  rw [Catalog.visibility, Catalog.visibility, List.all_cons, List.all_cons, hserial, hserial',
    Controller.isEnabled_hideListed (hc.run ops) (hextends.all.subset hp),
    Controller.isEnabled_hideListed hc hp, Catalog.isEnabled_run hc hp ho,
    hids.contains hp]

theorem exists_loadWith_run (hc : c.WellFormed) (hb : c.hasBuiltins = true)
    (h : Loaded s c .builtin P) (hs : s.AgreesOn c s') (ops : List Operation) :
    ∃ P', loadWith s' (c.run ops) .builtin = .ok P' := by
  have hgrown := hc.below_run ops
  have hsame := h.sameListing hb
  have hsame' := Controller.sameListing_hideListed (c.run ops) s'.authorization.disabledPermissions
  have hbelow := hgrown.of_sameListing hsame hsame'
  obtain ⟨st', hst'⟩ := h.builds.exists_of_strategy hs.strategy
    (hbelow.hasBuiltins (h.hasBuiltins hc))
  obtain ⟨os, hos, -⟩ := h.hooks
  obtain ⟨os', hos'⟩ := OverrideRule.exists_compileRules hbelow
    (hs.of_sameListing hsame).overrides ⟨os, hos⟩
  exact ⟨_, loadWith_of_parts (hgrown.hasBuiltins hb) rfl (StrategyTable.create_eq_ok_iff.2 hst') hos'⟩

/-- What was loaded before and what is loaded after further registrations agree on old permissions. -/
theorem Loaded.sameOn_run (hc : c.WellFormed) (hb : c.hasBuiltins = true)
    (h : Loaded s c .builtin P) (hs : s.AgreesOn c s') {ops : List Operation}
    (ho : ∀ op ∈ ops, op.Registers) (h' : Loaded s' (c.run ops) .builtin P') :
    SameOn c.all P P' := by
  have hgrown := hc.below_run ops
  have hb' := hgrown.hasBuiltins hb
  have hsame := h.sameListing hb
  have hbelow := hgrown.of_sameListing hsame (h'.sameListing hb')
  have hagree := hs.of_sameListing hsame
  obtain ⟨os, hos, hh⟩ := h.hooks
  obtain ⟨os', hos', hh'⟩ := h'.hooks
  have hview : ∀ x x', Option.Rel (SecuredItem.Agree P.catalog P'.catalog) x x' → ∀ who,
      Acl.View.Mirrors c.all id (P.view x who) (P'.view x' who) := by
    intro x x' hx who
    refine .of_has rfl (fun _ => rfl) ?_ ?_ ?_
    · intro p hp
      rw [DeniedPermission.of, DeniedPermission.of, Permission.nearestShown_congr]
      intro q hq
      rw [view, view, h.catalog_eq hb, h'.catalog_eq hb']
      exact visibility_eq hc ho hs.disabled (hc.chain_mem hp hq)
    · intro t kind
      exact (h'.hasCreate x' who t kind).trans (h.hasCreate x who t kind).symm
    · intro p hp
      have hlisted : p ∈ P.catalog.all := hsame.all ▸ hp
      refine Controller.has_aclAt_congr rfl ?_
        (h.builds.admits_eq hbelow (h.hasBuiltins hc) hagree h'.builds hlisted hx)
      rw [SecuredItem.targetOf_eq hx, hh, hh']
      exact OverrideRule.consult_eq hbelow hlisted hagree.overrides hos hos'
  refine ⟨hview none none .none, ?_⟩
  intro name
  have hitems : Option.Rel (SecuredItem.Agree P.catalog P'.catalog) (P.item? name) (P'.item? name) := by
    rw [item?, item?, h.items, h'.items]
    exact rel_find?_itemsOf hagree.objects name
  exact rel_imp (fun i i' hi => hview (some i) (some i') (.some hi)) hitems

/-- Settings that are loaded on a catalog are loaded after further registrations too, and the old
permissions are treated as before, with what the settings say of the new ones and without it. -/
theorem loadWith_run (hc : c.Reachable) (hb : c.hasBuiltins = true)
    (hl : loadWith s c .builtin = .ok P) {ops : List Operation}
    (ho : ∀ op ∈ ops, op.Registers) :
    (∃ P', loadWith s (c.run ops) .builtin = .ok P' ∧ SameOn c.all P P') ∧
      ∀ s', s.AgreesOn c s' → ∃ P', loadWith s' (c.run ops) .builtin = .ok P' ∧ SameOn c.all P P' := by
  have h := loadWith_eq_ok_iff.1 hl
  have hagree : ∀ s', s.AgreesOn c s' →
      ∃ P', loadWith s' (c.run ops) .builtin = .ok P' ∧ SameOn c.all P P' := by
    intro s' hs
    obtain ⟨P', hl'⟩ := exists_loadWith_run hc.wellFormed hb h hs ops
    exact ⟨P', hl', h.sameOn_run hc.wellFormed hb hs ho (loadWith_eq_ok_iff.1 hl')⟩
  exact ⟨hagree s (.refl c s), hagree⟩

/-- One principal may read, and nobody may build. -/
def shortsighted : Settings where
  authorization :=
    { grants := ["hudson.model.Hudson.Read:ann"]
      overrides := [{ name := "no builds", permissions := ["hudson.model.Item.Build"], decision := .deny }] }

/-- With a line, an id of a rule and a hidden id that the builtin permissions do not include. -/
def foresighted : Settings where
  authorization :=
    { grants := ["hudson.model.Hudson.Read:ann", "job.Deploy:ann"]
      disabledPermissions := ["job.Deploy"]
      overrides :=
        [{ name := "no builds", permissions := ["hudson.model.Item.Build", "job.Deploy"]
           decision := .deny }] }

theorem not_lists_deploy : ¬ Catalog.builtins.Lists "job.Deploy" := by
  rintro ⟨p, hp, hid⟩
  have hm : "job.Deploy" ∈ Builtin.all.map Builtin.id := by
    rw [← Catalog.map_id_builtins, ← hid]
    exact List.mem_map_of_mem hp
  revert hm
  decide

theorem shortsighted_agreesOn_foresighted : shortsighted.AgreesOn Catalog.builtins foresighted where
  strategy := rfl
  adminSid := rfl
  migrateLegacyRead := rfl
  grants := by
    refine .concat _ ?_
    intro g hg
    have hd : Grant.StatedBy ⟨"job.Deploy", "ann"⟩ "job.Deploy:ann" := by decide
    rw [hg.unique hd]
    exact not_lists_deploy
  disabled := .concat [] not_lists_deploy
  overrides := .cons ⟨.concat _ not_lists_deploy, rfl, rfl, rfl⟩ .nil
  objects := .nil

/-- The policy of the shorter settings on the builtin permissions. -/
theorem exists_loadWith_shortsighted : ∃ P, loadWith shortsighted Catalog.builtins .builtin = .ok P := by
  have hb := Catalog.hasBuiltins_builtins
  obtain ⟨os, hos⟩ : ∃ os, Controller.compileRules Catalog.builtins
      shortsighted.authorization.overrides = .ok os := by
    refine Controller.exists_compileRules_iff.2 ?_
    intro r hr
    obtain rfl := List.mem_singleton.1 hr
    obtain ⟨build, hbuild⟩ := Catalog.exists_lookup_builtin hb .itemBuild
    exact OverrideRule.exists_compile_iff.2 ⟨⟨_, List.mem_cons_self, build, hbuild⟩, ⟨{}, rfl⟩, {}, rfl⟩
  exact ⟨_, loadWith_of_compileRules hb rfl (StrategyTable.create_eq_ok_iff.2 (.globalMatrix rfl)) hos⟩

/-- Whoever may read may still do so once there is a permission to deploy, also if the settings speak
of it. -/
theorem loadWith_run_foresighted : ∃ P P' p, loadWith shortsighted Catalog.builtins .builtin = .ok P ∧
    loadWith foresighted (Catalog.builtins.run [.register "job" "Deploy" none []]) .builtin = .ok P' ∧
    p ∈ Catalog.builtins.all ∧ p.id = Builtin.read.id ∧
    (P.controller.aclAt none).has (.user "ann" []) p = true ∧
    (P'.controller.aclAt none).has (.user "ann" []) p = true := by
  have hc := Catalog.reachable_builtins
  have hb := Catalog.hasBuiltins_builtins
  obtain ⟨p, hp⟩ := Catalog.exists_lookup_builtin hb .read
  obtain ⟨hm, hid⟩ := hc.wellFormed.lookup_eq_some_iff.1 hp
  obtain ⟨P, hl⟩ := exists_loadWith_shortsighted
  have h := loadWith_eq_ok_iff.1 hl
  have hw := h.wellFormed hc.wellFormed
  have hlisted : p ∈ P.catalog.all := by rwa [(h.sameListing hb).all]
  have hann : (P.controller.aclAt none).has (.user "ann" []) p = true := by
    have hadmits : (Acl.sids (.matrix (.ofSettings shortsighted.authorization P.catalog))).admits
        (.user "ann" []) p = true ↔ shortsighted.authorization.Permits (.user "ann" []) p :=
      Matrix.admits_matrix_iff.trans
        (Matrix.grantsOnChain_ofSettings_iff hw (h.lists_read hw hb) hlisted _)
    have hrule : shortsighted.authorization.overrides.find? (fun r =>
        r.covers .root (.user "ann" []) p) = none := by
      rw [List.find?_eq_none]
      intro r hr
      obtain rfl := List.mem_singleton.1 hr
      rw [OverrideRule.covers, hid]
      decide
    have hstrategy : P.controller.strategy = .globalMatrix (.ofSettings shortsighted.authorization
        P.catalog) := h.builds.unique (.globalMatrix rfl)
    rw [Controller.aclAt, hstrategy, Strategy.rootAcl, h.has_guarded_iff hw hlisted .root hadmits,
      hrule]
    refine .inr ⟨p, p.self_mem_chain, "ann", by decide, .inl ?_⟩
    rw [hid]
    decide
  have hregisters : ∀ op ∈ [Operation.register "job" "Deploy" none []], op.Registers := by
    simp [Operation.Registers]
  obtain ⟨P', hl', hsame⟩ :=
    (loadWith_run hc hb hl hregisters).2 foresighted shortsighted_agreesOn_foresighted
  exact ⟨P, P', p, hl, hl', hm, hid, hann, ((hsame.root (.user "ann" [])).has p hm).trans hann⟩

end Policy

end AccessPolicy
