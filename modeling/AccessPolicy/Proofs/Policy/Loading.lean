import AccessPolicy.Policy.Basic
import AccessPolicy.Proofs.Catalog.Forest
import AccessPolicy.Proofs.Strategy.Table
import Mathlib.Data.List.Induction

/-!
What a loaded policy is made of. Loading prepares the catalog, hides what the settings hide, builds
the strategy and the hooks, and reads the objects, each from its own part of the settings. The
catalog stays well formed and lists after preparation what it listed before.
-/
namespace AccessPolicy

variable {s : Settings} {c c' : Catalog} {t : StrategyTable} {P : Policy}

theorem Controller.hideListed_nil (c : Catalog) : hideListed c [] = c := rfl

theorem Controller.sameListing_hideListed (c : Catalog) (ids : List String) :
    c.SameListing (hideListed c ids) := by
  unfold hideListed
  induction ids generalizing c with
  | nil => exact .refl c
  | cons id ids ih =>
    rw [List.foldl_cons]
    cases he : c.setEnabled id false with
    | error e => exact ih c
    | ok c' => exact (Catalog.sameListing_setEnabled he).trans (ih c')

theorem Controller.build_eq_ok_iff {a : AuthorizationSettings} {k : Controller} :
    Controller.build a c t = .ok k ↔ t.create a c = .ok k.strategy ∧
      ∃ os, Controller.compileRules c a.overrides = .ok os ∧ k.hooks = os.map Override.toHook := by
  obtain ⟨strategy, hooks⟩ := k
  unfold Controller.build
  cases t.create a c with
  | error e => simp
  | ok s =>
    cases Controller.compileRules c a.overrides with
    | error e => simp
    | ok os => simp [eq_comm]

theorem Controller.build_eq_error_iff {a : AuthorizationSettings} {e : ConfigError} :
    Controller.build a c t = .error e ↔ t.create a c = .error e ∨
      (∃ strategy, t.create a c = .ok strategy) ∧
        Controller.compileRules c a.overrides = .error e := by
  unfold Controller.build
  cases t.create a c with
  | error e => simp
  | ok strategy => cases Controller.compileRules c a.overrides <;> simp

theorem Controller.aclAt_eq (k : Controller) (x : Option SecuredItem) :
    k.aclAt x = .guarded (targetOf x) k.hooks (k.strategy.aclAt x) := by
  cases x <;> rfl

/-- Hooks that decide alike stand before lists that answer alike. -/
theorem Controller.has_aclAt_congr {k k' : Controller} {x x' : Option SecuredItem}
    {who who' : Identity} {p : Permission} (hs : who'.isSystem = who.isSystem)
    (hh : Hook.consult k'.hooks (targetOf x') who' p = Hook.consult k.hooks (targetOf x) who p)
    (ha : (k'.strategy.aclAt x').admits who' p = (k.strategy.aclAt x).admits who p) :
    (k'.aclAt x').has who' p = (k.aclAt x).has who p := by
  rw [aclAt_eq, aclAt_eq, Acl.has, Acl.has, Acl.admits_guarded, Acl.admits_guarded, hs, hh, ha]

namespace Policy

theorem prepare_of_hasBuiltins (h : c.hasBuiltins = true) : prepare c = .ok c := by
  simp [prepare, h]

theorem prepare_cases (hp : prepare c = .ok c') :
    c.hasBuiltins = true ∧ c' = c ∨ c.registerBuiltins = (c', none) := by
  unfold prepare at hp
  by_cases hb : c.hasBuiltins = true
  · rw [if_pos hb] at hp
    cases hp
    exact .inl ⟨hb, rfl⟩
  · rw [if_neg hb] at hp
    cases hr : c.registerBuiltins with
    | mk c'' e =>
      rw [hr] at hp
      cases e with
      | none => cases hp; exact .inr rfl
      | some e => cases hp

theorem wellFormed_of_prepare (h : c.WellFormed) (hp : prepare c = .ok c') : c'.WellFormed := by
  rcases prepare_cases hp with ⟨-, rfl⟩ | hi
  · exact h
  · exact h.of_registerBuiltins hi

/-- A prepared catalog has the builtin permissions, whatever it had before. -/
theorem hasBuiltins_of_prepare (h : c.WellFormed) (hp : prepare c = .ok c') :
    c'.hasBuiltins = true := by
  rcases prepare_cases hp with ⟨hb, rfl⟩ | hi
  · exact hb
  · exact h.hasBuiltins_of_registerBuiltins hi

/-- What loading makes of the settings `s` on the catalog `c`. -/
structure Loaded (s : Settings) (c : Catalog) (t : StrategyTable) (P : Policy) : Prop where
  catalog : ∃ c', prepare c = .ok c' ∧
    P.catalog = Controller.hideListed c' s.authorization.disabledPermissions
  strategy : t.create s.authorization P.catalog = .ok P.controller.strategy
  hooks : ∃ os, Controller.compileRules P.catalog s.authorization.overrides = .ok os ∧
    P.controller.hooks = os.map Override.toHook
  items : P.items = itemsOf P.catalog s.objects

theorem loadWith_eq_ok_iff : loadWith s c t = .ok P ↔ Loaded s c t P := by
  obtain ⟨catalog, controller, items⟩ := P
  unfold loadWith Controller.ofSettings
  constructor
  · intro h
    cases hp : prepare c with
    | error e => simp [hp] at h
    | ok c' =>
      cases hb : Controller.build s.authorization
          (Controller.hideListed c' s.authorization.disabledPermissions) t with
      | error e => simp [hp, hb] at h
      | ok k =>
        simp only [hp, hb, Except.ok.injEq, Policy.mk.injEq] at h
        obtain ⟨rfl, rfl, rfl⟩ := h
        obtain ⟨hs, hh⟩ := Controller.build_eq_ok_iff.1 hb
        exact ⟨⟨c', hp, rfl⟩, hs, hh, rfl⟩
  · rintro ⟨⟨c', hp, hc⟩, hs, hh, hi⟩
    have hb := Controller.build_eq_ok_iff.2 ⟨hs, hh⟩
    simp only at hc hi hb
    subst hc hi
    simp [hp, hb]

/-- A strategy that can be built and rules that can be compiled are all that loading needs. -/
theorem loadWith_of_parts (hb : c.hasBuiltins = true)
    (hc : c' = Controller.hideListed c s.authorization.disabledPermissions) {strategy : Strategy}
    (hs : t.create s.authorization c' = .ok strategy) {os : List Override}
    (hr : Controller.compileRules c' s.authorization.overrides = .ok os) :
    loadWith s c t = .ok ⟨c', ⟨strategy, os.map Override.toHook⟩, itemsOf c' s.objects⟩ :=
  loadWith_eq_ok_iff.2 ⟨⟨c, prepare_of_hasBuiltins hb, hc⟩, hs, ⟨os, hr, rfl⟩, rfl⟩

/-- With nothing to hide the catalog is left as it is. -/
theorem loadWith_of_compileRules (hb : c.hasBuiltins = true)
    (hd : s.authorization.disabledPermissions = []) {strategy : Strategy}
    (hs : t.create s.authorization c = .ok strategy) {os : List Override}
    (hr : Controller.compileRules c s.authorization.overrides = .ok os) :
    loadWith s c t = .ok ⟨c, ⟨strategy, os.map Override.toHook⟩, itemsOf c s.objects⟩ := by
  refine loadWith_of_parts hb ?_ hs hr
  rw [hd, Controller.hideListed_nil]

/-- With no rules either, a strategy is all that has to be built. -/
theorem loadWith_of_create (hb : c.hasBuiltins = true)
    (hd : s.authorization.disabledPermissions = []) (ho : s.authorization.overrides = [])
    {strategy : Strategy} (hs : t.create s.authorization c = .ok strategy) :
    loadWith s c t = .ok ⟨c, ⟨strategy, []⟩, itemsOf c s.objects⟩ := by
  have hr : Controller.compileRules c s.authorization.overrides = .ok [] := by
    rw [ho]
    rfl
  exact loadWith_of_compileRules hb hd hs hr

theorem Loaded.wellFormed (h : Loaded s c t P) (hc : c.WellFormed) : P.catalog.WellFormed := by
  obtain ⟨c', hp, he⟩ := h.catalog
  rw [he]
  exact (Controller.sameListing_hideListed c' _).wellFormed (wellFormed_of_prepare hc hp)

/-- Whatever it was loaded on, a policy has the builtin permissions. -/
theorem Loaded.hasBuiltins (h : Loaded s c t P) (hc : c.WellFormed) :
    P.catalog.hasBuiltins = true := by
  obtain ⟨c', hp, he⟩ := h.catalog
  have hs := Controller.sameListing_hideListed c' s.authorization.disabledPermissions
  simpa only [Catalog.hasBuiltins, he, hs.lookup] using hasBuiltins_of_prepare hc hp

theorem Loaded.builds (h : Loaded s c .builtin P) :
    StrategyTable.Builds s.authorization P.catalog P.controller.strategy :=
  StrategyTable.create_eq_ok_iff.1 h.strategy

/-- Hooks, before the list of a strategy that restricts no creation. -/
theorem Loaded.hasCreate (h : Loaded s c .builtin P) (x : Option SecuredItem) (who : Identity)
    (t : Target) (kind : String) : (P.controller.aclAt x).hasCreate who t kind = true := by
  rw [Controller.aclAt_eq, Acl.hasCreate, h.builds.hasCreate, Bool.or_true]

theorem Loaded.catalog_eq (h : Loaded s c t P) (hb : c.hasBuiltins = true) :
    P.catalog = Controller.hideListed c s.authorization.disabledPermissions := by
  obtain ⟨c', hp, he⟩ := h.catalog
  rw [prepare_of_hasBuiltins hb] at hp
  cases hp
  exact he

theorem Loaded.sameListing (h : Loaded s c t P) (hb : c.hasBuiltins = true) :
    c.SameListing P.catalog := by
  rw [h.catalog_eq hb]
  exact Controller.sameListing_hideListed c _

theorem itemsOf_concat (c : Catalog) (os : List ObjectSettings) (o : ObjectSettings) :
    itemsOf c (os ++ [o]) = putItem (.ofSettings c o) (itemsOf c os) := by
  simp [itemsOf]

theorem sorted_itemsOf (c : Catalog) (os : List ObjectSettings) :
    Keyed.Sorted SecuredItem.name (itemsOf c os) := by
  induction os using List.reverseRecOn with
  | nil => exact Keyed.sorted_nil
  | append_singleton os o ih =>
    rw [itemsOf_concat]
    exact Keyed.sorted_put ih

/-- The last object of each name is kept. -/
theorem find?_itemsOf (c : Catalog) (os : List ObjectSettings) (name : String) :
    Keyed.find? SecuredItem.name name (itemsOf c os) =
      (os.reverse.find? fun o => o.name == name).map (SecuredItem.ofSettings c) := by
  induction os using List.reverseRecOn with
  | nil => rfl
  | append_singleton os o ih =>
    have hn : (SecuredItem.ofSettings c o).name = o.name := rfl
    rw [itemsOf_concat, putItem, Keyed.find?_put (sorted_itemsOf c os), ih, hn, List.reverse_append,
      List.reverse_singleton, List.singleton_append, List.find?_cons]
    by_cases ho : name = o.name
    · simp [ho]
    · have hb : (o.name == name) = false := beq_false_of_ne (Ne.symm ho)
      rw [if_neg ho, hb]

/-- If all names are different, each object is kept. -/
theorem find?_itemsOf_of_nodup (c : Catalog) {os : List ObjectSettings}
    (hd : (os.map ObjectSettings.name).Nodup) {o : ObjectSettings} (ho : o ∈ os) :
    Keyed.find? SecuredItem.name o.name (itemsOf c os) = some (.ofSettings c o) := by
  rw [find?_itemsOf]
  cases hf : os.reverse.find? fun x => x.name == o.name with
  | none =>
    rw [List.find?_eq_none] at hf
    exact absurd (hf o (List.mem_reverse.2 ho)) (by simp)
  | some x =>
    have hx : x ∈ os := List.mem_reverse.1 (List.mem_of_find?_eq_some hf)
    have he : x.name = o.name := by simpa using List.find?_some hf
    rw [List.inj_on_of_nodup_map hd hx ho he]
    rfl

/-- Every item stands for an object of the settings. -/
theorem exists_of_mem_itemsOf {os : List ObjectSettings} {i : SecuredItem}
    (hi : i ∈ itemsOf c os) : ∃ o ∈ os, i = .ofSettings c o := by
  have hf := Keyed.find?_of_mem (sorted_itemsOf c os) hi
  rw [find?_itemsOf, Option.map_eq_some_iff] at hf
  obtain ⟨o, ho, he⟩ := hf
  exact ⟨o, List.mem_reverse.1 (List.mem_of_find?_eq_some ho), he.symm⟩

theorem nodup_map_name_itemsOf (c : Catalog) (os : List ObjectSettings) :
    ((itemsOf c os).map SecuredItem.name).Nodup :=
  (sorted_itemsOf c os).imp Text.ne_of_before

/-- If all names are different, there is one item for each object. -/
theorem perm_itemsOf (c : Catalog) {os : List ObjectSettings}
    (hd : (os.map ObjectSettings.name).Nodup) :
    (itemsOf c os).Perm (os.map (SecuredItem.ofSettings c)) := by
  have hmap : (os.map (SecuredItem.ofSettings c)).Nodup := by
    refine List.Nodup.of_map SecuredItem.name ?_
    rw [List.map_map]
    exact hd
  rw [List.perm_ext_iff_of_nodup (nodup_map_name_itemsOf c os).of_map hmap]
  intro i
  rw [List.mem_map]
  constructor
  · intro hi
    obtain ⟨o, ho, rfl⟩ := exists_of_mem_itemsOf hi
    exact ⟨o, ho, rfl⟩
  · rintro ⟨o, ho, rfl⟩
    exact (Keyed.mem_of_find? (find?_itemsOf_of_nodup c hd ho)).1

end Policy

end AccessPolicy
