import AccessPolicy.Proofs.Catalog.Installation
import AccessPolicy.Proofs.Policy.Loading

/-!
The catalog step of loading. A catalog that already has all builtin permissions is taken as it is, and
one that has none of the builtin names gets them all. Any other is rejected for the first of these
names that is taken. What was registered before stays where it is.
-/
namespace AccessPolicy

namespace Catalog

variable {c c' : Catalog} {p : Permission} {e : CatalogError}

/-- A scope is listed under the kind. -/
def ListsScope (c : Catalog) (kind : String) : Prop := ∃ s ∈ c.scopes, s.kind = kind

/-- No builtin permission and no builtin scope is there. -/
structure FreeOfBuiltins (c : Catalog) : Prop where
  permission : ∀ b : Builtin, ¬ c.Lists b.id
  scope : ∀ s : BuiltinScope, ¬ c.ListsScope s.kind

/-- The first builtin name that is taken, by the error that reports it. Scopes are registered before
permissions. -/
inductive FirstTaken (c : Catalog) : CatalogError → Prop
  | scope {before after : List BuiltinScope} {s : BuiltinScope}
      (hs : BuiltinScope.all = before ++ s :: after)
      (hbefore : ∀ x ∈ before, ¬ c.ListsScope x.kind) (htaken : c.ListsScope s.kind) :
      FirstTaken c (.duplicateScope s.kind)
  | permission (hscopes : ∀ s : BuiltinScope, ¬ c.ListsScope s.kind)
      {before after : List Builtin} {b : Builtin} (hb : Builtin.all = before ++ b :: after)
      (hbefore : ∀ x ∈ before, ¬ c.Lists x.id) (htaken : c.Lists b.id) :
      FirstTaken c (.duplicate b.id)

/-- What stands under the ids of the builtin permissions, if something stands under each of them. -/
def handles? (c : Catalog) : Option (List Permission) := (Builtin.all.map Builtin.id).mapM c.lookup

theorem mem_kinds_outline {kind : String} : kind ∈ c.outline.kinds ↔ c.ListsScope kind :=
  List.mem_map

theorem findSome?_clash?_eq_some_iff :
    Builtin.declarations.findSome? c.outline.clash? = some e ↔ c.FirstTaken e := by
  rw [findSome?_clash?_builtins, Option.or_eq_some_iff, findSome?_taken_eq_some_iff,
    findSome?_taken_eq_some_iff]
  simp only [List.findSome?_eq_none_iff, ite_eq_right_iff, reduceCtorEq, imp_false,
    mem_kinds_outline, mem_ids_outline]
  constructor
  · rintro (⟨before, s, after, hs, hbefore, htaken, rfl⟩ |
      ⟨hscopes, before, b, after, hb, hbefore, htaken, rfl⟩)
    · exact .scope hs hbefore htaken
    · exact .permission (fun s => hscopes s s.mem_all) hb hbefore htaken
  · rintro (@⟨before, after, s, hs, hbefore, htaken⟩ |
      @⟨hscopes, before, after, b, hb, hbefore, htaken⟩)
    · exact .inl ⟨before, s, after, hs, hbefore, htaken, rfl⟩
    · exact .inr ⟨fun s _ => hscopes s, before, b, after, hb, hbefore, htaken, rfl⟩

theorem findSome?_clash?_eq_none_iff :
    Builtin.declarations.findSome? c.outline.clash? = none ↔ c.FreeOfBuiltins := by
  rw [findSome?_clash?_builtins, Option.or_eq_none_iff]
  simp only [List.findSome?_eq_none_iff, ite_eq_right_iff, reduceCtorEq, imp_false,
    mem_kinds_outline, mem_ids_outline]
  constructor
  · rintro ⟨hscopes, hids⟩
    exact ⟨fun b => hids b b.mem_all, fun s => hscopes s s.mem_all⟩
  · rintro ⟨hids, hscopes⟩
    exact ⟨fun s _ => hscopes s, fun b _ => hids b⟩

theorem FreeOfBuiltins.hasBuiltins_eq_false (hf : c.FreeOfBuiltins) (h : c.WellFormed) :
    c.hasBuiltins = false := by
  rw [← Bool.not_eq_true, h.hasBuiltins_iff]
  exact fun ha => hf.permission .administer (ha .administer)

/-- The builtin permissions go through just if none of their names is taken. -/
theorem WellFormed.registerBuiltins_ok_iff (h : c.WellFormed) :
    (c.registerBuiltins).2 = none ↔ c.FreeOfBuiltins := by
  rw [h.registerBuiltins_eq.1, findSome?_clash?_eq_none_iff]

/-- They stop at the first of their names that is taken. -/
theorem WellFormed.registerBuiltins_error_iff (h : c.WellFormed) :
    (c.registerBuiltins).2 = some e ↔ c.FirstTaken e := by
  rw [h.registerBuiltins_eq.1, findSome?_clash?_eq_some_iff]

theorem isSome_mapM_lookup (c : Catalog) (ids : List String) :
    (ids.mapM c.lookup).isSome = ids.all fun id => (c.lookup id).isSome := by
  induction ids with
  | nil => rfl
  | cons id ids ih =>
    rw [List.mapM_cons, List.all_cons, ← ih]
    cases c.lookup id with
    | none => rfl
    | some p => cases ids.mapM c.lookup <;> rfl

/-- The builtin permissions are found just if each of their ids is taken. -/
theorem isSome_handles? (c : Catalog) : c.handles?.isSome = c.hasBuiltins := by
  rw [handles?, isSome_mapM_lookup, List.all_map]
  rfl

theorem WellFormed.mapM_lookup (h : c.WellFormed) {ps : List Permission}
    (hps : ∀ p ∈ ps, p ∈ c.all) : (ps.map Permission.id).mapM c.lookup = some ps := by
  induction ps with
  | nil => rfl
  | cons p ps ih =>
    obtain ⟨hp, hps⟩ := List.forall_mem_cons.1 hps
    rw [List.map_cons, List.mapM_cons, h.lookup_id hp, ih hps]
    rfl

end Catalog

namespace Policy

variable {c c' : Catalog} {e : CatalogError}

theorem prepare_eq_error_iff :
    prepare c = .error e ↔ c.hasBuiltins = false ∧ c.registerBuiltins.2 = some e := by
  unfold prepare
  cases hb : c.hasBuiltins with
  | true => simp
  | false =>
    obtain ⟨c', r⟩ := c.registerBuiltins
    cases r <;> simp

theorem prepare_of_registerBuiltins (hb : c.hasBuiltins = false)
    (hr : c.registerBuiltins = (c', none)) : prepare c = .ok c' := by
  simp [prepare, hb, hr]

theorem extends_of_prepare (h : c.WellFormed) (hp : prepare c = .ok c') : c.Extends c' := by
  rcases prepare_cases hp with ⟨-, rfl⟩ | hi
  · exact .refl c'
  · obtain ⟨ops, ho⟩ := c.install_eq_run Builtin.declarations
    have hc : c' = c.run ops := by
      rw [← ho, ← Catalog.registerBuiltins, hi]
    exact hc ▸ h.extends_run ops

/-- A catalog after the builtin permissions were added at its end, together. -/
structure Completed (c c' : Catalog) (news : List Permission) : Prop where
  all : c'.all = c.all ++ news
  ids : news.map Permission.id = Builtin.all.map Builtin.id
  handles? : c'.handles? = some news
  /-- All chains end at `Administer`. -/
  chains : ∀ p ∈ news, p.chain.getLast? = c'.lookup Builtin.administer.id

theorem exists_completed (hc : c.Reachable) (hf : c.FreeOfBuiltins) :
    ∃ c' news, prepare c = .ok c' ∧ Completed c c' news := by
  have h := hc.wellFormed
  obtain ⟨c', hr⟩ : ∃ c', c.registerBuiltins = (c', none) :=
    ⟨_, Prod.ext rfl (h.registerBuiltins_ok_iff.2 hf)⟩
  have hp := prepare_of_registerBuiltins (hf.hasBuiltins_eq_false h) hr
  obtain ⟨news, hall⟩ := (extends_of_prepare h hp).all
  have hext : c'.ExtendsBuiltins := ⟨c, c', [], hc, hr, rfl⟩
  have houtline := h.registerBuiltins_eq.2
  rw [hr] at houtline
  -- what comes behind the old listing has the ids of the builtin permissions, in their order
  have hids : news.map Permission.id = Builtin.all.map Builtin.id := by
    have hafter : c'.all.map Permission.id = c.all.map Permission.id ++ Builtin.all.map Builtin.id :=
      congrArg Catalog.Outline.ids (houtline rfl)
    rw [← hall, List.map_append] at hafter
    exact List.append_cancel_left hafter
  have hmem : ∀ p ∈ news, p ∈ c'.all := fun p hp => hall ▸ List.mem_append_right _ hp
  refine ⟨c', news, hp, hall.symm, hids, ?_, ?_⟩
  · rw [Catalog.handles?, ← hids, hext.wellFormed.mapM_lookup hmem]
  · intro p hp
    obtain ⟨b, -, hb⟩ := List.mem_map.1 (hids ▸ List.mem_map_of_mem hp)
    exact hext.getLast?_chain (hmem p hp) hb.symm

theorem loadWith_eq_catalog_iff {s : Settings} {t : StrategyTable} :
    loadWith s c t = .error (.catalog e) ↔ prepare c = .error e := by
  unfold loadWith
  cases prepare c with
  | error e' => simp
  | ok c' =>
    cases hs : Controller.ofSettings s.authorization c' t with
    | mk c'' r => cases r <;> simp [hs]

/-- What becomes of a catalog that a policy is loaded on. -/
structure Preparation (c : Catalog) : Prop where
  /-- It is the catalog alone, and not the settings, that the step depends on. -/
  loadWith_error_iff : ∀ s t e, loadWith s c t = .error (.catalog e) ↔ prepare c = .error e
  loaded : ∀ s t P, loadWith s c t = .ok P → ∃ c', prepare c = .ok c' ∧ c'.SameListing P.catalog
  found_iff : c.handles?.isSome = true ↔ ∀ b : Builtin, c.Lists b.id
  succeeds_iff : (∃ c', prepare c = .ok c') ↔ (∀ b : Builtin, c.Lists b.id) ∨ c.FreeOfBuiltins
  /-- In any other state a name is missing and a name is taken. -/
  rejected_iff : ∀ e, prepare c = .error e ↔ (∃ b : Builtin, ¬ c.Lists b.id) ∧ c.FirstTaken e
  kept : ∀ c', prepare c = .ok c' →
    c.all <+: c'.all ∧ ∀ p ∈ c.all, c'.lookup p.id = some p
  reused : (∀ b : Builtin, c.Lists b.id) → prepare c = .ok c
  completed : c.FreeOfBuiltins → ∃ c' news, prepare c = .ok c' ∧ Completed c c' news

theorem preparation (hc : c.Reachable) : Preparation c := by
  have h := hc.wellFormed
  refine ⟨fun _ _ _ => loadWith_eq_catalog_iff, ?_, ?_, ?_, ?_, ?_, ?_, exists_completed hc⟩
  · intro s t P hl
    obtain ⟨c', hp, he⟩ := (loadWith_eq_ok_iff.1 hl).catalog
    exact ⟨c', hp, he ▸ Controller.sameListing_hideListed c' _⟩
  · rw [Catalog.isSome_handles?, h.hasBuiltins_iff]
  · constructor
    · rintro ⟨c', hp⟩
      rcases prepare_cases hp with ⟨hb, -⟩ | hr
      · exact .inl (h.hasBuiltins_iff.1 hb)
      · exact .inr (h.registerBuiltins_ok_iff.1 (congrArg Prod.snd hr))
    · rintro (ha | hf)
      · exact ⟨c, prepare_of_hasBuiltins (h.hasBuiltins_iff.2 ha)⟩
      · obtain ⟨c', -, hp, -⟩ := exists_completed hc hf
        exact ⟨c', hp⟩
  · intro e
    rw [prepare_eq_error_iff, h.registerBuiltins_error_iff, ← Bool.not_eq_true, h.hasBuiltins_iff,
      not_forall]
  · intro c' hp
    have hext := extends_of_prepare h hp
    exact ⟨hext.all, fun p hm => hext.lookup h (wellFormed_of_prepare h hp) (h.lookup_id hm)⟩
  · exact fun ha => prepare_of_hasBuiltins (h.hasBuiltins_iff.2 ha)

/-- A catalog of one permission, in which a module has taken the kind of one builtin scope. -/
def crowded : Catalog :=
  .run { serial := 0 } [.registerScope "run" [], .register "job" "Read" none []]

theorem preparation_crowded : crowded.Reachable ∧
    prepare crowded = .error (.duplicateScope BuiltinScope.run.kind) ∧
    ∃ c' news, prepare Catalog.jobs = .ok c' ∧ Completed Catalog.jobs c' news := by
  have hc : crowded.Reachable := Catalog.reachable_run 0 _
  have hcrowded : crowded.outline = ⟨["job.Read"], ["run"]⟩ := by decide
  have hmissing : ¬ crowded.Lists Builtin.administer.id := by
    rw [← Catalog.mem_ids_outline, hcrowded]
    decide
  have hfirst : crowded.FirstTaken (.duplicateScope BuiltinScope.run.kind) := by
    rw [← Catalog.findSome?_clash?_eq_some_iff, hcrowded]
    decide
  have hjobs : Catalog.jobs.outline = ⟨["job.Read", "job.team.Build"], []⟩ := by decide
  have hfree : Catalog.jobs.FreeOfBuiltins := by
    rw [← Catalog.findSome?_clash?_eq_none_iff, hjobs]
    decide
  exact ⟨hc, ((preparation hc).rejected_iff _).2 ⟨⟨_, hmissing⟩, hfirst⟩,
    (preparation Catalog.reachable_jobs).completed hfree⟩

end Policy

end AccessPolicy
