import AccessPolicy.Proofs.Catalog.Outline

/-!
The builtin permissions in a catalog. Once they are registered they stand in it as they were declared,
each below its declared parent, whatever is registered before or after them. A catalog in which all
their ids are taken may still have other permissions under these ids.
-/
namespace AccessPolicy.Catalog

variable {c c' : Catalog} {p : Permission}

theorem WellFormed.of_registerBuiltins (h : c.WellFormed) (hi : c.registerBuiltins = (c', none)) :
    c'.WellFormed := by
  have hw : c.registerBuiltins.1.WellFormed := h.install Builtin.declarations
  rwa [hi] at hw

/-- Registering the builtin permissions puts each below the parent that it was declared with. -/
theorem WellFormed.lookup_builtin (h : c.WellFormed) (hi : c.registerBuiltins = (c', none))
    (b : Builtin) :
    ∃ p, c'.lookup b.id = some p ∧ p.parent?.map Permission.id = b.parent?.map Builtin.id := by
  have hm : b.declaration ∈ Builtin.declarations :=
    List.mem_append_right _ (List.mem_map_of_mem b.mem_all)
  exact h.lookup_install hi hm

theorem hasBuiltins_of_lookup (h : ∀ b : Builtin, ∃ p, c.lookup b.id = some p) :
    c.hasBuiltins = true :=
  List.all_eq_true.2 fun b _ => Option.isSome_iff_exists.2 (h b)

theorem WellFormed.hasBuiltins_iff (h : c.WellFormed) :
    c.hasBuiltins = true ↔ ∀ b : Builtin, c.Lists b.id := by
  rw [hasBuiltins, List.all_eq_true]
  simp only [h.lookup_isSome_iff, mem_ids_outline]
  exact ⟨fun ha b => ha b b.mem_all, fun ha b _ => ha b⟩

theorem WellFormed.hasBuiltins_of_registerBuiltins (h : c.WellFormed)
    (hi : c.registerBuiltins = (c', none)) : c'.hasBuiltins = true := by
  refine hasBuiltins_of_lookup fun b => ?_
  obtain ⟨p, hp, -⟩ := h.lookup_builtin hi b
  exact ⟨p, hp⟩

/-- The builtin permissions were registered at some time of its history. -/
def ExtendsBuiltins (c : Catalog) : Prop :=
  ∃ (before after : Catalog) (ops : List Operation),
    before.Reachable ∧ before.registerBuiltins = (after, none) ∧ c = after.run ops

namespace ExtendsBuiltins

theorem wellFormed (h : c.ExtendsBuiltins) : c.WellFormed := by
  obtain ⟨before, after, ops, hr, hi, rfl⟩ := h
  exact (hr.wellFormed.of_registerBuiltins hi).run ops

theorem lookup_builtin (h : c.ExtendsBuiltins) (b : Builtin) :
    ∃ p, c.lookup b.id = some p ∧ p.parent?.map Permission.id = b.parent?.map Builtin.id := by
  obtain ⟨before, after, ops, hr, hi, rfl⟩ := h
  obtain ⟨p, hp, hparent⟩ := hr.wellFormed.lookup_builtin hi b
  exact ⟨p, (hr.wellFormed.of_registerBuiltins hi).lookup_run ops hp, hparent⟩

/-- Under the id of a builtin permission stands that permission, below its declared parent. -/
theorem map_id_parent? (h : c.ExtendsBuiltins) (hp : p ∈ c.all) {b : Builtin} (hid : p.id = b.id) :
    p.parent?.map Permission.id = b.parent?.map Builtin.id := by
  obtain ⟨q, hq, hparent⟩ := h.lookup_builtin b
  rw [← hid, h.wellFormed.lookup_id hp, Option.some.injEq] at hq
  rw [hq, hparent]

/-- Nothing but itself implies `Administer`. -/
theorem chainIds_administer (h : c.ExtendsBuiltins) (hp : p ∈ c.all)
    (hid : p.id = Builtin.administer.id) : p.chainIds = [Builtin.administer.id] := by
  have hparent := h.map_id_parent? hp hid
  cases p with
  | root self => rw [Permission.chainIds_root, hid]
  | implied self q => cases hparent

/-- The chain of a builtin permission ends at `Administer`. -/
theorem getLast?_chain (h : c.ExtendsBuiltins) (hp : p ∈ c.all) {b : Builtin}
    (hid : p.id = b.id) : p.chain.getLast? = c.lookup Builtin.administer.id := by
  induction p generalizing b with
  | root self =>
    have hparent := h.map_id_parent? hp hid
    have hb : b = .administer := by
      cases b with
      | administer => rfl
      | _ => cases hparent
    rw [Permission.chain_root, List.getLast?_singleton, ← hb, ← hid, h.wellFormed.lookup_id hp]
  | implied self q ih =>
    have hparent : some q.id = b.parent?.map Builtin.id := h.map_id_parent? hp hid
    obtain ⟨b', -, hq⟩ := Option.map_eq_some_iff.1 hparent.symm
    have hlast : q.chain.getLast? = c.lookup Builtin.administer.id :=
      ih (h.wellFormed.parent_mem hp rfl) hq.symm
    rw [Permission.chain_implied, q.chain_eq_cons, List.getLast?_cons_cons, ← q.chain_eq_cons, hlast]

theorem hasBuiltins (h : c.ExtendsBuiltins) : c.hasBuiltins = true := by
  refine hasBuiltins_of_lookup fun b => ?_
  obtain ⟨p, hp, -⟩ := h.lookup_builtin b
  exact ⟨p, hp⟩

/-- Under a free id a permission may be registered below any of the builtin ones. -/
theorem exists_below (h : c.ExtendsBuiltins) (b : Builtin) (owner name : String)
    (ho : validOwner owner = true) (hn : validName name = true)
    (hf : owner ++ "." ++ name ∉ c.all.map Permission.id) :
    ∃ (c' : Catalog) (p : Permission), c'.ExtendsBuiltins ∧ p ∈ c'.all ∧
      p.id = owner ++ "." ++ name ∧ p.parent?.map Permission.id = some b.id := by
  have hw := h.wellFormed
  obtain ⟨q, hq, -⟩ := h.lookup_builtin b
  obtain ⟨hqm, hqid⟩ := hw.lookup_eq_some_iff.1 hq
  have hdefine := hw.define_eq (d := { owner, name, parent := some q }) (by simpa using hqm)
  rw [if_pos ⟨ho, hn, hf⟩] at hdefine
  cases hd : c.define { owner, name, parent := some q } with
  | error e =>
    rw [hd] at hdefine
    cases hdefine
  | ok r =>
    obtain ⟨p, c'⟩ := r
    obtain ⟨hp, hparent⟩ := lookup_define hw hd
    obtain ⟨before, after, ops, hr, hi, rfl⟩ := h
    have hext : c'.ExtendsBuiltins := by
      refine ⟨before, after, ops ++ [.define { owner, name, parent := some q }], hr, hi, ?_⟩
      rw [run_append, run_cons, run_nil, apply_define hd]
    obtain ⟨hm, hid⟩ := hext.wellFormed.lookup_eq_some_iff.1 hp
    exact ⟨c', p, hext, hm, hid, hqid ▸ hparent⟩

end ExtendsBuiltins

/-- A catalog of the builtin permissions and nothing else. -/
def builtins : Catalog := (registerBuiltins { serial := 0 }).1

theorem reachable_builtins : builtins.Reachable := by
  rw [builtins, registerBuiltins]
  exact reachable_install 0 Builtin.declarations

theorem registerBuiltins_empty : registerBuiltins { serial := 0 } = (builtins, none) := by
  obtain ⟨c, hc, -⟩ := registerBuiltins_fresh 0
  rw [builtins, hc]

theorem map_id_builtins : builtins.all.map Permission.id = Builtin.all.map Builtin.id := by
  obtain ⟨c, hc, hids⟩ := registerBuiltins_fresh 0
  rw [builtins, hc]
  exact hids

theorem extendsBuiltins_builtins : builtins.ExtendsBuiltins :=
  ⟨{ serial := 0 }, builtins, [], reachable_run 0 [], registerBuiltins_empty,
    (run_nil _).symm⟩

theorem hasBuiltins_builtins : builtins.hasBuiltins = true :=
  extendsBuiltins_builtins.hasBuiltins

end AccessPolicy.Catalog
