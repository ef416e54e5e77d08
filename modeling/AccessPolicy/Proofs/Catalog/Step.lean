import AccessPolicy.Proofs.Catalog.WellFormed

/-!
What an operation may do to a catalog. Whatever its arguments, it refuses, lists one permission at
the end, gives a group a title, adds a scope or changes what is shown. Each of these steps keeps a
catalog well formed and leaves everything that was listed where it is.
-/
namespace AccessPolicy.Catalog

variable {c c' c'' : Catalog} {p q : Permission}

/-- A permission that a catalog may list next. -/
structure Admits (c : Catalog) (p : Permission) : Prop where
  issued : p.issuer = c.serial
  owner_valid : validOwner p.owner = true
  name_valid : validName p.name = true
  free : c.find? p.owner p.name = none
  parent_mem : ∀ q, p.parent? = some q → q ∈ c.all

/-- The catalogs differ at most in which permissions they show. -/
structure SameListing (c c' : Catalog) : Prop where
  serial : c'.serial = c.serial
  all : c'.all = c.all
  groups : c'.groups = c.groups
  scopes : c'.scopes = c.scopes

/-- What a single operation does, at most. -/
inductive Step (c : Catalog) : Catalog → Prop
  | refused : Step c c
  | listed (p : Permission) (enabled : Bool) : c.Admits p → Step c (c.append p enabled)
  | titled (owner title : String) : Step c (c.alterGroup owner (·.retitle title))
  | scopeListed (s : Scope) : Step c { c with scopes := c.scopes ++ [s] }
  | shown (c' : Catalog) : c.SameListing c' → Step c c'

theorem keeps_change {owner : String} {change : Group → Group}
    (hc : ∀ g, (change g).owner = g.owner) :
    Keyed.Keeps Group.owner owner fun g => change (g.getD (.ofOwner owner)) :=
  ⟨hc _, fun g hg => (hc g).trans hg⟩

theorem group?_alterGroup (h : c.WellFormed) {owner : String} {change : Group → Group}
    (hc : ∀ g, (change g).owner = g.owner) (o : String) :
    (c.alterGroup owner change).group? o =
      if o = owner then some (change ((c.group? owner).getD (.ofOwner owner))) else c.group? o :=
  Keyed.find?_alter h.groups_sorted (keeps_change hc) o

theorem permissions_getD (h : c.WellFormed) (owner : String) :
    ((c.group? owner).getD (.ofOwner owner)).permissions =
      c.all.filter fun p => p.owner == owner := by
  rw [← h.grouped owner]
  cases c.group? owner <;> rfl

/-- Opening a group that is there changes nothing. -/
theorem alterGroup_id (h : c.WellFormed) {owner name : String} (hp : c.find? owner name = some p) :
    c.alterGroup owner (fun g => g) = c := by
  obtain ⟨g, hg, -⟩ := Option.bind_eq_some_iff.1 hp
  have ha : Keyed.alter Group.owner owner (fun g => g.getD (.ofOwner owner)) c.groups = c.groups :=
    Keyed.alter_of_find? h.groups_sorted hg rfl
  simp only [alterGroup, ha]

/-- Opening a group before listing a permission in it makes no difference. -/
theorem append_alterGroup_id (p : Permission) (enabled : Bool) :
    (c.alterGroup p.owner fun g => g).append p enabled = c.append p enabled := by
  have hk : Keyed.Keeps Group.owner p.owner fun g => g.getD (.ofOwner p.owner) :=
    keeps_change fun _ => rfl
  simp only [append, alterGroup, Keyed.alter_alter hk, Option.getD_some]

theorem owner_push (p : Permission) (g : Group) : (g.push p).owner = g.owner := rfl

theorem getElem?_concat_eq_some_iff {xs : List α} {x y : α} {i : Nat} :
    (xs ++ [x])[i]? = some y ↔ xs[i]? = some y ∨ i = xs.length ∧ x = y := by
  rw [List.getElem?_append]
  by_cases h : i < xs.length
  · simp [h, Nat.ne_of_lt h]
  · by_cases he : i = xs.length
    · simp [he]
    · have hp : 0 < i - xs.length := by omega
      simp [h, he, List.getElem?_eq_none (show [x].length ≤ i - xs.length from hp)]

theorem id_notMem (h : c.WellFormed) (hp : c.Admits p) : p.id ∉ c.all.map Permission.id := by
  intro hm
  obtain ⟨q, hq, he⟩ := List.mem_map.1 hm
  have hc := q.cutAtLast_id (h.name_valid q hq)
  rw [he, p.cutAtLast_id hp.name_valid, Option.some.injEq, Prod.mk.injEq] at hc
  have hf := h.find?_eq_some_iff.2 ⟨hq, hc.1.symm, hc.2.symm⟩
  rw [hp.free] at hf
  cases hf

theorem wellFormed_alterGroup (h : c.WellFormed) {owner : String} {change : Group → Group}
    (hc : ∀ g, (change g).owner = g.owner) (hp : ∀ g, (change g).permissions = g.permissions) :
    (c.alterGroup owner change).WellFormed where
  issued := h.issued
  owner_valid := h.owner_valid
  name_valid := h.name_valid
  ids_nodup := h.ids_nodup
  groups_sorted := Keyed.sorted_alter h.groups_sorted (keeps_change hc)
  grouped o := by
    rw [group?_alterGroup h hc, all_alterGroup]
    by_cases ho : o = owner
    · rw [if_pos ho, ho, Option.elim_some, hp, permissions_getD h]
    · rw [if_neg ho, h.grouped]
  parent_before := h.parent_before

theorem forall_mem_append {P : Permission → Prop} (h : ∀ q ∈ c.all, P q) (hp : P p)
    (enabled : Bool) : ∀ q ∈ (c.append p enabled).all, P q := by
  intro q hq
  rw [all_append, List.mem_append, List.mem_singleton] at hq
  rcases hq with hq | rfl
  · exact h q hq
  · exact hp

theorem wellFormed_append (h : c.WellFormed) (hp : c.Admits p) (enabled : Bool) :
    (c.append p enabled).WellFormed where
  issued := forall_mem_append h.issued hp.issued enabled
  owner_valid := forall_mem_append h.owner_valid hp.owner_valid enabled
  name_valid := forall_mem_append h.name_valid hp.name_valid enabled
  ids_nodup := by
    rw [all_append, List.map_append, List.map_singleton, ← List.concat_eq_append]
    exact h.ids_nodup.concat (id_notMem h hp)
  groups_sorted := Keyed.sorted_alter h.groups_sorted (keeps_change (owner_push p))
  grouped o := by
    have hg : (c.append p enabled).group? o = (c.alterGroup p.owner (·.push p)).group? o := rfl
    rw [hg, group?_alterGroup h (owner_push p), all_append, List.filter_append]
    by_cases ho : o = p.owner
    · subst ho
      simp [Group.push, permissions_getD h]
    · rw [if_neg ho, h.grouped]
      simp [Ne.symm ho]
  parent_before i x q hx hq := by
    rw [all_append] at hx ⊢
    rcases getElem?_concat_eq_some_iff.1 hx with hx | ⟨rfl, rfl⟩
    · obtain ⟨j, hj, hjq⟩ := h.parent_before i x q hx hq
      exact ⟨j, hj, getElem?_concat_eq_some_iff.2 (.inl hjq)⟩
    · obtain ⟨j, hj⟩ := List.mem_iff_getElem?.1 (hp.parent_mem q hq)
      refine ⟨j, ?_, getElem?_concat_eq_some_iff.2 (.inl hj)⟩
      exact (List.getElem?_eq_some_iff.1 hj).1

theorem SameListing.refl (c : Catalog) : c.SameListing c := ⟨rfl, rfl, rfl, rfl⟩

theorem SameListing.trans (h : c.SameListing c') (h' : c'.SameListing c'') : c.SameListing c'' :=
  ⟨h'.serial.trans h.serial, h'.all.trans h.all, h'.groups.trans h.groups, h'.scopes.trans h.scopes⟩

theorem SameListing.lookup (h : c.SameListing c') (id : String) : c'.lookup id = c.lookup id := by
  simp only [Catalog.lookup, find?, group?, h.groups]

theorem SameListing.wellFormed (hs : c.SameListing c') (h : c.WellFormed) : c'.WellFormed where
  issued := by simpa only [hs.all, hs.serial] using h.issued
  owner_valid := by simpa only [hs.all] using h.owner_valid
  name_valid := by simpa only [hs.all] using h.name_valid
  ids_nodup := by simpa only [hs.all] using h.ids_nodup
  groups_sorted := by simpa only [hs.groups] using h.groups_sorted
  grouped := by simpa only [group?, hs.all, hs.groups] using h.grouped
  parent_before := by simpa only [hs.all] using h.parent_before

theorem Step.wellFormed (hs : Step c c') (h : c.WellFormed) : c'.WellFormed := by
  cases hs with
  | refused => exact h
  | listed p enabled hp => exact wellFormed_append h hp enabled
  | titled owner title => exact wellFormed_alterGroup h (fun _ => rfl) fun _ => rfl
  | scopeListed s => exact ⟨h.1, h.2, h.3, h.4, h.5, h.6, h.7⟩
  | shown c' hs => exact hs.wellFormed h

/-- What is listed in `c` is listed in `c'`, in the same places. -/
structure Extends (c c' : Catalog) : Prop where
  serial : c'.serial = c.serial
  all : c.all <+: c'.all

theorem Extends.refl (c : Catalog) : c.Extends c := ⟨rfl, List.prefix_rfl⟩

theorem Extends.trans (h : c.Extends c') (h' : c'.Extends c'') : c.Extends c'' :=
  ⟨h'.serial.trans h.serial, h.all.trans h'.all⟩

theorem Step.extends (hs : Step c c') : c.Extends c' := by
  cases hs with
  | refused => exact .refl c
  | listed p enabled hp => exact ⟨rfl, by simp⟩
  | titled owner title => exact ⟨rfl, List.prefix_rfl⟩
  | scopeListed s => exact ⟨rfl, List.prefix_rfl⟩
  | shown c' hs => exact ⟨hs.serial, hs.all ▸ List.prefix_rfl⟩

/-- What an id leads to, it leads to ever after. -/
theorem Extends.lookup (h : c.Extends c') (hc : c.WellFormed) (hc' : c'.WellFormed) {s : String}
    (hp : c.lookup s = some p) : c'.lookup s = some p := by
  obtain ⟨hm, hs⟩ := hc.lookup_eq_some_iff.1 hp
  exact hc'.lookup_eq_some_iff.2 ⟨h.all.subset hm, hs⟩

end AccessPolicy.Catalog
