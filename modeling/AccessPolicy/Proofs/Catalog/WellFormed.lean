import AccessPolicy.Catalog.Basic
import Mathlib.Data.List.Nodup

/-!
Well-formed catalogs. The two listings of the permissions agree, ids are distinct and can be taken
apart again, and every parent stands before its children. So looking an id up in the groups finds
the permission that is listed under it, and a chain never leaves its catalog.
-/
namespace AccessPolicy

/-- A name consists of letters, digits and underscores. -/
theorem notMem_of_validName {name : String} {x : Char} (h : validName name = true)
    (hs : isNameStart x = false) (hp : isNamePart x = false) : x ∉ name.toList := by
  unfold validName at h
  cases hn : name.toList with
  | nil => simp
  | cons c r =>
    simp only [hn, Bool.and_eq_true, List.all_eq_true] at h
    intro hx
    rcases List.mem_cons.1 hx with rfl | hx
    · simp [hs] at h
    · have := h.2 x hx
      simp [hp] at this

/-- A name has no dot, so the last dot of an id is the one in front of the name. -/
theorem dot_notMem_of_validName {name : String} (h : validName name = true) :
    '.' ∉ name.toList :=
  notMem_of_validName h (by decide) (by decide)

/-- A letter or an underscore, and then letters, digits and underscores. -/
def IsIdentifier (name : String) : Prop :=
  ∃ c r, name.toList = c :: r ∧ (c.isAlpha = true ∨ c = '_') ∧
    ∀ x ∈ r, x.isAlphanum = true ∨ x = '_'

theorem validName_iff {name : String} : validName name = true ↔ IsIdentifier name := by
  unfold validName IsIdentifier
  cases name.toList with
  | nil => simp
  | cons c r =>
    simp only [Bool.and_eq_true, List.all_eq_true, isNameStart, isNamePart, Bool.or_eq_true,
      beq_iff_eq, List.cons.injEq]
    constructor
    · exact fun h => ⟨c, r, ⟨rfl, rfl⟩, h⟩
    · rintro ⟨_, _, ⟨rfl, rfl⟩, h⟩
      exact h

theorem validOwner_iff {owner : String} :
    validOwner owner = true ↔ owner ≠ "" ∧ ':' ∉ owner.toList := by
  simp [validOwner]

theorem Permission.cutAtLast_id {p : Permission} (h : validName p.name = true) :
    Text.cutAtLast '.' p.id = some (p.owner, p.name) := by
  rw [Text.cutAtLast_eq_some_iff]
  exact ⟨by simp [Permission.id], dot_notMem_of_validName h⟩

/-- A chain is longer than the chain of any of its proper ancestors, so it does not come back. -/
theorem Permission.chain_length_le {p q : Permission} (h : q ∈ p.chain) :
    q.chain.length ≤ p.chain.length := by
  induction p with
  | root c => simp_all
  | implied c r ih =>
    rw [chain_implied] at h
    rcases List.mem_cons.1 h with rfl | h
    · exact Nat.le_refl _
    · have := ih h
      simp only [chain_implied, List.length_cons]
      omega

theorem Permission.chain_length_lt {p q : Permission} (h : q ∈ p.ancestors) :
    q.chain.length < p.chain.length := by
  cases p with
  | root c => cases h
  | implied c r =>
    have hle : q.chain.length ≤ r.chain.length := chain_length_le h
    rw [chain_implied, List.length_cons]
    omega

theorem Permission.chain_nodup (p : Permission) : p.chain.Nodup := by
  induction p with
  | root c => simp
  | implied c r ih =>
    rw [chain_implied, List.nodup_cons]
    refine ⟨?_, ih⟩
    intro h
    have := chain_length_le h
    simp only [chain_implied, List.length_cons] at this
    omega

/-- Of two permissions on one chain, one is on the chain of the other. -/
theorem Permission.mem_chain_or_mem_chain {p q r : Permission} (hq : q ∈ p.chain)
    (hr : r ∈ p.chain) : r ∈ q.chain ∨ q ∈ r.chain := by
  rcases List.suffix_or_suffix_of_suffix (chain_suffix hq) (chain_suffix hr) with h | h
  · exact .inr (h.subset q.self_mem_chain)
  · exact .inl (h.subset r.self_mem_chain)

/-- What a chain has below one of its permissions is what the chain of that permission lacks. -/
theorem Permission.mem_ancestors_iff {p q r : Permission} (hq : q ∈ p.chain) (hr : r ∈ p.chain) :
    q ∈ r.ancestors ↔ r ∉ q.chain := by
  constructor
  · intro hbelow hmem
    have hlt := chain_length_lt hbelow
    have hle := chain_length_le hmem
    omega
  · intro hout
    have hmem := (mem_chain_or_mem_chain hq hr).resolve_left hout
    rw [r.chain_eq_cons, List.mem_cons] at hmem
    rcases hmem with rfl | hmem
    · exact absurd q.self_mem_chain hout
    · exact hmem

namespace Catalog

variable {c c' : Catalog} {p q : Permission}

/-- A permission is listed under the id. -/
def Lists (c : Catalog) (id : String) : Prop := ∃ p ∈ c.all, p.id = id

/-- What holds of a catalog from its creation on. -/
structure WellFormed (c : Catalog) : Prop where
  issued : ∀ p ∈ c.all, p.issuer = c.serial
  owner_valid : ∀ p ∈ c.all, validOwner p.owner = true
  name_valid : ∀ p ∈ c.all, validName p.name = true
  ids_nodup : (c.all.map Permission.id).Nodup
  groups_sorted : Keyed.Sorted Group.owner c.groups
  /-- The group of an owner lists what the catalog lists of that owner. -/
  grouped : ∀ owner,
    (c.group? owner).elim [] Group.permissions = c.all.filter fun p => p.owner == owner
  /-- A parent is listed before its children. -/
  parent_before : ∀ (i : Nat) (p q : Permission), c.all[i]? = some p → p.parent? = some q →
    ∃ j, j < i ∧ c.all[j]? = some q

namespace WellFormed

theorem eq_of_id_eq (h : c.WellFormed) (hp : p ∈ c.all) (hq : q ∈ c.all) (he : p.id = q.id) :
    p = q :=
  List.inj_on_of_nodup_map h.ids_nodup hp hq he

theorem find?_eq (h : c.WellFormed) (owner name : String) :
    c.find? owner name = c.all.find? fun p => p.owner == owner && p.name == name := by
  calc c.find? owner name
      = ((c.group? owner).elim [] Group.permissions).find? fun p => p.name == name := by
        unfold find?
        cases c.group? owner <;> rfl
    _ = _ := by
        rw [h.grouped, List.find?_filter]
        simp only [Bool.decide_and, Bool.decide_eq_true]

theorem find?_eq_some_iff (h : c.WellFormed) {owner name : String} :
    c.find? owner name = some p ↔ p ∈ c.all ∧ p.owner = owner ∧ p.name = name := by
  rw [h.find?_eq]
  constructor
  · intro hf
    exact ⟨List.mem_of_find?_eq_some hf, by simpa using List.find?_some hf⟩
  · rintro ⟨hp, rfl, rfl⟩
    cases hf : c.all.find? fun q => q.owner == p.owner && q.name == p.name with
    | none =>
      rw [List.find?_eq_none] at hf
      exact absurd (hf p hp) (by simp)
    | some q =>
      have hq := List.mem_of_find?_eq_some hf
      have he : q.owner = p.owner ∧ q.name = p.name := by simpa using List.find?_some hf
      rw [h.eq_of_id_eq hq hp (by simp [Permission.id, he.1, he.2])]

/-- An id leads to the permission that is listed under it, and to nothing else. -/
theorem lookup_eq_some_iff (h : c.WellFormed) {s : String} :
    c.lookup s = some p ↔ p ∈ c.all ∧ p.id = s := by
  rw [lookup, Option.bind_eq_some_iff]
  constructor
  · rintro ⟨⟨owner, name⟩, hs, hf⟩
    obtain ⟨hp, rfl, rfl⟩ := h.find?_eq_some_iff.1 hf
    refine ⟨hp, String.toList_inj.1 ?_⟩
    rw [(Text.cutAtLast_eq_some_iff.1 hs).1]
    simp [Permission.id]
  · rintro ⟨hp, rfl⟩
    exact ⟨_, p.cutAtLast_id (h.name_valid p hp), h.find?_eq_some_iff.2 ⟨hp, rfl, rfl⟩⟩

theorem lookup_id (h : c.WellFormed) (hp : p ∈ c.all) : c.lookup p.id = some p :=
  h.lookup_eq_some_iff.2 ⟨hp, rfl⟩

theorem lists_iff (h : c.WellFormed) {id : String} : c.Lists id ↔ ∃ p, c.lookup id = some p :=
  (exists_congr fun _ => h.lookup_eq_some_iff).symm

/-- Neither owners nor names have colons, so the first colon of a line ends its id. -/
theorem colon_notMem_id (h : c.WellFormed) (hp : p ∈ c.all) : ':' ∉ p.id.toList := by
  have howner := (validOwner_iff.1 (h.owner_valid p hp)).2
  have hname := notMem_of_validName (x := ':') (h.name_valid p hp) (by decide) (by decide)
  simp [Permission.id, howner, hname]

theorem mem_of_own? (h : c.WellFormed) (hq : c.own? p = some q) : q ∈ c.all := by
  rw [own?, Option.filter_eq_some_iff] at hq
  exact (h.find?_eq_some_iff.1 hq.1).1

theorem id_of_own? (h : c.WellFormed) (hq : c.own? p = some q) : q.id = p.id := by
  rw [own?, Option.filter_eq_some_iff] at hq
  obtain ⟨-, ho, hn⟩ := h.find?_eq_some_iff.1 hq.1
  rw [Permission.id, Permission.id, ho, hn]

/-- What is found under ids has these ids. -/
theorem map_id_of_lookup (h : c.WellFormed) {id : Option String} {o : Option Permission}
    (ho : id.map c.lookup = o.map some) : o.map Permission.id = id := by
  cases id with
  | none => cases o <;> simp_all
  | some id =>
    cases o with
    | none => cases ho
    | some p =>
      have hp : c.lookup id = some p := Option.some.inj ho
      exact congrArg some (h.lookup_eq_some_iff.1 hp).2

theorem parent_mem (h : c.WellFormed) (hp : p ∈ c.all) (hq : p.parent? = some q) : q ∈ c.all := by
  obtain ⟨i, hi⟩ := List.mem_iff_getElem?.1 hp
  obtain ⟨j, _, hj⟩ := h.parent_before i p q hi hq
  exact List.mem_iff_getElem?.2 ⟨j, hj⟩

theorem chain_mem (h : c.WellFormed) (hp : p ∈ c.all) (hq : q ∈ p.chain) : q ∈ c.all := by
  induction p with
  | root r => simp_all
  | implied r parent ih =>
    rcases List.mem_cons.1 hq with rfl | hq
    · exact hp
    · exact ih (h.parent_mem hp rfl) hq

/-- The ids of a chain tell which permissions of the catalog are on it. -/
theorem id_mem_chainIds_iff (h : c.WellFormed) (hp : p ∈ c.all) (hq : q ∈ c.all) :
    q.id ∈ p.chainIds ↔ q ∈ p.chain := by
  rw [Permission.chainIds, List.mem_map]
  constructor
  · rintro ⟨r, hr, hid⟩
    exact h.eq_of_id_eq (h.chain_mem hp hr) hq hid ▸ hr
  · exact fun hm => ⟨q, hm, rfl⟩

/-- No id comes twice on a chain. -/
theorem chainIds_nodup (h : c.WellFormed) (hp : p ∈ c.all) : p.chainIds.Nodup := by
  refine List.Nodup.map_on ?_ p.chain_nodup
  intro x hx y hy he
  exact h.eq_of_id_eq (h.chain_mem hp hx) (h.chain_mem hp hy) he

end WellFormed

theorem wellFormed_empty (serial : Nat) : ({ serial } : Catalog).WellFormed where
  issued := by simp [all]
  owner_valid := by simp [all]
  name_valid := by simp [all]
  ids_nodup := by simp [all]
  groups_sorted := Keyed.sorted_nil
  grouped := by simp [all, group?]
  parent_before := by simp [all]

end Catalog

end AccessPolicy
