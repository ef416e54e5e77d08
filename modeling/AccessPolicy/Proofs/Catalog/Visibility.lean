import AccessPolicy.Controller
import AccessPolicy.Proofs.Catalog.Run

/-!
What administrators are shown. A permission is shown or hidden by its own registration, so nothing
that is registered later changes it, and hiding a list of ids hides just the permissions that are
listed under them and leaves the rest of the catalog as it is.
-/
namespace AccessPolicy

/-- Adds to a catalog, or does nothing, and leaves alone what is shown. -/
def Operation.Registers : Operation → Prop
  | .define _ => True
  | .register _ _ _ _ => True
  | .registerGroup _ _ => True
  | .registerScope _ _ => True
  | .setEnabled _ _ => False

namespace Catalog

variable {c : Catalog} {p q : Permission} {id : String}

theorem isEnabled_iff :
    c.isEnabled p = true ↔
      ∀ e ∈ c.entries, e.permission.owner = p.owner ∧ e.permission.name = p.name →
        e.enabled = true := by
  simp only [isEnabled, List.all_eq_true, Bool.or_eq_true, bne_iff_ne, or_assoc]
  refine forall₂_congr fun e _ => ?_
  rw [← not_and_or, or_comm, or_iff_not_imp_left, not_not]

theorem isEnabled_append (h : c.WellFormed) (ha : c.Admits q) (hp : p ∈ c.all) (enabled : Bool) :
    (c.append q enabled).isEnabled p = c.isEnabled p := by
  have hentries : (c.append q enabled).entries = c.entries ++ [⟨q, enabled⟩] := rfl
  rw [Bool.eq_iff_iff, isEnabled_iff, isEnabled_iff, hentries, List.forall_mem_append]
  refine and_iff_left ?_
  rintro e he ⟨ho, hn⟩
  obtain rfl := List.mem_singleton.1 he
  -- the new permission has a name that its owner had not used
  have hf := h.find?_eq_some_iff.2 ⟨hp, ho.symm, hn.symm⟩
  rw [ha.free] at hf
  cases hf

theorem isEnabled_enter (h : c.WellFormed) (hp : p ∈ c.all) (d : Definition) :
    (c.enter d).1.isEnabled p = c.isEnabled p := by
  rcases enter_cases h d with ⟨e, he⟩ | ⟨q, -, -, ha, he⟩
  · rw [he]
  · rw [he]
    exact isEnabled_append h ha hp d.enabled

theorem isEnabled_apply (h : c.WellFormed) (hp : p ∈ c.all) {op : Operation} (ho : op.Registers) :
    (c.apply op).isEnabled p = c.isEnabled p := by
  cases op with
  | define d => exact isEnabled_enter h hp d
  | register owner name parent scopes => exact isEnabled_enter h hp _
  | registerGroup owner title =>
    have he : (c.apply (.registerGroup owner title)).entries = c.entries := by
      by_cases hv : validOwner owner = true <;>
        simp [apply, registerGroup, hv, Except.toOption, alterGroup]
    rw [isEnabled, isEnabled, he]
  | registerScope kind containers =>
    have he : (c.apply (.registerScope kind containers)).entries = c.entries := by
      by_cases hk : (c.scope? kind).isSome = true <;>
        simp [apply, registerScope, hk, Except.toOption, Except.map]
    rw [isEnabled, isEnabled, he]
  | setEnabled id enabled => exact ho.elim

/-- No registration shows or hides what was there before. -/
theorem isEnabled_run (h : c.WellFormed) (hp : p ∈ c.all) {ops : List Operation}
    (ho : ∀ op ∈ ops, op.Registers) : (c.run ops).isEnabled p = c.isEnabled p := by
  induction ops generalizing c with
  | nil => rfl
  | cons op ops ih =>
    obtain ⟨hop, hops⟩ := List.forall_mem_cons.1 ho
    have hs := step_apply h op
    rw [run_cons, ih (hs.wellFormed h) (hs.extends.all.subset hp) hops, isEnabled_apply h hp hop]

/-- The catalog with the permission called `id` shown or hidden, if there is one. -/
def mark (c : Catalog) (id : String) (enabled : Bool) : Catalog :=
  { c with entries := c.entries.map fun e => if e.permission.id = id then { e with enabled } else e }

/-- The catalog with the permissions called by these ids hidden. -/
def hide (c : Catalog) (ids : List String) : Catalog :=
  { c with entries := c.entries.map fun e =>
      { e with enabled := e.enabled && !ids.contains e.permission.id } }

theorem mark_of_forall_ne (h : ∀ p ∈ c.all, p.id ≠ id) (enabled : Bool) : c.mark id enabled = c := by
  have he : c.entries.map (fun e => if e.permission.id = id then { e with enabled } else e) =
      c.entries := by
    rw [List.map_congr_left (g := fun e => e), List.map_id']
    intro e he
    exact if_neg (h _ (List.mem_map_of_mem he))
  rw [mark, he]

/-- A permission is shown and hidden under its own id and no other, and an id that is not registered
shows and hides nothing. -/
theorem getD_setEnabled (h : c.WellFormed) (id : String) (enabled : Bool) :
    (c.setEnabled id enabled).toOption.getD c = c.mark id enabled := by
  unfold setEnabled
  cases hp : c.lookup id with
  | none =>
    refine (mark_of_forall_ne ?_ enabled).symm
    rintro p hm rfl
    rw [h.lookup_id hm] at hp
    cases hp
  | some p =>
    obtain ⟨hm, rfl⟩ := h.lookup_eq_some_iff.1 hp
    simp only [Except.toOption, Option.getD_some, mark, Bool.and_eq_true, beq_iff_eq]
    congr 1
    refine List.map_congr_left fun e he => if_congr ?_ rfl rfl
    constructor
    · rintro ⟨ho, hn⟩
      rw [Permission.id, Permission.id, ho, hn]
    · intro hid
      rw [h.eq_of_id_eq (List.mem_map_of_mem he) hm hid]
      exact ⟨rfl, rfl⟩

theorem hide_mark (c : Catalog) (id : String) (ids : List String) :
    (c.mark id false).hide ids = c.hide (id :: ids) := by
  simp only [hide, mark, List.map_map]
  congr 1
  refine List.map_congr_left fun e _ => ?_
  rw [Function.comp_apply, List.contains_cons]
  by_cases hid : e.permission.id = id
  · simp [hid]
  · rw [if_neg hid, beq_false_of_ne hid, Bool.false_or]

theorem sameListing_mark (c : Catalog) (id : String) (enabled : Bool) :
    c.SameListing (c.mark id enabled) := by
  refine ⟨rfl, ?_, rfl, rfl⟩
  rw [mark, all, all, List.map_map]
  refine List.map_congr_left fun e _ => ?_
  rw [Function.comp_apply]
  split <;> rfl

theorem sameListing_hide (c : Catalog) (ids : List String) : c.SameListing (c.hide ids) := by
  refine ⟨rfl, ?_, rfl, rfl⟩
  rw [hide, all, all, List.map_map]
  rfl

theorem isEnabled_hide (hp : p ∈ c.all) (ids : List String) :
    (c.hide ids).isEnabled p = (c.isEnabled p && !ids.contains p.id) := by
  obtain ⟨e, he, rfl⟩ := List.mem_map.1 hp
  rw [Bool.eq_iff_iff, Bool.and_eq_true, Catalog.isEnabled_iff, Catalog.isEnabled_iff]
  simp only [hide, List.forall_mem_map, Bool.and_eq_true]
  constructor
  · intro hall
    exact ⟨fun x hx hs => (hall x hx hs).1, (hall e he ⟨rfl, rfl⟩).2⟩
  · rintro ⟨hall, hids⟩ x hx hs
    have hid : x.permission.id = e.permission.id := by rw [Permission.id, Permission.id, hs.1, hs.2]
    exact ⟨hall x hx hs, hid ▸ hids⟩

end Catalog

open Catalog in
/-- To hide a list of ids is to hide what is registered under them, and to do nothing else. -/
theorem Controller.hideListed_eq {c : Catalog} (h : c.WellFormed) (ids : List String) :
    hideListed c ids = c.hide ids := by
  unfold hideListed
  induction ids generalizing c with
  | nil => simp [hide]
  | cons id ids ih =>
    have hw := (sameListing_mark c id false).wellFormed h
    have hmark := getD_setEnabled h id false
    rw [List.foldl_cons, ← hide_mark, ← ih hw, ← hmark]
    cases c.setEnabled id false <;> rfl

/-- Of a list of ids, those that the catalog does not know hide nothing. -/
theorem Controller.isEnabled_hideListed {c : Catalog} {p : Permission} (h : c.WellFormed)
    (hp : p ∈ c.all) (ids : List String) :
    (hideListed c ids).isEnabled p = (c.isEnabled p && !ids.contains p.id) := by
  rw [hideListed_eq h, Catalog.isEnabled_hide hp]

end AccessPolicy
