import AccessPolicy.Catalog.Builtin
import AccessPolicy.Proofs.Catalog.Run

/-!
The outline of a catalog: the ids and the kinds of scope that are taken. The outline alone decides
which declarations go through, and what the outline is afterwards.
-/
namespace AccessPolicy.Catalog

variable {c c' : Catalog} {p : Permission}

structure Outline where
  ids : List String := []
  kinds : List String := []
  deriving DecidableEq, Repr

namespace Outline

/-- The outline after a declaration, if it goes through. -/
def declare (o : Outline) : Declaration → Option Outline
  | .permission owner name _ parent _ _ =>
    if (∀ id, parent = some id → id ∈ o.ids) ∧ validOwner owner = true ∧ validName name = true ∧
      owner ++ "." ++ name ∉ o.ids then some { o with ids := o.ids ++ [owner ++ "." ++ name] }
    else none
  | .group owner _ => if validOwner owner = true then some o else none
  | .scope kind _ => if kind ∈ o.kinds then none else some { o with kinds := o.kinds ++ [kind] }
  | .visibility id _ => if id ∈ o.ids then some o else none

def install (o : Outline) : List Declaration → Option Outline
  | [] => some o
  | d :: ds => (o.declare d).bind fun o' => o'.install ds

end Outline

def outline (c : Catalog) : Outline := ⟨c.all.map Permission.id, c.scopes.map Scope.kind⟩

theorem mem_ids_outline {id : String} : id ∈ c.outline.ids ↔ c.Lists id := List.mem_map

theorem WellFormed.lookup_isSome_iff (h : c.WellFormed) {id : String} :
    (c.lookup id).isSome = true ↔ id ∈ c.outline.ids := by
  rw [Option.isSome_iff_exists, mem_ids_outline, h.lists_iff]

theorem lookup_append_dot {owner name : String} (hn : validName name = true) :
    c.lookup (owner ++ "." ++ name) = c.find? owner name := by
  have hcut : Text.cutAtLast '.' (owner ++ "." ++ name) = some (owner, name) := by
    rw [Text.cutAtLast_eq_some_iff]
    exact ⟨by simp, dot_notMem_of_validName hn⟩
  rw [lookup, hcut, Option.bind_some]

theorem WellFormed.own?_of_mem (h : c.WellFormed) (hp : p ∈ c.all) : c.own? p = some p := by
  rw [own?, h.find?_eq_some_iff.2 ⟨hp, rfl, rfl⟩, Option.filter_some, beq_self_eq_true]
  rfl

theorem scope?_isSome_iff {kind : String} : (c.scope? kind).isSome = true ↔ kind ∈ c.outline.kinds := by
  rw [scope?, List.find?_isSome, outline, List.mem_map]
  simp only [beq_iff_eq]

/-- Below a permission of the catalog a valid definition goes through unless its id is taken. -/
theorem WellFormed.define_eq (h : c.WellFormed) {d : Definition}
    (hp : ∀ q, d.parent = some q → q ∈ c.all) :
    (c.define d).toOption.map (fun r => r.2.outline) =
      if validOwner d.owner = true ∧ validName d.name = true ∧
          d.owner ++ "." ++ d.name ∉ c.outline.ids then
        some { c.outline with ids := c.outline.ids ++ [d.owner ++ "." ++ d.name] }
      else none := by
  by_cases ho : validOwner d.owner = true
  · by_cases hn : validName d.name = true
    · have henter : c.enter d = c.enterUnder d d.parent := by
        cases hd : d.parent with
        | none => simp [enter, ho, hn, hd]
        | some q => simp [enter, ho, hn, hd, h.own?_of_mem (hp q hd)]
      rw [define, henter, enterUnder_eq h, ← lookup_append_dot hn]
      by_cases ht : d.owner ++ "." ++ d.name ∈ c.outline.ids
      · rw [if_pos (h.lookup_isSome_iff.2 ht), if_neg (fun hall => hall.2.2 ht)]
        rfl
      · have houtline : (c.append (c.issue d d.parent) d.enabled).outline =
            { c.outline with ids := c.outline.ids ++ [d.owner ++ "." ++ d.name] } := by
          simp only [outline, all_append, List.map_append, List.map_singleton, issue_id]
          rfl
        rw [if_neg (mt h.lookup_isSome_iff.1 ht), if_pos ⟨ho, hn, ht⟩, ← houtline]
        rfl
    · rw [if_neg (fun hall => hn hall.2.1)]
      simp [define, enter, ho, hn, Except.toOption]
  · rw [if_neg (fun hall => ho hall.1)]
    simp [define, enter, ho, Except.toOption]

theorem WellFormed.declare_outline (h : c.WellFormed) (d : Declaration) :
    (c.declare d).toOption.map outline = c.outline.declare d := by
  cases d with
  | permission owner name description parent enabled scopes =>
    have hdefine : ∀ q : Option Permission, (∀ r, q = some r → r ∈ c.all) →
        (((c.define ⟨owner, name, description, q, enabled, c.scopesOf scopes⟩).map
          (·.2)).toOption.map outline) =
        if validOwner owner = true ∧ validName name = true ∧ owner ++ "." ++ name ∉ c.outline.ids then
          some { c.outline with ids := c.outline.ids ++ [owner ++ "." ++ name] }
        else none := by
      intro q hq
      rw [← h.define_eq (d := ⟨owner, name, description, q, enabled, c.scopesOf scopes⟩) hq]
      cases c.define ⟨owner, name, description, q, enabled, c.scopesOf scopes⟩ <;> rfl
    cases parent with
    | none => simpa [declare, Outline.declare] using hdefine none (by simp)
    | some id =>
      by_cases hid : id ∈ c.outline.ids
      · obtain ⟨q, hq⟩ := Option.isSome_iff_exists.1 (h.lookup_isSome_iff.2 hid)
        have hm := (h.lookup_eq_some_iff.1 hq).1
        simpa [declare, Outline.declare, hq, hid] using hdefine (some q) (by simpa using hm)
      · have hq := Option.not_isSome_iff_eq_none.1 (mt h.lookup_isSome_iff.1 hid)
        simp [declare, Outline.declare, hq, hid, Except.toOption]
  | group owner title =>
    by_cases ho : validOwner owner = true
    · simp [declare, Outline.declare, registerGroup, ho, Except.toOption, outline]
      rfl
    · simp [declare, Outline.declare, registerGroup, ho, Except.toOption]
  | scope kind containers =>
    rw [declare, Outline.declare, registerScope]
    by_cases hk : (c.scope? kind).isSome = true
    · rw [if_pos hk, if_pos (scope?_isSome_iff.1 hk)]
      rfl
    · have houtline : ({ c with scopes := c.scopes ++ [.mk kind (c.scopesOf containers)] } :
          Catalog).outline = { c.outline with kinds := c.outline.kinds ++ [kind] } := by
        simp only [outline, List.map_append, List.map_singleton, Scope.kind_mk]
        rfl
      rw [if_neg hk, if_neg (mt scope?_isSome_iff.2 hk), ← houtline]
      rfl
  | visibility id enabled =>
    rw [declare, Outline.declare]
    by_cases hid : id ∈ c.outline.ids
    · obtain ⟨q, hq⟩ := Option.isSome_iff_exists.1 (h.lookup_isSome_iff.2 hid)
      obtain ⟨c', hc'⟩ : ∃ c', c.setEnabled id enabled = .ok c' := by
        rw [setEnabled, hq]
        exact ⟨_, rfl⟩
      have hs := sameListing_setEnabled hc'
      have houtline : c'.outline = c.outline := by rw [outline, hs.all, hs.scopes, outline]
      rw [if_pos hid, hc', ← houtline]
      rfl
    · rw [if_neg hid, setEnabled, Option.not_isSome_iff_eq_none.1 (mt h.lookup_isSome_iff.1 hid)]
      rfl

/-- A list of declarations goes through if its outline does. -/
theorem WellFormed.install_eq_iff (h : c.WellFormed) {ds : List Declaration} {o : Outline} :
    (∃ c', c.install ds = (c', none) ∧ c'.outline = o) ↔ c.outline.install ds = some o := by
  induction ds generalizing c with
  | nil => simp [Catalog.install, Outline.install]
  | cons d ds ih =>
    have hd := h.declare_outline d
    cases hr : c.declare d with
    | error e =>
      rw [hr] at hd
      simp [Catalog.install, Outline.install, hr, ← hd, Except.toOption]
    | ok c' =>
      obtain ⟨op, rfl⟩ := declare_eq_apply hr
      rw [hr] at hd
      have hstep : c.outline.declare d = some (c.apply op).outline := hd.symm
      rw [Outline.install, hstep, Option.bind_some, ← ih ((step_apply h op).wellFormed h),
        Catalog.install, hr]

/-- On an empty catalog the builtin permissions and scopes go through. -/
theorem Outline.install_builtins : install {} Builtin.declarations =
    some ⟨Builtin.all.map Builtin.id, BuiltinScope.all.map BuiltinScope.kind⟩ := by
  decide +kernel

/-- On an empty catalog nothing else comes with the builtin permissions. -/
theorem registerBuiltins_fresh (serial : Nat) : ∃ c, registerBuiltins { serial } = (c, none) ∧
    c.all.map Permission.id = Builtin.all.map Builtin.id := by
  obtain ⟨c, hc, ho⟩ := (wellFormed_empty serial).install_eq_iff.2 Outline.install_builtins
  exact ⟨c, hc, congrArg Outline.ids ho⟩

end AccessPolicy.Catalog
