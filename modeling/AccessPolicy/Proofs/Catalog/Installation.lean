import AccessPolicy.Proofs.Catalog.Refusal

/-!
Declarations on a catalog that is in use. Declarations that go through on an empty catalog name their
parents themselves and take no name twice, so what stands in their way elsewhere is a name that is taken
there. The first such name is reported, and if there is none, everything goes through.
-/
namespace AccessPolicy.Catalog

variable {c c' : Catalog} {d : Declaration} {ds : List Declaration} {base o o' : Outline}
  {e : CatalogError}

namespace Outline

/-- What `o` has taken besides `base`. -/
def besides (base o : Outline) : Outline := ⟨base.ids ++ o.ids, base.kinds ++ o.kinds⟩

/-- The name that a declaration asks for is taken. -/
def clash? (o : Outline) : Declaration → Option CatalogError
  | .permission owner name _ _ _ _ =>
    if owner ++ "." ++ name ∈ o.ids then some (.duplicate (owner ++ "." ++ name)) else none
  | .group _ _ => none
  | .scope kind _ => if kind ∈ o.kinds then some (.duplicateScope kind) else none
  | .visibility _ _ => none

theorem besides_empty (base : Outline) : base.besides {} = base := by
  simp [besides]

/-- A declaration that goes through by itself goes through besides others if its name is free there. -/
theorem declare_besides (hd : o.declare d = some o') (hfree : base.clash? d = none) :
    (base.besides o).declare d = some (base.besides o') := by
  cases d with
  | permission owner name description parent enabled scopes =>
    simp only [declare, Option.ite_none_right_eq_some, Option.some.injEq] at hd
    obtain ⟨⟨hparent, ho, hn, hid⟩, rfl⟩ := hd
    simp only [clash?, ite_eq_right_iff, reduceCtorEq, imp_false] at hfree
    have hparent' : ∀ id, parent = some id → id ∈ (base.besides o).ids :=
      fun id h => List.mem_append_right _ (hparent id h)
    have hid' : owner ++ "." ++ name ∉ (base.besides o).ids :=
      fun h => (List.mem_append.1 h).elim hfree hid
    rw [declare, if_pos ⟨hparent', ho, hn, hid'⟩]
    simp [besides]
  | group owner title =>
    simp only [declare, Option.ite_none_right_eq_some, Option.some.injEq] at hd ⊢
    obtain ⟨ho, rfl⟩ := hd
    exact ⟨ho, rfl⟩
  | scope kind containers =>
    simp only [declare, Option.ite_none_left_eq_some, Option.some.injEq] at hd
    obtain ⟨hkind, rfl⟩ := hd
    simp only [clash?, ite_eq_right_iff, reduceCtorEq, imp_false] at hfree
    have hkind' : kind ∉ (base.besides o).kinds :=
      fun h => (List.mem_append.1 h).elim hfree hkind
    rw [declare, if_neg hkind']
    simp [besides]
  | visibility id enabled =>
    simp only [declare, Option.ite_none_right_eq_some, Option.some.injEq] at hd ⊢
    obtain ⟨hid, rfl⟩ := hd
    exact ⟨List.mem_append_right _ hid, rfl⟩

end Outline

/-- A declaration that goes through by itself is refused where its name is taken, for that reason. -/
theorem WellFormed.declare_of_clash (h : c.WellFormed) (hd : o.declare d = some o')
    (hc : c.outline = base.besides o) (hclash : base.clash? d = some e) : c.declare d = .error e := by
  cases d with
  | permission owner name description parent enabled scopes =>
    simp only [Outline.declare, Option.ite_none_right_eq_some, Option.some.injEq] at hd
    obtain ⟨⟨hparent, ho, hn, -⟩, -⟩ := hd
    simp only [Outline.clash?, Option.ite_none_right_eq_some, Option.some.injEq] at hclash
    obtain ⟨ht, rfl⟩ := hclash
    have hids : c.outline.ids = base.ids ++ o.ids := congrArg Outline.ids hc
    have htaken : c.Lists (owner ++ "." ++ name) := by
      rw [← mem_ids_outline, hids]
      exact List.mem_append_left _ ht
    have hdefine : ∀ q : Option Permission, (∀ r, q = some r → c.IsOwn r) →
        c.define ⟨owner, name, description, q, enabled, c.scopesOf scopes⟩ =
          .error (.duplicate (owner ++ "." ++ name)) :=
      fun q hq => h.define_eq_error_iff.2
        (.taken (validOwner_iff.1 ho) (validName_iff.1 hn) hq htaken)
    cases parent with
    | none =>
      simp only [declare]
      rw [hdefine none (by simp)]
      rfl
    | some id =>
      have hid : c.Lists id := by
        rw [← mem_ids_outline, hids]
        exact List.mem_append_right _ (hparent id rfl)
      obtain ⟨q, hq⟩ := h.lists_iff.1 hid
      have hown : c.IsOwn q := ⟨q, (h.lookup_eq_some_iff.1 hq).1, rfl, rfl, rfl⟩
      simp only [declare, hq]
      rw [hdefine (some q) (by simpa using hown)]
      rfl
  | group owner title => cases hclash
  | scope kind containers =>
    simp only [Outline.clash?, Option.ite_none_right_eq_some, Option.some.injEq] at hclash
    obtain ⟨hk, rfl⟩ := hclash
    have hkinds : c.outline.kinds = base.kinds ++ o.kinds := congrArg Outline.kinds hc
    have htaken : (c.scope? kind).isSome = true :=
      scope?_isSome_iff.2 (hkinds ▸ List.mem_append_left _ hk)
    rw [declare, registerScope, if_pos htaken]
    rfl
  | visibility id enabled => cases hclash

/-- Declarations that go through by themselves stop at the first whose name is taken. -/
theorem WellFormed.install_besides (h : c.WellFormed) (ho : o.install ds = some o')
    (hc : c.outline = base.besides o) :
    (c.install ds).2 = ds.findSome? base.clash? ∧
      ((c.install ds).2 = none → (c.install ds).1.outline = base.besides o') := by
  induction ds generalizing c o with
  | nil =>
    obtain rfl : o = o' := Option.some.inj ho
    exact ⟨rfl, fun _ => hc⟩
  | cons d ds ih =>
    obtain ⟨o₁, hd, hds⟩ := Option.bind_eq_some_iff.1 ho
    rw [List.findSome?_cons]
    cases hclash : base.clash? d with
    | some e => simp [Catalog.install, h.declare_of_clash hd hc hclash]
    | none =>
      have houtline := h.declare_outline d
      rw [hc, Outline.declare_besides hd hclash] at houtline
      cases hr : c.declare d with
      | error e =>
        rw [hr] at houtline
        cases houtline
      | ok c' =>
        rw [hr] at houtline
        obtain ⟨op, rfl⟩ := declare_eq_apply hr
        have hw := (step_apply h op).wellFormed h
        simpa [Catalog.install, hr] using ih hw hds (Option.some.inj houtline)

/-- A search among names for one that is taken. -/
theorem findSome?_taken_eq_some_iff {α : Type} {xs : List α} {name : α → String}
    {taken : List String} {error : String → CatalogError} :
    (xs.findSome? fun x => if name x ∈ taken then some (error (name x)) else none) = some e ↔
      ∃ before x after, xs = before ++ x :: after ∧ (∀ y ∈ before, name y ∉ taken) ∧
        name x ∈ taken ∧ error (name x) = e := by
  simp only [List.findSome?_eq_some_iff, Option.ite_none_right_eq_some, Option.some.injEq,
    ite_eq_right_iff, reduceCtorEq, imp_false]
  constructor
  · rintro ⟨before, x, after, hxs, ⟨hx, he⟩, hbefore⟩
    exact ⟨before, x, after, hxs, hbefore, hx, he⟩
  · rintro ⟨before, x, after, hxs, hbefore, hx, he⟩
    exact ⟨before, x, after, hxs, ⟨hx, he⟩, hbefore⟩

theorem findSome?_clash?_builtins (o : Outline) :
    Builtin.declarations.findSome? o.clash? =
      (BuiltinScope.all.findSome? fun s =>
        if s.kind ∈ o.kinds then some (.duplicateScope s.kind) else none).or
      (Builtin.all.findSome? fun b => if b.id ∈ o.ids then some (.duplicate b.id) else none) := by
  rw [Builtin.declarations, List.findSome?_append, List.findSome?_append, List.findSome?_map,
    List.findSome?_map, List.findSome?_map]
  have htitles : Builtin.titles.findSome? (o.clash? ∘ fun t => .group t.1 t.2) = none :=
    List.findSome?_eq_none_iff.2 fun _ _ => rfl
  rw [htitles, Option.or_none]
  rfl

/-- The builtin permissions and scopes go through just if none of their names is taken. -/
theorem WellFormed.registerBuiltins_eq (h : c.WellFormed) :
    (c.registerBuiltins).2 = Builtin.declarations.findSome? c.outline.clash? ∧
      ((c.registerBuiltins).2 = none → (c.registerBuiltins).1.outline =
        ⟨c.outline.ids ++ Builtin.all.map Builtin.id,
          c.outline.kinds ++ BuiltinScope.all.map BuiltinScope.kind⟩) :=
  h.install_besides Outline.install_builtins (Outline.besides_empty _).symm

end AccessPolicy.Catalog
