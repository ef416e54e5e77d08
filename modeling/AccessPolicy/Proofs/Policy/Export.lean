import AccessPolicy.Proofs.Matrix.Lines
import AccessPolicy.Proofs.Policy.Loading
import AccessPolicy.Proofs.Settings.Validation
import AccessPolicy.Text.Bytes

/-!
Exported settings. What a policy exports is loaded as that very policy, so nobody gains or loses
access by it, and to export once more changes nothing. The export says what was loaded, not what
stood in the settings: every matrix is listed line by line, and the objects come in the order of
their names.
-/
namespace AccessPolicy

variable {s : Settings} {c : Catalog} {t : StrategyTable} {P : Policy} {os : List ObjectSettings}

theorem SecuredItem.ofSettings_toSettings (h : c.WellFormed) (o : ObjectSettings) :
    ofSettings c ((MatrixProperty.ofSettings c o).toSettings o.name) = ofSettings c o := by
  have hm : Matrix.ofLines c (Matrix.ofLines c o.grants).toLines = Matrix.ofLines c o.grants :=
    Matrix.ofLines_toLines_ofLines h o.grants
  simp only [ofSettings, MatrixProperty.ofSettings, MatrixProperty.ofLines,
    MatrixProperty.toSettings, hm]

/-- The settings of every item that has a property. -/
def Policy.settingsOf (items : List SecuredItem) : List ObjectSettings :=
  items.filterMap fun i => i.property.map fun q => q.toSettings i.name

@[simp] theorem Policy.settingsOf_cons (o : ObjectSettings) (items : List SecuredItem) :
    settingsOf (.ofSettings c o :: items) =
      (MatrixProperty.ofSettings c o).toSettings o.name :: settingsOf items := rfl

theorem Policy.map_ofSettings_settingsOf (h : c.WellFormed) {items : List SecuredItem}
    (hi : ∀ i ∈ items, ∃ o ∈ os, i = .ofSettings c o) :
    (settingsOf items).map (SecuredItem.ofSettings c) = items := by
  induction items with
  | nil => rfl
  | cons i items ih =>
    obtain ⟨o, -, rfl⟩ := hi i (by simp)
    have ht := ih fun j hj => hi j (by simp [hj])
    rw [settingsOf_cons, List.map_cons, ht, SecuredItem.ofSettings_toSettings h]

/-- Items that are written down and read back come back in their places. -/
theorem Policy.itemsOf_settingsOf (h : c.WellFormed) (os : List ObjectSettings) :
    itemsOf c (settingsOf (itemsOf c os)) = itemsOf c os := by
  have hf : ∀ os, itemsOf c os = (os.map (SecuredItem.ofSettings c)).foldl
      (fun is i => Keyed.put SecuredItem.name i is) [] := by
    intro os
    rw [List.foldl_map]
    rfl
  rw [hf (settingsOf _), map_ofSettings_settingsOf h fun _ => exists_of_mem_itemsOf]
  exact Keyed.foldl_put_of_sorted (sorted_itemsOf c os)

theorem Matrix.ofSettings_of_exported (h : c.WellFormed) {a a' : AuthorizationSettings}
    (hg : a'.grants = (ofSettings a c).toLines) (hm : a'.migrateLegacyRead = false) :
    ofSettings a' c = ofSettings a c := by
  have he : ofSettings a' c = ofLines c a'.grants := by simp [ofSettings, hm]
  rw [he, hg, ofLines_toLines_ofSettings h]

/-- A builtin strategy is built again from the section with its own matrix in place of the lines. -/
theorem StrategyTable.create_exported (h : c.WellFormed) {a a' : AuthorizationSettings}
    {strategy : Strategy} (hc : builtin.create a c = .ok strategy) (hs : a'.strategy = a.strategy)
    (ha : a'.adminSid = a.adminSid)
    (hg : a'.grants = (strategy.matrix?.map Matrix.toLines).getD a.grants)
    (hm : a'.migrateLegacyRead = false) : builtin.create a' c = .ok strategy := by
  obtain ⟨hk, rfl⟩ | ⟨-, -, hagain⟩ := create_cases hc
  · rw [Strategy.matrix?_ofMatrix] at hg
    rw [create_ofMatrix (hs ▸ hk), Matrix.ofSettings_of_exported h hg hm, hs]
  · exact hagain a' hs ha

/-- The object is the item with its property, whose matrix is listed line by line. -/
structure SecuredItem.WrittenAs (i : SecuredItem) (o : ObjectSettings) (q : MatrixProperty) : Prop where
  property : i.property = some q
  name : o.name = i.name
  useProjectSecurity : o.useProjectSecurity = q.useProjectSecurity
  inheritance : o.inheritance = q.inheritance
  grants : o.grants = q.matrix.toLines

theorem Policy.forall₂_settingsOf {items : List SecuredItem}
    (hi : ∀ i ∈ items, ∃ o ∈ os, i = .ofSettings c o) :
    List.Forall₂ (fun i o => ∃ q, i.WrittenAs o q) items (settingsOf items) := by
  induction items with
  | nil => exact .nil
  | cons i items ih =>
    obtain ⟨o, -, rfl⟩ := hi i (by simp)
    rw [settingsOf_cons]
    exact .cons ⟨_, rfl, rfl, rfl, rfl, rfl⟩ (ih fun j hj => hi j (by simp [hj]))

theorem Policy.map_name_settingsOf {items : List SecuredItem}
    (hi : ∀ i ∈ items, ∃ o ∈ os, i = .ofSettings c o) :
    (settingsOf items).map ObjectSettings.name = items.map SecuredItem.name := by
  rw [eq_comm, ← List.forall₂_eq_eq_eq, List.forall₂_map_left_iff, List.forall₂_map_right_iff]
  exact (forall₂_settingsOf hi).imp fun _ _ ⟨_, hw⟩ => hw.name.symm

/-- The exported objects bear names of the settings, each once. -/
theorem Policy.validateObjects_settingsOf
    (h : Settings.validateObjects [] os = .ok ()) :
    Settings.validateObjects [] (settingsOf (itemsOf c os)) = .ok () := by
  rw [Settings.validateObjects_eq_ok_iff] at h ⊢
  have hnames := map_name_settingsOf fun i (hi : i ∈ itemsOf c os) => exists_of_mem_itemsOf hi
  refine ⟨?_, ?_⟩
  · intro x hx
    have hm : x.name ∈ (itemsOf c os).map SecuredItem.name := hnames ▸ List.mem_map.2 ⟨x, hx, rfl⟩
    obtain ⟨i, hi, he⟩ := List.mem_map.1 hm
    obtain ⟨o, ho, rfl⟩ := exists_of_mem_itemsOf hi
    have hx : x.name = o.name := he.symm
    exact ⟨hx ▸ (h.1 o ho).1, List.not_mem_nil⟩
  · rw [hnames]
    exact nodup_map_name_itemsOf c os

namespace Policy

theorem grants_exportSettings (P : Policy) (s : Settings) :
    (P.exportSettings s).authorization.grants =
      (P.controller.strategy.matrix?.map Matrix.toLines).getD s.authorization.grants := by
  unfold exportSettings
  cases P.controller.strategy.matrix? <;> rfl

/-- The settings `e` are `s` with all that was loaded in place of what it was loaded from. -/
structure Exports (P : Policy) (s e : Settings) : Prop where
  /-- The matrix of the root is listed, if the strategy has one. -/
  grants : e.authorization.grants =
    (P.controller.strategy.matrix?.map Matrix.toLines).getD s.authorization.grants
  /-- Nothing is left to migrate. -/
  migrateLegacyRead : e.authorization.migrateLegacyRead = false
  /-- Each item has its object. -/
  objects : List.Forall₂ (fun i o => ∃ q, i.WrittenAs o q) P.items e.objects
  /-- The objects come in the order of their names, each once. -/
  names : (e.objects.map ObjectSettings.name).Pairwise fun a b => Text.bytes a < Text.bytes b
  strategy : e.authorization.strategy = s.authorization.strategy
  adminSid : e.authorization.adminSid = s.authorization.adminSid
  disabledPermissions : e.authorization.disabledPermissions = s.authorization.disabledPermissions
  overrides : e.authorization.overrides = s.authorization.overrides
  logging : e.logging = s.logging

theorem Loaded.exports (h : Loaded s c t P) : P.Exports s (P.exportSettings s) := by
  have he : (P.exportSettings s).objects = settingsOf P.items := rfl
  have hi : ∀ i ∈ P.items, ∃ o ∈ s.objects, i = .ofSettings P.catalog o := by
    rw [h.items]
    exact fun i => exists_of_mem_itemsOf
  refine ⟨P.grants_exportSettings s, rfl, he ▸ forall₂_settingsOf hi, ?_, rfl, rfl, rfl, rfl, rfl⟩
  rw [he, map_name_settingsOf hi, h.items]
  exact (sorted_itemsOf P.catalog s.objects).imp Text.before_iff_bytes_lt.1

/-- What was loaded is loaded from its export. -/
theorem Loaded.exported (h : Loaded s c .builtin P) (hc : c.WellFormed) :
    Loaded (P.exportSettings s) c .builtin P where
  catalog := h.catalog
  strategy := StrategyTable.create_exported (h.wellFormed hc) h.strategy rfl rfl
    (P.grants_exportSettings s) rfl
  hooks := h.hooks
  items := by
    have he : (P.exportSettings s).objects = settingsOf P.items := rfl
    rw [he, h.items, itemsOf_settingsOf (h.wellFormed hc)]

theorem Loaded.validate_exported (h : Loaded s c t P) (hv : s.validate = .ok ()) :
    (P.exportSettings s).validate = .ok () := by
  obtain ⟨hs, ha, hr, ho⟩ := Settings.validate_eq_ok_iff.1 hv
  refine Settings.validate_eq_ok_iff.2 ⟨hs, ha, hr, ?_⟩
  have he : (P.exportSettings s).objects = settingsOf P.items := rfl
  rw [he, h.items]
  exact validateObjects_settingsOf ho

/-- An export does not depend on the lines and objects that it replaces. -/
theorem exportSettings_exportSettings (P : Policy) (s : Settings) :
    P.exportSettings (P.exportSettings s) = P.exportSettings s := by
  unfold exportSettings
  cases P.controller.strategy.matrix? <;> rfl

/-- The exported settings are loaded on the same catalog as the very same policy, with its objects,
matrices, answers and denials; they are valid if the settings were, and export as themselves. All
that was loaded is listed in them. -/
theorem loadWith_exportSettings (hc : c.Reachable) (hl : loadWith s c .builtin = .ok P) :
    loadWith (P.exportSettings s) c .builtin = .ok P ∧
      (s.validate = .ok () → (P.exportSettings s).validate = .ok ()) ∧
      P.exportSettings (P.exportSettings s) = P.exportSettings s ∧
      P.Exports s (P.exportSettings s) := by
  have h := loadWith_eq_ok_iff.1 hl
  refine ⟨?_, ?_, ?_, ?_⟩
  · exact loadWith_eq_ok_iff.2 (h.exported hc.wellFormed)
  · exact h.validate_exported
  · exact P.exportSettings_exportSettings s
  · exact h.exports

/-- Grants to be migrated, lines that are repeated, unknown or malformed, and objects out of order. -/
def untidy : Settings where
  authorization :=
    { grants :=
        [" hudson.model.Hudson.Read:ann", "hudson.model.Hudson.Read:ann", "ann", "no.Such:ann"]
      migrateLegacyRead := true }
  objects := [{ name := "job", grants := ["hudson.model.Item.Read:bob"] }, { name := "app" }]

theorem loadWith_exportSettings_untidy : ∃ P,
    loadWith untidy Catalog.builtins .builtin = .ok P ∧ untidy.validate = .ok () ∧
    loadWith (P.exportSettings untidy) Catalog.builtins .builtin = .ok P ∧
    (P.exportSettings untidy).validate = .ok () ∧
    P.exportSettings (P.exportSettings untidy) = P.exportSettings untidy ∧
    P.Exports untidy (P.exportSettings untidy) ∧ P.exportSettings untidy ≠ untidy := by
  have hb := Catalog.hasBuiltins_builtins
  have hl := loadWith_of_create (s := untidy) (t := .builtin) hb rfl rfl rfl
  have hv : untidy.validate = .ok () := by decide
  obtain ⟨hload, hvalid, hagain, hexports⟩ := loadWith_exportSettings Catalog.reachable_builtins hl
  refine ⟨_, hl, hv, hload, hvalid hv, hagain, hexports, ?_⟩
  intro he
  have hmigrate := hexports.migrateLegacyRead
  rw [he] at hmigrate
  cases hmigrate

end Policy

end AccessPolicy
