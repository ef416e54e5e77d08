import AccessPolicy.Proofs.Decimal.Numeral
import AccessPolicy.Proofs.Toml.Reading
import AccessPolicy.Settings.Loading
import Mathlib

/-!
Variables over a settings file. A variable whose name, in letters of any case, is the mark and the key of
a setting replaces that setting by the value that its text reads as, or adds it. Nothing else in the
tree of the file changes, it does not matter in which order a tree lists its keys, and variables of
other names have no part in what is loaded.
-/
namespace AccessPolicy

/-- The settings that a variable can override one by one. -/
inductive Overridable where
  | strategy
  | adminSid
  | migrateLegacyRead
  | logLevel
  | logFormat
  deriving DecidableEq, Repr

namespace Overridable

/-- The part of the settings in which the field stands. -/
def part : Overridable → String
  | strategy | adminSid | migrateLegacyRead => "authorization"
  | logLevel | logFormat => "logging"

def field : Overridable → String
  | strategy => "strategy"
  | adminSid => "admin_sid"
  | migrateLegacyRead => "migrate_legacy_read"
  | logLevel => "level"
  | logFormat => "format"

def key (k : Overridable) : String := k.part ++ "." ++ k.field

/-- What a variable may be called in lower case. For a dot, two underscores may stand. -/
def names (k : Overridable) : List (List Char) :=
  ["__", "."].map fun dot => Variables.mark ++ k.part.toList ++ dot.toList ++ k.field.toList

theorem ofKey_key (k : Overridable) : Step.ofKey k.key = [.key k.part, .key k.field] := by
  cases k <;> decide

theorem eq_of_part_field {k l : Overridable} (h : (k.part, k.field) = (l.part, l.field)) : k = l := by
  revert h
  cases k <;> cases l <;> decide

theorem key_injective {k l : Overridable} (h : k.key = l.key) : k = l := by
  revert h
  cases k <;> cases l <;> decide

end Overridable

namespace Variables

variable {vs : Variables} {k l : Overridable} {name : String} {v : String × String}

/-- The name of the variable begins with the mark, in letters of any case. -/
def Marked (name : String) : Prop := mark <+: name.toList.map lowerChar

/-- The variable is called for the setting, in letters of any case. -/
def Names (name : String) (k : Overridable) : Prop := name.toList.map lowerChar ∈ k.names

instance : DecidablePred Marked := fun _ => inferInstanceAs (Decidable (mark <+: _))
instance (name : String) : DecidablePred (Names name) := fun _ => inferInstanceAs (Decidable (_ ∈ _))

/-- What the text of a variable reads as: a truth value, if not that an integer, if not that a number,
and if not that either, a text. -/
inductive ReadsAs (s : String) : Value → Prop
  | truth (h : s.toLower = "true") : ReadsAs s (.bool true)
  | falsehood (h : s.toLower = "false") : ReadsAs s (.bool false)
  | integer (hw : s.toLower ∉ ["true", "false"]) {i : Int} (h : Decimal.IsInteger s.toList i) :
      ReadsAs s (.integer i)
  | number (hw : s.toLower ∉ ["true", "false"]) (hi : ∀ i, ¬ Decimal.IsInteger s.toList i)
      {x : Decimal.Binary} (h : Decimal.IsNumber s.toList x) : ReadsAs s (.float x)
  | text (hw : s.toLower ∉ ["true", "false"]) (hi : ∀ i, ¬ Decimal.IsInteger s.toList i)
      (hx : ∀ x, ¬ Decimal.IsNumber s.toList x) : ReadsAs s (.text s)

theorem readsAs_valueOf (s : String) : ReadsAs s (valueOf s) := by
  unfold valueOf
  by_cases ht : s.toLower = "true"
  · simpa [ht] using ReadsAs.truth ht
  by_cases hf : s.toLower = "false"
  · simpa [hf] using ReadsAs.falsehood hf
  have hw : s.toLower ∉ ["true", "false"] := by simp [ht, hf]
  simp only [beq_iff_eq, if_neg ht, if_neg hf]
  cases hi : Decimal.integer? s.toList with
  | some i => exact .integer hw (Decimal.integer?_eq_some_iff.1 hi)
  | none =>
    have hinteger := Decimal.integer?_eq_none_iff.1 hi
    cases hx : Decimal.Binary.ofText? s.toList with
    | some x => exact .number hw hinteger (Decimal.Binary.ofText?_eq_some_iff.1 hx)
    | none => exact .text hw hinteger (Decimal.Binary.ofText?_eq_none_iff.1 hx)

/-- A text reads as one value, whichever comes first. -/
theorem valueOf_eq_iff {s : String} {value : Value} : valueOf s = value ↔ ReadsAs s value := by
  constructor
  · rintro rfl
    exact readsAs_valueOf s
  · intro h
    cases h with
    | truth h => simp [valueOf, h]
    | falsehood h => simp [valueOf, h]
    | integer hw h =>
      have hi := Decimal.integer?_eq_some_iff.2 h
      simp_all [valueOf]
    | number hw hi h =>
      have hi := Decimal.integer?_eq_none_iff.2 hi
      have hx := Decimal.Binary.ofText?_eq_some_iff.2 h
      simp_all [valueOf]
    | text hw hi hx =>
      have hi := Decimal.integer?_eq_none_iff.2 hi
      have hx := Decimal.Binary.ofText?_eq_none_iff.2 hx
      simp_all [valueOf]

/-- Every variable that bears the mark names a setting that can be overridden. -/
def OnlyOverride (vs : Variables) : Prop := ∀ v ∈ vs, Marked v.1 → ∃ k, Names v.1 k

/-- The value that the variables give a setting. Of several that name it, the last one counts. -/
def given? (vs : Variables) (k : Overridable) : Option Value :=
  (vs.reverse.find? fun v => Names v.1 k).map fun v => valueOf v.2

theorem given?_concat :
    given? (vs ++ [v]) k = if Names v.1 k then some (valueOf v.2) else vs.given? k := by
  simp only [given?, List.reverse_append, List.reverse_singleton, List.singleton_append,
    List.find?_cons]
  by_cases hn : Names v.1 k <;> simp [hn]

/-- A setting that one variable names, and no other, is given the value of that variable. -/
theorem given?_of_unique (hv : v ∈ vs) (hn : Names v.1 k) (hu : ∀ w ∈ vs, Names w.1 k → w = v) :
    vs.given? k = some (valueOf v.2) := by
  have hfound : (vs.reverse.find? fun w => Names w.1 k).isSome = true :=
    List.find?_isSome.2 ⟨v, List.mem_reverse.2 hv, by simpa using hn⟩
  obtain ⟨w, hw⟩ := Option.isSome_iff_exists.1 hfound
  have hwn : Names w.1 k := by simpa using List.find?_some hw
  rw [given?, hw, hu w (List.mem_reverse.1 (List.mem_of_find?_eq_some hw)) hwn, Option.map_some]

theorem given?_eq_none_iff : vs.given? k = none ↔ ∀ v ∈ vs, ¬ Names v.1 k := by
  simp [given?]

theorem key?_eq_none_iff : key? name = none ↔ ¬ Marked name := by
  rw [key?, Marked, ← List.isPrefixOf_iff_prefix]
  split <;> simp_all

theorem key?_of_names (h : Names name k) : key? name = some k.key := by
  rcases List.mem_cons.1 h with h | h
  · rw [key?, h]
    cases k <;> decide
  · rw [key?, List.mem_singleton.1 h]
    cases k <;> decide

theorem Names.unique (h : Names name k) (h' : Names name l) : k = l :=
  Overridable.key_injective (Option.some.inj ((key?_of_names h).symm.trans (key?_of_names h')))

theorem layer_filter (vs : Variables) : layer (vs.filter fun v => Marked v.1) = vs.layer := by
  rw [layer, layer, List.filterMap_filter]
  refine List.filterMap_congr fun v _ => ?_
  by_cases hm : Marked v.1
  · rw [if_pos (by simpa using hm)]
  · simp [hm, key?_eq_none_iff.2 hm]

/-- A variable has no table for a value, so its value takes the place of any other. -/
theorem overlay_valueOf (text : String) (w : Value) : (valueOf text).overlay w = valueOf text := by
  fun_cases valueOf text <;> simp_all [Value.overlay]

end Variables

/-- `new` is the tree `old` with the given values under the keys of their settings, in place of what was
there or besides what is there. Tables may list their keys in any order. -/
structure Replaces (given : Overridable → Option Value) (old new : Value) : Prop where
  isTable : ∃ es, new = .table es
  replaced : ∀ k v, given k = some v → new.at? [k.part, k.field] = some v
  /-- A field that is not replaced stays, in whatever part it stands. -/
  beside : ∀ part field, (∀ k v, given k = some v → (k.part, k.field) ≠ (part, field)) →
    new.at? [part, field] = old.at? [part, field]
  /-- So does a part of which no field is replaced. -/
  apart : ∀ part, (∀ k v, given k = some v → k.part ≠ part) → new.get? part = old.get? part

namespace Replaces

variable {given : Overridable → Option Value} {old new new' v : Value} {k : Overridable}

theorem get?_set_key (tree : Value) (k : Overridable) (v : Value) (part : String) :
    (tree.set k.key v).get? part =
      if part = k.part then
        some (((tree.get? k.part).getD .null).update v.overlay [.key k.field])
      else tree.get? part := by
  rw [Value.set, k.ofKey_key, Value.get?_update_key]

/-- Setting a key changes one field of one part. -/
theorem at?_set_key (hv : ∀ w, v.overlay w = v) (tree : Value) (k : Overridable) (part field : String) :
    (tree.set k.key v).at? [part, field] =
      if (k.part, k.field) = (part, field) then some v else tree.at? [part, field] := by
  rw [Value.at?_pair, Value.at?_pair, get?_set_key]
  by_cases hp : part = k.part
  · subst hp
    rw [if_pos rfl, Option.bind_some, Value.get?_update_key, Value.update, hv]
    by_cases hf : field = k.field
    · rw [if_pos hf, if_pos (by rw [hf])]
    · rw [if_neg hf, if_neg (by simpa using Ne.symm hf)]
      cases tree.get? k.part <;> rfl
  · rw [if_neg hp, if_neg (by simpa using fun h => absurd h.symm hp)]

theorem refl (h : ∃ es, old = .table es) : Replaces (fun _ => none) old old where
  isTable := h
  replaced _ _ hk := by cases hk
  beside _ _ _ := rfl
  apart _ _ := rfl

/-- What is true of all settings with one more given is true of that one and of those given before. -/
theorem forall_of_given {P : Overridable → Prop}
    (h : ∀ l w, (if l = k then some v else given l) = some w → P l) :
    P k ∧ ∀ l w, given l = some w → P l := by
  have hk : P k := h k v (if_pos rfl)
  refine ⟨hk, fun l w hl => ?_⟩
  by_cases hlk : l = k
  · exact hlk ▸ hk
  · exact h l w (by rw [if_neg hlk, hl])

/-- One more setting is replaced, or one is replaced once more. -/
theorem set (h : Replaces given old new) (hv : ∀ w, v.overlay w = v) (k : Overridable) :
    Replaces (fun l => if l = k then some v else given l) old (new.set k.key v) where
  isTable := Value.exists_set_eq_table new k.key v
  replaced l w hl := by
    rw [at?_set_key hv]
    by_cases hlk : l = k
    · rw [if_pos hlk] at hl
      rw [if_pos (by rw [hlk]), hl]
    · rw [if_neg hlk] at hl
      rw [if_neg fun he => hlk (Overridable.eq_of_part_field he).symm, h.replaced l w hl]
  beside part field hout := by
    obtain ⟨hk, hgiven⟩ := forall_of_given hout
    rw [at?_set_key hv, if_neg hk, h.beside part field hgiven]
  apart part hout := by
    obtain ⟨hk, hgiven⟩ := forall_of_given hout
    rw [get?_set_key, if_neg (Ne.symm hk), h.apart part hgiven]

/-- A variable over a tree: it replaces the setting that it names, and does nothing without the mark. -/
theorem concat {vs : Variables} {v : String × String} (h : Replaces vs.given? old new)
    (hv : Variables.Marked v.1 → ∃ k, Variables.Names v.1 k) :
    Replaces (Variables.given? (vs ++ [v])) old
      ((Variables.layer [v]).foldl (fun t e => t.set e.1 e.2) new) := by
  by_cases hm : Variables.Marked v.1
  · obtain ⟨k, hk⟩ := hv hm
    have hgiven : Variables.given? (vs ++ [v]) =
        fun l => if l = k then some (Variables.valueOf v.2) else vs.given? l := by
      funext l
      rw [Variables.given?_concat]
      by_cases hl : l = k
      · rw [if_pos hl, if_pos (hl ▸ hk)]
      · rw [if_neg hl, if_neg fun hn => hl (hn.unique hk)]
    have hlayer : Variables.layer [v] = [(k.key, Variables.valueOf v.2)] := by
      simp [Variables.layer, Variables.key?_of_names hk]
    rw [hgiven, hlayer]
    exact h.set (Variables.overlay_valueOf v.2) k
  · have hkey := Variables.key?_eq_none_iff.2 hm
    have hgiven : Variables.given? (vs ++ [v]) = vs.given? := by
      funext l
      rw [Variables.given?_concat, if_neg]
      intro hn
      rw [Variables.key?_of_names hn] at hkey
      cases hkey
    have hlayer : Variables.layer [v] = [] := by simp [Variables.layer, hkey]
    rw [hgiven, hlayer]
    exact h

/-- All variables over a tree. -/
theorem layer (hold : ∃ es, old = .table es) (vs : Variables) (hvs : vs.OnlyOverride) :
    Replaces vs.given? old (vs.layer.foldl (fun t e => t.set e.1 e.2) old) := by
  induction vs using List.reverseRecOn with
  | nil => exact refl hold
  | append_singleton vs v ih =>
    obtain ⟨hinit, hlast⟩ := List.forall_mem_append.1 hvs
    have hlayer : Variables.layer (vs ++ [v]) = Variables.layer vs ++ Variables.layer [v] :=
      List.filterMap_append
    rw [hlayer, List.foldl_append]
    exact (ih hinit).concat (hlast v List.mem_cons_self)

theorem at?_eq (h : Replaces given old new) (h' : Replaces given old new') (part field : String) :
    new.at? [part, field] = new'.at? [part, field] := by
  by_cases hgiven : ∃ k v, given k = some v ∧ (k.part, k.field) = (part, field)
  · obtain ⟨k, v, hk, he⟩ := hgiven
    obtain ⟨rfl, rfl⟩ := Prod.mk.inj he
    rw [h.replaced k v hk, h'.replaced k v hk]
  · push Not at hgiven
    rw [h.beside part field hgiven, h'.beside part field hgiven]

/-- Under one name both trees have the same value, or both a table and in it the same fields. -/
theorem get?_eq_or (h : Replaces given old new) (h' : Replaces given old new') (part : String) :
    new.get? part = new'.get? part ∨ ∃ es es', new.get? part = some (.table es) ∧
      new'.get? part = some (.table es') ∧ ∀ field, es.lookup field = es'.lookup field := by
  by_cases hpart : ∃ k v, given k = some v ∧ k.part = part
  · obtain ⟨k, v, hk, rfl⟩ := hpart
    obtain ⟨es, hes⟩ := Value.exists_table_of_at? (h.replaced k v hk)
    obtain ⟨es', hes'⟩ := Value.exists_table_of_at? (h'.replaced k v hk)
    refine .inr ⟨es, es', hes, hes', fun field => ?_⟩
    have hat := h.at?_eq h' k.part field
    rwa [Value.at?_pair, Value.at?_pair, hes, hes'] at hat
  · push Not at hpart
    exact .inl ((h.apart part hpart).trans (h'.apart part hpart).symm)

/-- A part is read alike from both trees, if its reader looks no further than at the fields. -/
theorem field?_eq {es es' : List (String × Value)} (h : Replaces given old (.table es))
    (h' : Replaces given old (.table es')) (part : String) {α : Type} {default : Option α}
    {read : Value → Option α}
    (hread : ∀ fs fs' : List (String × Value), (∀ field, fs.lookup field = fs'.lookup field) →
      read (.table fs) = read (.table fs')) :
    Value.field? es part default read = Value.field? es' part default read := by
  rw [Value.field?, Value.field?]
  rcases h.get?_eq_or h' part with heq | ⟨fs, fs', hfs, hfs', hsame⟩
  · rw [Value.get?_table, Value.get?_table] at heq
    rw [heq]
  · rw [Value.get?_table] at hfs hfs'
    rw [hfs, hfs']
    exact hread fs fs' hsame

end Replaces

theorem AuthorizationSettings.ofValue?_congr {r : Value.Reading} {es es' : List (String × Value)}
    (h : ∀ field, es.lookup field = es'.lookup field) :
    ofValue? r (.table es) = ofValue? r (.table es') := by
  simp only [ofValue?, Value.fields?, Value.field?, Option.bind_eq_bind, Option.bind_some, h]

theorem LoggingSettings.ofValue?_congr {r : Value.Reading} {es es' : List (String × Value)}
    (h : ∀ field, es.lookup field = es'.lookup field) :
    ofValue? r (.table es) = ofValue? r (.table es') := by
  simp only [ofValue?, Value.fields?, Value.field?, Option.bind_eq_bind, Option.bind_some, h]

namespace Settings

variable {given : Overridable → Option Value} {old new new' : Value}

/-- Whichever tree has the settings replaced, it is read alike. -/
theorem ofValue?_of_replaces (h : Replaces given old new) (h' : Replaces given old new')
    (r : Value.Reading) : ofValue? r new = ofValue? r new' := by
  obtain ⟨es, rfl⟩ := h.isTable
  obtain ⟨es', rfl⟩ := h'.isTable
  have hpart : ∀ k v, given k = some v → k.part ≠ "objects" := by
    intro k _ _
    cases k <;> decide
  have hobjects : es.lookup "objects" = es'.lookup "objects" :=
    (h.apart "objects" hpart).trans (h'.apart "objects" hpart).symm
  have hlist : ∀ {α : Type} (default : Option α) (read : Value → Option α),
      Value.field? es "objects" default read = Value.field? es' "objects" default read := by
    intro α default read
    rw [Value.field?, Value.field?, hobjects]
  simp only [ofValue?, Value.fields?, Option.bind_eq_bind, Option.bind_some, hlist,
    h.field?_eq h' "authorization" fun _ _ => AuthorizationSettings.ofValue?_congr,
    h.field?_eq h' "logging" fun _ _ => LoggingSettings.ofValue?_congr]

variable {s : Surroundings} {named : Option String} {file text : String} {es : List (String × Value)}

/-- A text that is read is read alike without the byte order mark in front of it. -/
theorem read_unmarked (h : Toml.read text = some es) :
    Toml.read (Surroundings.unmarked text) = some es := by
  unfold Surroundings.unmarked
  split
  case h_1 r hr =>
    simp only [Toml.read, hr] at h
    cases r with
    | nil => simpa only [Toml.read, String.toList_ofList] using h
    | cons c r =>
      by_cases hc : c = '\ufeff'
      · rw [hc, Toml.readDocument_mark] at h
        cases h
      · simpa [Toml.read, hc] using h
  case h_2 => exact h

theorem ofText_eq (hread : Toml.read text = some es) :
    ofText text = ofTree (Value.ofLayers [es]) := by
  rw [ofText, layerOf, hread]
  rfl

theorem load_eq_ofTree (hfile : findFile s named = .ok (some file)) (hfound : s.find file = .file text)
    (hread : Toml.read text = some es) :
    load s named = ofTree (s.environment.layer.foldl (fun t e => t.set e.1 e.2) (Value.ofLayers [es])) := by
  have hlayer : layerAt s file = .ok es := by
    simp only [layerAt, Surroundings.read?, hfound, layerOf, read_unmarked hread]
  simp only [load, hfile, hlayer, bind, Except.bind]
  rfl

/-- What the variables do to a settings file that is read as the layer `es`. -/
structure Overlaid (s : Surroundings) (named : Option String) (text : String)
    (es : List (String × Value)) : Prop where
  /-- Unless keys are paths, the tree of the file is what the file says. -/
  tree_eq : (∀ e ∈ es, Step.ofKey e.1 = [.key e.1]) → Value.ofLayers [es] = .table es
  /-- A setting that a single variable names is given what the text of the variable reads as. -/
  given : ∀ k, ∀ v ∈ s.environment, Variables.Names v.1 k →
    (∀ w ∈ s.environment, Variables.Names w.1 k → w = v) →
      s.environment.given? k = some (Variables.valueOf v.2)
  given_iff : ∀ k, ∀ v ∈ s.environment, Variables.Names v.1 k →
    (∀ w ∈ s.environment, Variables.Names w.1 k → w = v) →
      ∀ value, s.environment.given? k = some value ↔ Variables.ReadsAs v.2 value
  not_given : ∀ k, s.environment.given? k = none ↔ ∀ v ∈ s.environment, ¬ Variables.Names v.1 k
  exists_tree : s.environment.OnlyOverride →
    ∃ tree, Replaces s.environment.given? (Value.ofLayers [es]) tree
  /-- The settings, or the error, are those of the tree of the file with the settings replaced that the
  variables name. -/
  load_eq : s.environment.OnlyOverride →
    ∀ tree, Replaces s.environment.given? (Value.ofLayers [es]) tree → load s named = ofTree tree
  /-- So are those of a text that says the same. -/
  load_eq_ofText : s.environment.OnlyOverride → ∀ text' es', Toml.read text' = some es' →
    Replaces s.environment.given? (Value.ofLayers [es]) (Value.ofLayers [es']) →
      load s named = ofText text'
  /-- Variables without the mark have no part in it. -/
  marked : ∀ vs : Variables, (vs.filter fun v => Variables.Marked v.1) =
    (s.environment.filter fun v => Variables.Marked v.1) →
      load { s with environment := vs } named = load s named
  /-- Without a variable that bears the mark, the file is loaded like its text. -/
  bare : (∀ v ∈ s.environment, ¬ Variables.Marked v.1) → load s named = ofText text

/-- A settings file is loaded as what it says with the settings replaced that variables name. -/
theorem load_overlaid (hfile : findFile s named = .ok (some file)) (hfound : s.find file = .file text)
    (hread : Toml.read text = some es) : Overlaid s named text es := by
  have hload := load_eq_ofTree hfile hfound hread
  have hnew := Replaces.layer (Value.exists_ofLayers_eq_table es) s.environment
  have heq : s.environment.OnlyOverride →
      ∀ tree, Replaces s.environment.given? (Value.ofLayers [es]) tree → load s named = ofTree tree := by
    intro honly tree htree
    rw [hload, ofTree, ofTree, ofValue?_of_replaces (hnew honly) htree]
  refine ⟨fun hplain => Value.ofLayers_singleton hplain (Toml.tidy_of_read hread),
    fun _ _ => Variables.given?_of_unique, ?_, fun _ => Variables.given?_eq_none_iff,
    fun honly => ⟨_, hnew honly⟩, heq, ?_, ?_, ?_⟩
  · intro k v hv hn hu value
    rw [Variables.given?_of_unique hv hn hu, Option.some.injEq, Variables.valueOf_eq_iff]
  · intro honly text' es' hread' htree
    rw [heq honly _ htree, ofText_eq hread']
  · intro vs hvs
    have hlayer : vs.layer = s.environment.layer := by
      rw [← Variables.layer_filter, hvs, Variables.layer_filter]
    have hother := load_eq_ofTree (s := { s with environment := vs }) hfile hfound hread
    rw [hother, hload, hlayer]
  · intro hnone
    have hfilter : (s.environment.filter fun v => Variables.Marked v.1) = [] := by
      simpa [List.filter_eq_nil_iff] using hnone
    have hlayer : s.environment.layer = [] := by
      rw [← Variables.layer_filter, hfilter]
      rfl
    rw [hload, hlayer, List.foldl_nil, ofText_eq hread]

def officeText : String := "[authorization]\nstrategy = \"legacy\"\nadmin_sid = \"root\"\n"

def officeLayer : List (String × Value) :=
  [("authorization", .table [("strategy", .text "legacy"), ("admin_sid", .text "root")])]

/-- One file, and variables over it in letters of either case. -/
def office : Surroundings where
  find path := if path = "/etc/policy.toml" then .file officeText else .nothing
  directory := "/"
  home := none
  environment := [("GATEKEEPER", "1"), ("Gatekeeper__Logging__LEVEL", "debug"),
    ("gatekeeper__authorization__ADMIN_SID", "TRUE")]

/-- The file with the settings replaced, its keys in another order. -/
def officeTree : Value :=
  .table [("logging", .table [("level", .text "debug")]),
    ("authorization", .table [("admin_sid", .bool true), ("strategy", .text "legacy")])]

theorem given?_office (k : Overridable) : office.environment.given? k = match k with
    | .adminSid => some (.bool true)
    | .logLevel => some (.text "debug")
    | _ => none := by
  cases k <;> cbv

theorem replaces_office : Replaces office.environment.given? (.table officeLayer) officeTree where
  isTable := ⟨_, rfl⟩
  replaced k v hk := by
    rw [given?_office] at hk
    cases k <;> simp at hk
    all_goals (subst hk; rfl)
  beside part field hout := by
    have hadmin := hout .adminSid _ (given?_office _)
    have hlevel := hout .logLevel _ (given?_office _)
    by_cases hl : part = "logging"
    · have hf : field ≠ "level" := fun hf => hlevel (by rw [hl, hf]; rfl)
      simp [Value.at?_pair, officeTree, officeLayer, Value.lookup_cons_eq, hl, hf]
    · by_cases ha : part = "authorization"
      · have hf : field ≠ "admin_sid" := fun hf => hadmin (by rw [ha, hf]; rfl)
        simp [Value.at?_pair, officeTree, officeLayer, Value.lookup_cons_eq, ha, hf]
      · simp [Value.at?_pair, officeTree, officeLayer, Value.lookup_cons_eq, hl, ha]
  apart part hout := by
    have ha : part ≠ "authorization" := (hout .adminSid _ (given?_office _)).symm
    have hl : part ≠ "logging" := (hout .logLevel _ (given?_office _)).symm
    simp [officeTree, officeLayer, Value.lookup_cons_eq, hl, ha]

theorem onlyOverride_office : office.environment.OnlyOverride := by
  intro v hv hm
  simp only [office, List.mem_cons, List.not_mem_nil, or_false] at hv
  rcases hv with rfl | rfl | rfl
  · exact absurd hm (by decide)
  · exact ⟨.logLevel, by decide⟩
  · exact ⟨.adminSid, by decide⟩

/-- The level is added, and the administrator gives way to the text of a truth value. -/
theorem load_overlaid_office :
    findFile office (some "/etc/policy.toml") = .ok (some "/etc/policy.toml") ∧
      Toml.read officeText = some officeLayer ∧ office.environment.OnlyOverride ∧
      Replaces office.environment.given? (.table officeLayer) officeTree ∧
      load office (some "/etc/policy.toml") = .ok
        { authorization := { strategy := "legacy", adminSid := "true" },
          logging := { level := "debug" } } := by
  have hfile : findFile office (some "/etc/policy.toml") = .ok (some "/etc/policy.toml") := by
    decide +kernel
  have hread : Toml.read officeText = some officeLayer := by cbv
  have h := load_overlaid hfile rfl hread
  have htree : Value.ofLayers [officeLayer] = .table officeLayer := h.tree_eq (by decide)
  have hload := h.load_eq onlyOverride_office officeTree (htree ▸ replaces_office)
  refine ⟨hfile, hread, onlyOverride_office, replaces_office, hload.trans ?_⟩
  decide +kernel

end Settings

end AccessPolicy
