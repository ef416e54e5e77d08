import AccessPolicy.Data.Layer
import Mathlib.Data.List.Induction
import Mathlib.Data.List.Nodup

/-!
What is found in a tree of values under its keys. Changing the value under a key leaves alone what is
under the others, and a layer whose keys are plain names, none of them twice in one table, is put over
nothing as it is.
-/
namespace AccessPolicy.Value

variable {change : Value → Value} {key k : String} {es : List (String × Value)} {v w : Value}

/-- The value under a key of a table. -/
def get? (v : Value) (key : String) : Option Value := v.entries.lookup key

/-- The value that a path of keys leads to. -/
def at? : Value → List String → Option Value
  | v, [] => some v
  | v, key :: path => (v.get? key).bind fun w => w.at? path

@[simp] theorem get?_table : (table es).get? key = es.lookup key := rfl

theorem at?_pair (v : Value) (outer inner : String) :
    v.at? [outer, inner] = (v.get? outer).bind fun w => w.get? inner := by
  simp [at?]

/-- Only a table leads on to a field. -/
theorem exists_table_of_at? {outer inner : String} (h : v.at? [outer, inner] = some w) :
    ∃ es, v.get? outer = some (table es) := by
  rw [at?_pair, Option.bind_eq_some_iff] at h
  obtain ⟨u, hu, hw⟩ := h
  cases u with
  | table es => exact ⟨es, hu⟩
  | _ => cases hw

theorem lookup_cons_eq (name : String) (v : Value) (es : List (String × Value)) :
    ((name, v) :: es).lookup k = if k = name then some v else es.lookup k := by
  by_cases hk : k = name
  · simp [hk]
  · have hb : (k == name) = false := beq_false_of_ne hk
    rw [List.lookup_cons, hb, if_neg hk]

theorem lookup_alter :
    (alter change key es).lookup k =
      if k = key then some (change ((es.lookup key).getD null)) else es.lookup k := by
  induction es with
  | nil => simp [alter, lookup_cons_eq]
  | cons e es ih =>
    obtain ⟨name, v⟩ := e
    by_cases hn : name = key
    · subst hn
      simp only [alter, beq_self_eq_true, if_true, lookup_cons_eq, Option.getD_some]
      split <;> rfl
    · rw [alter, if_neg (by simpa using hn), lookup_cons_eq, ih, lookup_cons_eq, lookup_cons_eq,
        if_neg (Ne.symm hn)]
      by_cases hk : k = name
      · rw [if_pos hk, if_pos hk, if_neg (hk ▸ hn)]
      · rw [if_neg hk, if_neg hk]

/-- Nothing but what is under the key changes. -/
theorem get?_update_key (path : List Step) :
    (update change (.key key :: path) v).get? k =
      if k = key then some (update change path ((v.get? key).getD null)) else v.get? k :=
  lookup_alter

theorem alter_of_not_mem (h : key ∉ es.map Prod.fst) :
    alter change key es = es ++ [(key, change null)] := by
  induction es with
  | nil => rfl
  | cons e es ih =>
    rw [List.map_cons, List.mem_cons, not_or] at h
    rw [alter, if_neg (by simpa using Ne.symm h.1), ih h.2, List.cons_append]

mutual

/-- No table, down to the first values that are none, has two entries for one key. -/
def Tidy : Value → Prop
  | table es => (es.map Prod.fst).Nodup ∧ TidyEntries es
  | _ => True

def TidyEntries : List (String × Value) → Prop
  | [] => True
  | (_, v) :: es => v.Tidy ∧ TidyEntries es

end

mutual

/-- Over nothing, a tidy value is put as it is. -/
theorem overlay_null : (v : Value) → v.Tidy → overlay v null = v
  | table es, h => by
    rw [Tidy] at h
    rw [overlay]
    exact overlayEntries_table es [] h.1 h.2
  | null, _ | bool _, _ | integer _, _ | float _, _ | text _, _ | array _, _ => by rw [overlay] <;> simp

/-- New keys are added at the end, with the values that they have. -/
theorem overlayEntries_table : (es acc : List (String × Value)) →
    ((acc ++ es).map Prod.fst).Nodup → TidyEntries es →
    overlayEntries es (table acc) = table (acc ++ es)
  | [], acc, _, _ => by rw [overlayEntries, List.append_nil]
  | (k, v) :: es, acc, hkeys, htidy => by
    rw [TidyEntries] at htidy
    have hassoc : acc ++ (k, v) :: es = (acc ++ [(k, v)]) ++ es := by simp
    have hfree : k ∉ acc.map Prod.fst := by
      intro hk
      rw [List.map_append, List.map_cons] at hkeys
      exact (List.nodup_append.1 hkeys).2.2 k hk k List.mem_cons_self rfl
    rw [overlayEntries, update, entries, alter_of_not_mem hfree, update, overlay_null v htidy.1]
    rw [hassoc] at hkeys ⊢
    exact overlayEntries_table es _ hkeys htidy.2

end

/-- With plain names for keys, a layer is put over a tree like a table over another. -/
theorem foldl_set_eq (hplain : ∀ e ∈ es, Step.ofKey e.1 = [.key e.1]) (tree : Value) :
    es.foldl (fun t e => t.set e.1 e.2) tree = overlayEntries es tree := by
  induction es generalizing tree with
  | nil => simp [overlayEntries]
  | cons e es ih =>
    obtain ⟨he, hes⟩ := List.forall_mem_cons.1 hplain
    rw [List.foldl_cons, ih hes, set, he, overlayEntries]

/-- One tidy layer of plain names makes the tree that it says. -/
theorem ofLayers_singleton (hplain : ∀ e ∈ es, Step.ofKey e.1 = [.key e.1]) (h : (table es).Tidy) :
    ofLayers [es] = table es := by
  rw [Tidy] at h
  calc ofLayers [es] = overlayEntries es (table []) := foldl_set_eq hplain (table [])
    _ = table es := overlayEntries_table es [] h.1 h.2

theorem exists_ofKey_eq (s : String) : ∃ name path, Step.ofKey s = .key name :: path := by
  unfold Step.ofKey
  cases Step.readName? s.toList with
  | none => exact ⟨s, [], rfl⟩
  | some r =>
    cases hrest : Step.readRest r.2.length r.2 with
    | none => exact ⟨s, [], by simp [hrest]⟩
    | some path => exact ⟨r.1, path, by simp [hrest]⟩

theorem exists_set_eq_table (tree : Value) (key : String) (v : Value) :
    ∃ es, tree.set key v = table es := by
  obtain ⟨name, path, hkey⟩ := exists_ofKey_eq key
  exact ⟨_, by rw [set, hkey, update]⟩

theorem exists_ofLayers_eq_table (es : List (String × Value)) : ∃ fs, ofLayers [es] = table fs := by
  induction es using List.reverseRecOn with
  | nil => exact ⟨[], rfl⟩
  | append_singleton es e _ =>
    have hlast : ofLayers [es ++ [e]] = (ofLayers [es]).set e.1 e.2 := by
      simp only [ofLayers, List.foldl_cons, List.foldl_nil, List.foldl_append]
    exact hlast ▸ exists_set_eq_table _ e.1 e.2

end AccessPolicy.Value
