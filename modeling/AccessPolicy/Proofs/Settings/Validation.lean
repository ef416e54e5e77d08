import AccessPolicy.Settings.Validation
import Mathlib.Data.List.Nodup

/-!
Valid settings. Validation accepts settings if the names in them are there to be called by, those of
objects once only, and all patterns compile.
-/
namespace AccessPolicy.Settings

variable {s : Settings} {os : List ObjectSettings}

/-- Of two checks in a row both have to pass. -/
theorem do_eq_ok_iff {x y : Except ConfigError Unit} :
    (do x; y) = .ok () ↔ x = .ok () ∧ y = .ok () := by
  cases x with
  | error e => simp [bind, Except.bind]
  | ok u => simp [bind, Except.bind]

theorem validatePatterns_eq_ok_iff {field : String} {sources : List String} :
    validatePatterns field sources = .ok () ↔
      ∀ source ∈ sources, ∃ p, Pattern.compile source = .ok p := by
  rw [← Filter.ofSources_ok_iff, validatePatterns]
  cases Filter.ofSources sources <;> simp

theorem validateRule_eq_ok_iff {index : Nat} {r : OverrideRule} :
    validateRule index r = .ok () ↔ Text.allBlank r.name = false ∧
      ∀ source ∈ r.principals ++ r.objects, ∃ p, Pattern.compile source = .ok p := by
  rw [validateRule, List.forall_mem_append]
  cases Text.allBlank r.name with
  | true => simp
  | false =>
    simp only [Bool.false_eq_true, if_false, true_and, do_eq_ok_iff, validatePatterns_eq_ok_iff]

theorem validateRules_eq_ok_iff {index : Nat} {rules : List OverrideRule} :
    validateRules index rules = .ok () ↔ ∀ r ∈ rules, Text.allBlank r.name = false ∧
      ∀ source ∈ r.principals ++ r.objects, ∃ p, Pattern.compile source = .ok p := by
  induction rules generalizing index with
  | nil => simp [validateRules]
  | cons r rules ih =>
    rw [validateRules, do_eq_ok_iff, validateRule_eq_ok_iff, ih, List.forall_mem_cons]

theorem validateObjects_eq_ok_iff {seen : List String} :
    validateObjects seen os = .ok () ↔
      (∀ o ∈ os, Text.allBlank o.name = false ∧ o.name ∉ seen) ∧
        (os.map ObjectSettings.name).Nodup := by
  induction os generalizing seen with
  | nil => simp [validateObjects]
  | cons o os ih =>
    unfold validateObjects
    cases hb : Text.allBlank o.name with
    | true => simp [hb]
    | false =>
      by_cases hs : o.name ∈ seen
      · simp [hb, hs]
      · simp only [Bool.false_eq_true, if_false, List.contains_eq_mem, hs, decide_false, ih,
          List.map_cons, List.nodup_cons, List.mem_map]
        constructor
        · rintro ⟨h, hd⟩
          refine ⟨?_, ?_, hd⟩
          · intro x hx
            rcases List.mem_cons.1 hx with rfl | hx
            · exact ⟨hb, hs⟩
            · exact ⟨(h x hx).1, fun hm => (h x hx).2 (List.mem_cons_of_mem _ hm)⟩
          · rintro ⟨x, hx, he⟩
            exact (h x hx).2 (he ▸ List.mem_cons_self)
        · rintro ⟨h, hn, hd⟩
          refine ⟨?_, hd⟩
          intro x hx
          obtain ⟨hbx, hsx⟩ := h x (List.mem_cons_of_mem _ hx)
          refine ⟨hbx, ?_⟩
          intro hm
          rcases List.mem_cons.1 hm with he | hm
          · exact hn ⟨x, hx, he⟩
          · exact hsx hm

theorem validate_eq_ok_iff :
    s.validate = .ok () ↔ Text.allBlank s.authorization.strategy = false ∧
      Text.allBlank s.authorization.adminSid = false ∧
      validateRules 0 s.authorization.overrides = .ok () ∧
      validateObjects [] s.objects = .ok () := by
  unfold validate
  cases Text.allBlank s.authorization.strategy with
  | true => simp
  | false =>
    cases Text.allBlank s.authorization.adminSid with
    | true => simp
    | false =>
      simp only [Bool.false_eq_true, if_false, true_and, do_eq_ok_iff]

/-- What settings have to be like. -/
structure Valid (s : Settings) : Prop where
  strategy : Text.allBlank s.authorization.strategy = false
  adminSid : Text.allBlank s.authorization.adminSid = false
  rule_names : ∀ r ∈ s.authorization.overrides, Text.allBlank r.name = false
  rule_patterns : ∀ r ∈ s.authorization.overrides, ∀ source ∈ r.principals ++ r.objects,
    ∃ p, Pattern.compile source = .ok p
  object_names : ∀ o ∈ s.objects, Text.allBlank o.name = false
  object_names_nodup : (s.objects.map ObjectSettings.name).Nodup

theorem validate_iff_valid : s.validate = .ok () ↔ s.Valid := by
  rw [validate_eq_ok_iff, validateRules_eq_ok_iff, validateObjects_eq_ok_iff]
  constructor
  · rintro ⟨hs, ha, hr, ho, hd⟩
    exact ⟨hs, ha, fun r h => (hr r h).1, fun r h => (hr r h).2, fun o h => (ho o h).1, hd⟩
  · intro h
    exact ⟨h.strategy, h.adminSid, fun r hr => ⟨h.rule_names r hr, h.rule_patterns r hr⟩,
      fun o ho => ⟨h.object_names o ho, List.not_mem_nil⟩, h.object_names_nodup⟩

end AccessPolicy.Settings
