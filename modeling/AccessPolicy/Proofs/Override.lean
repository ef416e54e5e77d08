import AccessPolicy.Controller
import AccessPolicy.Proofs.Catalog.WellFormed
import AccessPolicy.Proofs.Traversal

/-!
Override rules as the configuration states them. The hooks of compiled rules answer for a listed
permission as the first rule that covers the request says, and are silent if none does.
-/
namespace AccessPolicy

variable {c : Catalog} {t : Target} {who : Identity} {p : Permission}

namespace Filter

/-- The source can be compiled, and the pattern matches the name. -/
def matchedBy (name source : String) : Bool :=
  match Pattern.compile source with
  | .ok pattern => pattern.isMatch name
  | .error _ => false

theorem isMatch_ofSources {sources : List String} {f : Filter} (h : ofSources sources = .ok f)
    (name : String) : f.isMatch name = sources.any (matchedBy name) := by
  induction sources generalizing f with
  | nil => cases h; rfl
  | cons source sources ih =>
    cases hp : Pattern.compile source with
    | error e => simp [ofSources, hp] at h
    | ok pattern =>
      cases hr : ofSources sources with
      | error e => simp [ofSources, hp, hr] at h
      | ok g =>
        simp only [ofSources, hp, hr, Except.ok.injEq] at h
        subst h
        have hg : g.patterns.any (fun q => q.2.isMatch name) = sources.any (matchedBy name) := ih hr
        simp [isMatch, matchedBy, hp, hg]

theorem isEmpty_ofSources {sources : List String} {f : Filter} (h : ofSources sources = .ok f) :
    f.isEmpty = sources.isEmpty := by
  cases sources with
  | nil => cases h; rfl
  | cons source sources =>
    cases hp : Pattern.compile source with
    | error e => simp [ofSources, hp] at h
    | ok pattern =>
      cases hr : ofSources sources with
      | error e => simp [ofSources, hp, hr] at h
      | ok g =>
        simp only [ofSources, hp, hr, Except.ok.injEq] at h
        subst h
        rfl

/-- Without a source everything is let through, and nameless is what no source matches. -/
theorem admits_ofSources {sources : List String} {f : Filter} (h : ofSources sources = .ok f)
    (name : Option String) :
    f.admits name = (sources.isEmpty || name.any fun n => sources.any (matchedBy n)) := by
  rw [admits, isEmpty_ofSources h]
  cases name with
  | none => rfl
  | some n => rw [Option.any_some, Option.any_some, isMatch_ofSources h]

end Filter

namespace OverrideRule

/-- The rule lists the permission by its own id, and its patterns, where it has any, match the
principal and the name of the object. -/
def covers (r : OverrideRule) (t : Target) (who : Identity) (p : Permission) : Bool :=
  r.permissions.contains p.id
    && (r.principals.isEmpty || r.principals.any (Filter.matchedBy who.principal))
    && (r.objects.isEmpty || t.objectName?.any fun name => r.objects.any (Filter.matchedBy name))

/-- A rule can be compiled only if its patterns can, and then it keeps what the catalog knows. -/
theorem compile_eq_ok {r : OverrideRule} {o : Override} (h : r.compile c = .ok o) :
    Filter.ofSources r.principals = .ok o.principals ∧ Filter.ofSources r.objects = .ok o.objects ∧
      o.permissions = Text.ascending (r.registered c) ∧ o.decision = r.decision := by
  unfold compile at h
  by_cases he : r.permissions.isEmpty = true
  · simp [he] at h
  · by_cases hr : (r.registered c).isEmpty = true
    · simp [he, hr] at h
    · cases hp : Filter.ofSources r.principals with
      | error bad => simp [he, hr, hp] at h
      | ok principals =>
        cases ho : Filter.ofSources r.objects with
        | error bad => simp [he, hr, hp, ho] at h
        | ok objects =>
          simp only [if_neg he, if_neg hr, hp, ho, Except.ok.injEq] at h
          subst h
          exact ⟨rfl, rfl, rfl, rfl⟩

theorem mem_registered {r : OverrideRule} {id : String} :
    id ∈ r.registered c ↔ id ∈ r.permissions ∧ ∃ p, c.lookup id = some p := by
  rw [registered, List.mem_filter, Option.isSome_iff_exists]

/-- A rule is refused for its patterns, or because the catalog knows none of its ids. -/
theorem exists_compile_iff {r : OverrideRule} :
    (∃ o, r.compile c = .ok o) ↔ (∃ id ∈ r.permissions, ∃ p, c.lookup id = some p) ∧
      (∃ f, Filter.ofSources r.principals = .ok f) ∧ ∃ f, Filter.ofSources r.objects = .ok f := by
  constructor
  · rintro ⟨o, h⟩
    obtain ⟨hp, ho, -, -⟩ := compile_eq_ok h
    refine ⟨?_, ⟨_, hp⟩, ⟨_, ho⟩⟩
    cases hr : r.registered c with
    | nil =>
      unfold compile at h
      by_cases he : r.permissions.isEmpty = true
      · simp [he] at h
      · simp [he, hr] at h
    | cons id ids => exact ⟨id, mem_registered.1 (hr ▸ List.mem_cons_self)⟩
  · rintro ⟨⟨id, hid, hl⟩, ⟨f, hf⟩, g, hg⟩
    have hp : r.permissions.isEmpty = false := List.isEmpty_eq_false_iff.2 (List.ne_nil_of_mem hid)
    have hr : (r.registered c).isEmpty = false :=
      List.isEmpty_eq_false_iff.2 (List.ne_nil_of_mem (mem_registered.2 ⟨hid, hl⟩))
    simp [compile, hp, hr, hf, hg]

/-- The error for a rule that could never apply. -/
def idleError (r : OverrideRule) : ConfigError :=
  if r.permissions.isEmpty then .overrideEmpty r.name else .overrideUnregistered r.name r.permissions

/-- If its patterns are fine, a rule is refused only because the catalog knows none of its ids. -/
theorem compile_eq_error_iff {r : OverrideRule} {e : ConfigError}
    (hp : ∀ source ∈ r.principals ++ r.objects, ∃ p, Pattern.compile source = .ok p) :
    r.compile c = .error e ↔ (∀ id ∈ r.permissions, c.lookup id = none) ∧ e = r.idleError := by
  obtain ⟨hprincipals, hobjects⟩ := List.forall_mem_append.1 hp
  obtain ⟨f, hf⟩ := Filter.ofSources_ok_iff.2 hprincipals
  obtain ⟨g, hg⟩ := Filter.ofSources_ok_iff.2 hobjects
  have hidle : (r.registered c).isEmpty = true ↔ ∀ id ∈ r.permissions, c.lookup id = none := by
    rw [registered, List.isEmpty_iff, List.filter_eq_nil_iff]
    simp only [Option.not_isSome_iff_eq_none]
  rw [← hidle, compile, idleError]
  by_cases he : r.permissions.isEmpty = true
  · have hr : (r.registered c).isEmpty = true := by
      rw [hidle, List.isEmpty_iff.1 he]
      simp
    simp [he, hr, eq_comm]
  · by_cases hr : (r.registered c).isEmpty = true
    · simp [he, hr, eq_comm]
    · simp [he, hr, hf, hg]

theorem applies_compile (hc : c.WellFormed) (hp : p ∈ c.all) {r : OverrideRule} {o : Override}
    (h : r.compile c = .ok o) : o.applies t who p = r.covers t who p := by
  obtain ⟨hprincipals, hobjects, hids, -⟩ := compile_eq_ok h
  have hlist : o.permissions.contains p.id = r.permissions.contains p.id := by
    rw [Bool.eq_iff_iff, List.contains_iff_mem, List.contains_iff_mem, hids, Text.mem_ascending,
      mem_registered, hc.lookup_id hp]
    simp
  rw [Override.applies, covers, hlist, Filter.admits_ofSources hprincipals,
    Filter.admits_ofSources hobjects, Option.any_some]

end OverrideRule

theorem Controller.compileRules_eq_mapM (c : Catalog) (rules : List OverrideRule) :
    compileRules c rules = rules.mapM (OverrideRule.compile c) := by
  induction rules with
  | nil => rfl
  | cons r rules ih =>
    rw [compileRules, Traversal.mapM_cons_eq, ← ih]
    cases r.compile c with
    | error e => rfl
    | ok o => cases compileRules c rules <;> rfl

theorem Controller.exists_compileRules_iff {rules : List OverrideRule} :
    (∃ os, compileRules c rules = .ok os) ↔ ∀ r ∈ rules, ∃ o, r.compile c = .ok o := by
  rw [compileRules_eq_mapM, Traversal.exists_mapM_iff]

/-- Compiled rules answer as the first rule in the order of the configuration that covers the
request. -/
theorem Controller.consult_compileRules (hc : c.WellFormed) (hp : p ∈ c.all)
    {rules : List OverrideRule} {os : List Override} (h : compileRules c rules = .ok os) :
    Hook.consult (os.map Override.toHook) t who p =
      (rules.find? fun r => r.covers t who p).map fun r => r.decision == .allow := by
  induction rules generalizing os with
  | nil => cases h; rfl
  | cons r rules ih =>
    cases hr : r.compile c with
    | error e => simp [compileRules, hr] at h
    | ok o =>
      cases hrs : compileRules c rules with
      | error e => simp [compileRules, hr, hrs] at h
      | ok os' =>
        simp only [compileRules, hr, hrs, Except.ok.injEq] at h
        subst h
        have ha : o.applies t who p = r.covers t who p := OverrideRule.applies_compile hc hp hr
        have hd : o.decision = r.decision := (OverrideRule.compile_eq_ok hr).2.2.2
        rw [List.map_cons, Hook.consult_cons, Override.answer?_toHook, Override.decide, ha, hd,
          ih hrs, List.find?_cons]
        cases r.covers t who p <;> rfl

end AccessPolicy
