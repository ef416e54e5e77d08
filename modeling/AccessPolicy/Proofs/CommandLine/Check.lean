import AccessPolicy.CommandLine.Run
import AccessPolicy.Proofs.Acl.Report
import AccessPolicy.Proofs.Data.Json
import AccessPolicy.Proofs.Policy.Construction
import AccessPolicy.Proofs.Strategy.Fixed

/-!
The check as a gate. A check passes if all that it refers to is found and the policy allows one of the
permissions, it is denied if all is found and the policy allows none, and it fails if something is
not found. How the answer is written makes no difference.
-/
namespace AccessPolicy

namespace CommandLine

variable {s : Surroundings} {config : Option String} {r : CheckRequest} {P : Policy} {c : Catalog}
  {ids : List String} {ps : List Permission} {e : RunError}

theorem Request.run_of_settings_error {command : Command} {e : ConfigError}
    (hs : Settings.load s config = .error e) :
    Request.run ⟨config, command⟩ s = .failed (.settings e) := by
  rw [Request.run, hs]

-- Rewriting in the definition would have the kernel compute the policy, so its cases are split.
theorem Request.run_of_policy_error {command : Command} {settings : Settings} {e : PolicyError}
    (hs : Settings.load s config = .ok settings) (hp : Policy.load 0 settings = .error e) :
    Request.run ⟨config, command⟩ s = .failed (.policy e) := by
  fun_cases Request.run ⟨config, command⟩ s <;> simp_all

theorem Request.run_of_load {command : Command} {settings : Settings}
    (hs : Settings.load s config = .ok settings) (hp : Policy.load 0 settings = .ok P) :
    Request.run ⟨config, command⟩ s = command.run P settings := by
  fun_cases Request.run ⟨config, command⟩ s <;> simp_all

/-- The permission that is called for by one id. -/
def require (c : Catalog) (id : String) : Except RunError Permission :=
  (c.lookup id).elim (.error (.permissionUnknown id)) .ok

theorem require_eq_ok_iff {id : String} {p : Permission} :
    require c id = .ok p ↔ c.lookup id = some p := by
  unfold require
  cases c.lookup id <;> simp

theorem require_eq_error_iff {id : String} :
    require c id = .error e ↔ c.lookup id = none ∧ e = .permissionUnknown id := by
  unfold require
  cases c.lookup id <;> simp [eq_comm]

theorem lookupAll_eq_mapM (c : Catalog) (ids : List String) :
    lookupAll c ids = ids.mapM (require c) := by
  induction ids with
  | nil => rfl
  | cons id ids ih =>
    rw [lookupAll, Traversal.mapM_cons_eq, ← ih, require]
    cases c.lookup id <;> rfl

theorem lookupAll_eq_ok_iff :
    lookupAll c ids = .ok ps ↔ List.Forall₂ (fun id p => c.lookup id = some p) ids ps := by
  simp only [lookupAll_eq_mapM, Traversal.mapM_eq_ok_iff, require_eq_ok_iff]

theorem exists_lookupAll_iff :
    (∃ ps, lookupAll c ids = .ok ps) ↔ ∀ id ∈ ids, ∃ p, c.lookup id = some p := by
  simp only [lookupAll_eq_mapM, Traversal.exists_mapM_iff, require_eq_ok_iff]

/-- The first id that is unknown is the one that is reported. -/
theorem lookupAll_eq_error_iff : lookupAll c ids = .error e ↔
    ∃ before id after, ids = before ++ id :: after ∧ (∀ b ∈ before, ∃ p, c.lookup b = some p) ∧
      c.lookup id = none ∧ e = .permissionUnknown id := by
  simp only [lookupAll_eq_mapM, Traversal.mapM_eq_error_iff, require_eq_ok_iff,
    require_eq_error_iff]

/-- What the name of an object, or none, stands for. -/
inductive IsTarget (P : Policy) : Option String → Option SecuredItem → Prop
  | root : IsTarget P none none
  | object {name : String} {i : SecuredItem} (hi : P.item? name = some i) :
      IsTarget P (some name) (some i)

theorem findObject_eq_ok_iff {name : Option String} {x : Option SecuredItem} :
    findObject P name = .ok x ↔ IsTarget P name x := by
  constructor
  · intro h
    cases name with
    | none =>
      cases h
      exact .root
    | some name =>
      rw [findObject, Policy.requireItem] at h
      cases hi : P.item? name with
      | none => simp [hi] at h
      | some i =>
        simp only [hi, Except.ok.injEq] at h
        rw [← h]
        exact .object hi
  · intro h
    cases h with
    | root => rfl
    | object hi => rw [findObject, Policy.requireItem, hi]

theorem findObject_eq_error_iff {name : Option String} : findObject P name = .error e ↔
    ∃ n, name = some n ∧ P.item? n = none ∧ e = .policy (.config (.objectUnknown n)) := by
  cases name with
  | none => simp [findObject]
  | some n =>
    rw [findObject, Policy.requireItem]
    cases hi : P.item? n <;> simp [hi, eq_comm]

/-- The settings that are found here are valid, and this policy is built from them. -/
def PolicyAt (s : Surroundings) (config : Option String) (P : Policy) : Prop :=
  ∃ settings, Settings.load s config = .ok settings ∧ settings.validate = .ok () ∧
    Policy.load 0 settings = .ok P

/-- What a check asks once everything is found. -/
structure Inquiry where
  policy : Policy
  who : Identity
  permissions : List Permission
  item : Option SecuredItem

/-- The policy allows the identity one of the permissions. -/
def Inquiry.Allowed (q : Inquiry) : Prop :=
  ∃ p ∈ q.permissions, (q.policy.controller.aclAt q.item).has q.who p = true

/-- Whom the check is about: the anonymous user if that is asked for, and else the principal that is
named, in both cases as a member of the groups that are named. -/
inductive CheckRequest.AsksAbout (r : CheckRequest) : Identity → Prop
  | visitor (h : r.anonymous = true) : r.AsksAbout ⟨.anonymous, r.groups⟩
  | user {name : String} (h : r.anonymous = false) (hname : r.principal = some name) :
      r.AsksAbout ⟨.user name, r.groups⟩

/-- All that the check refers to is found. -/
structure CheckRequest.Resolves (r : CheckRequest) (s : Surroundings) (config : Option String)
    (q : Inquiry) : Prop where
  policy : PolicyAt s config q.policy
  identity : r.AsksAbout q.who
  permissions :
    List.Forall₂ (fun id p => q.policy.catalog.lookup id = some p) r.permissions q.permissions
  item : IsTarget q.policy r.object q.item

/-- What is not found first, by the error that reports it. -/
inductive CheckRequest.Fails (r : CheckRequest) (s : Surroundings) (config : Option String) :
    RunError → Prop
  | settings {e : ConfigError} (h : Settings.load s config = .error e) : Fails r s config (.settings e)
  | policy {settings : Settings} {e : PolicyError} (hs : Settings.load s config = .ok settings)
      (h : Policy.load 0 settings = .error e) : Fails r s config (.policy e)
  | identity {P : Policy} (hP : PolicyAt s config P) (hprincipal : r.principal = none)
      (hanonymous : r.anonymous = false) : Fails r s config .identityMissing
  | permission {P : Policy} {who : Identity} (hP : PolicyAt s config P) (hw : r.AsksAbout who)
      {before after : List String} {id : String} (hids : r.permissions = before ++ id :: after)
      (hbefore : ∀ b ∈ before, ∃ p, P.catalog.lookup b = some p) (hid : P.catalog.lookup id = none) :
      Fails r s config (.permissionUnknown id)
  | object {P : Policy} {who : Identity} (hP : PolicyAt s config P) (hw : r.AsksAbout who)
      (hids : ∀ id ∈ r.permissions, ∃ p, P.catalog.lookup id = some p) {name : String}
      (ho : r.object = some name) (hi : P.item? name = none) :
      Fails r s config (.policy (.config (.objectUnknown name)))

theorem CheckRequest.identity?_eq_none_iff :
    r.identity? = none ↔ r.principal = none ∧ r.anonymous = false := by
  unfold identity?
  cases r.anonymous with
  | true => simp
  | false => simp

theorem CheckRequest.identity?_eq_some_iff {who : Identity} :
    r.identity? = some who ↔ r.AsksAbout who := by
  unfold identity?
  constructor
  · intro h
    cases ha : r.anonymous with
    | true =>
      rw [ha, if_pos rfl] at h
      cases h
      exact .visitor ha
    | false =>
      rw [ha, if_neg Bool.false_ne_true, Option.map_eq_some_iff] at h
      obtain ⟨name, hname, rfl⟩ := h
      exact .user ha hname
  · rintro (ha | ⟨ha, hname⟩)
    · rw [if_pos ha]
    · rw [ha, if_neg Bool.false_ne_true, hname, Option.map_some]

/-- The denial for an identity that is allowed none of the permissions. -/
def Inquiry.denial? (q : Inquiry) : Option Denial :=
  if q.permissions.any ((q.policy.controller.aclAt q.item).has q.who) then none
  else some (.of q.who (Denial.distinct (q.permissions.map (.of q.policy.catalog.isEnabled))))

theorem Inquiry.denial?_eq_none_iff {q : Inquiry} : q.denial? = none ↔ q.Allowed := by
  rw [denial?, Allowed, ← List.any_eq_true]
  split <;> simp_all

theorem PolicyAt.wellFormed (h : PolicyAt s config P) : P.catalog.WellFormed := by
  obtain ⟨settings, -, -, hp⟩ := h
  exact (Policy.loadWith_eq_ok_iff.1 hp).wellFormed (Catalog.wellFormed_empty 0)

namespace CheckRequest

variable {q : Inquiry}

theorem Resolves.explains (h : r.Resolves s config q) {d : Denial} (hd : q.denial? = some d) :
    d.Explains q.policy.catalog.isEnabled q.who q.permissions := by
  have hw := h.policy.wellFormed
  have hfound : List.Forall₂ (fun p id => p ∈ q.policy.catalog.all ∧
      q.policy.catalog.lookup id = some p) q.permissions r.permissions :=
    (h.permissions.imp fun _ _ hid => ⟨(hw.lookup_eq_some_iff.1 hid).1, hid⟩).flip
  have hmem := (List.forall₂_and_left _ _).1 hfound |>.1
  unfold Inquiry.denial? at hd
  split at hd
  · cases hd
  · cases hd
    exact Denial.explains_of fun p hp p' hp' => hw.of_eq_of_id_eq (hmem p hp) (hmem p' hp')

theorem Resolves.run_eq (h : r.Resolves s config q) (hr : r.permissions ≠ []) :
    Request.run ⟨config, .check r⟩ s = r.answer q.who q.denial? := by
  obtain ⟨settings, hs, -, hp⟩ := h.policy
  have hne : q.permissions ≠ [] := by
    intro hnil
    have hf := h.permissions
    rw [hnil, List.forall₂_nil_right_iff] at hf
    exact hr hf
  simp only [Request.run_of_load hs hp, Command.run, CheckRequest.run,
    identity?_eq_some_iff.2 h.identity, lookupAll_eq_ok_iff.2 h.permissions,
    findObject_eq_ok_iff.2 h.item, Acl.checkAny_of_ne_nil hne, Inquiry.denial?]
  cases q.permissions.any ((q.policy.controller.aclAt q.item).has q.who) <;> rfl

theorem Fails.run_eq (h : r.Fails s config e) :
    Request.run ⟨config, .check r⟩ s = .failed e := by
  cases h with
  | settings h => exact Request.run_of_settings_error h
  | policy hs h => exact Request.run_of_policy_error hs h
  | identity hP hprincipal hanonymous =>
    obtain ⟨settings, hs, -, hp⟩ := hP
    have hw := identity?_eq_none_iff.2 ⟨hprincipal, hanonymous⟩
    simp only [Request.run_of_load hs hp, Command.run, CheckRequest.run, hw]
  | permission hP hw hids hbefore hid =>
    obtain ⟨settings, hs, -, hp⟩ := hP
    have hl := lookupAll_eq_error_iff.2 ⟨_, _, _, hids, hbefore, hid, rfl⟩
    simp only [Request.run_of_load hs hp, Command.run, CheckRequest.run,
      identity?_eq_some_iff.2 hw, hl]
  | object hP hw hids ho hi =>
    obtain ⟨settings, hs, -, hp⟩ := hP
    obtain ⟨ps, hl⟩ := exists_lookupAll_iff.2 hids
    have hf := findObject_eq_error_iff.2 ⟨_, ho, hi, rfl⟩
    simp only [Request.run_of_load hs hp, Command.run, CheckRequest.run,
      identity?_eq_some_iff.2 hw, hl, hf]

/-- The denial that is given is about the identity and the permissions that were asked for. -/
theorem Resolves.denied (hq : r.Resolves s config q) (hr : r.permissions ≠ []) (hn : ¬ q.Allowed) :
    ∃ d, Request.run ⟨config, .check r⟩ s = r.answer q.who (some d) ∧
      d.Explains q.policy.catalog.isEnabled q.who q.permissions := by
  obtain ⟨d, hd⟩ := Option.ne_none_iff_exists'.1 (mt Inquiry.denial?_eq_none_iff.1 hn)
  exact ⟨d, hd ▸ hq.run_eq hr, hq.explains hd⟩

end CheckRequest

end CommandLine

end AccessPolicy
