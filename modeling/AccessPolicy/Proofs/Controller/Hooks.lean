import AccessPolicy.Proofs.Acl.Mirror
import AccessPolicy.Proofs.Policy.Loading

/-!
Hooks in front of a list. The first hook that has a say decides, hooks that are silent or break down
might as well not be there, and only where no hook has a say does the list behind them matter. So what
the hooks of a controller decide, neither a further hook nor another strategy changes.
-/
namespace AccessPolicy

variable {t : Target} {who : Identity} {p : Permission} {ps : List Permission} {b : Bool}
  {hooks hooks' more : List Hook} {h : Hook}

theorem Verdict.answer?_eq_none_iff {v : Verdict} : v.answer? = none ↔ v = silent ∨ v = broken := by
  cases v <;> simp [answer?]

theorem Verdict.answer?_eq_some_iff {v : Verdict} : v.answer? = some b ↔ v = ofBool b := by
  cases v <;> cases b <;> simp [answer?, ofBool]

namespace Hook

/-- The hook has no say in the request. -/
def Neutral (h : Hook) (t : Target) (who : Identity) (p : Permission) : Prop :=
  h.check t who p = .silent ∨ h.check t who p = .broken

instance : Decidable (h.Neutral t who p) := inferInstanceAs (Decidable (_ ∨ _))

/-- The first hook that has a say in the request answers `allowed`. -/
def Decides (hooks : List Hook) (t : Target) (who : Identity) (p : Permission)
    (allowed : Bool) : Prop :=
  ∃ before h after, hooks = before ++ h :: after ∧ (∀ g ∈ before, g.Neutral t who p) ∧
    h.check t who p = .ofBool allowed

theorem consult_eq_some_iff : consult hooks t who p = some b ↔ Decides hooks t who p b := by
  rw [consult, List.findSome?_eq_some_iff]
  simp only [Verdict.answer?_eq_none_iff, Verdict.answer?_eq_some_iff]
  constructor
  · rintro ⟨before, h, after, hh, hb, hn⟩
    exact ⟨before, h, after, hh, hn, hb⟩
  · rintro ⟨before, h, after, hh, hn, hb⟩
    exact ⟨before, h, after, hh, hb, hn⟩

theorem consult_eq_none_iff : consult hooks t who p = none ↔ ∀ h ∈ hooks, h.Neutral t who p := by
  rw [consult, List.findSome?_eq_none_iff]
  simp only [Verdict.answer?_eq_none_iff]
  rfl

example (t : Target) (who : Identity) (p : Permission) :
    consult [⟨"quiet", 0, fun _ _ _ => .silent⟩, ⟨"failing", 1, fun _ _ _ => .broken⟩,
      ⟨"refusing", 2, fun _ _ _ => .deny⟩, ⟨"admitting", 3, fun _ _ _ => .allow⟩] t who p =
        some false := rfl

theorem decides_or_neutral (hooks : List Hook) (t : Target) (who : Identity) (p : Permission) :
    (∃ b, Decides hooks t who p b) ∨ ∀ h ∈ hooks, h.Neutral t who p := by
  simp only [← consult_eq_some_iff, ← consult_eq_none_iff]
  cases consult hooks t who p with
  | none => exact .inr rfl
  | some b => exact .inl ⟨b, rfl⟩

/-- Hooks that are registered later have no part in what is decided. -/
theorem Decides.append (hd : Decides hooks t who p b) (more : List Hook) :
    Decides (hooks ++ more) t who p b := by
  rw [← consult_eq_some_iff, consult_append, consult_eq_some_iff.2 hd, Option.some_or]

/-- One hook list becomes another as hooks come and go that have no say about any of `ps`. -/
inductive Edited (t : Target) (who : Identity) (ps : List Permission) (hooks : List Hook) :
    List Hook → Prop
  | refl : Edited t who ps hooks hooks
  | insert (before after : List Hook) (h : Hook) : Edited t who ps hooks (before ++ after) →
      (∀ p ∈ ps, h.Neutral t who p) → Edited t who ps hooks (before ++ h :: after)
  | delete (before after : List Hook) (h : Hook) : Edited t who ps hooks (before ++ h :: after) →
      (∀ p ∈ ps, h.Neutral t who p) → Edited t who ps hooks (before ++ after)

/-- A hook without a say makes no difference, wherever it stands. -/
theorem consult_of_neutral (hn : h.Neutral t who p) (before after : List Hook) :
    consult (before ++ h :: after) t who p = consult (before ++ after) t who p := by
  rw [consult_append, consult_append, consult_cons, Verdict.answer?_eq_none_iff.2 hn, Option.none_or]

theorem Edited.consult_eq (he : Edited t who ps hooks hooks') (hp : p ∈ ps) :
    consult hooks' t who p = consult hooks t who p := by
  induction he with
  | refl => rfl
  | insert before after h _ hn ih => rw [consult_of_neutral (hn p hp), ih]
  | delete before after h _ hn ih => rw [← consult_of_neutral (hn p hp), ih]

/-- Whatever stands behind the hooks, they settle whether the identity holds one of `ps`: one is
allowed by them, or all are decided. -/
def Settles (hooks : List Hook) (t : Target) (who : Identity) (ps : List Permission) : Prop :=
  (∃ p ∈ ps, Decides hooks t who p true) ∨ ∀ p ∈ ps, ∃ b, Decides hooks t who p b

/-- What is not settled hangs on a permission about which no hook has a say. -/
theorem neutral_of_not_settles (hs : ¬ Settles hooks t who ps) :
    (∀ p ∈ ps, ¬ Decides hooks t who p true) ∧ ∃ p ∈ ps, ∀ h ∈ hooks, h.Neutral t who p := by
  simp only [Settles, not_or, not_exists, not_and, not_forall] at hs
  obtain ⟨hnone, p, hp, hd⟩ := hs
  refine ⟨hnone, p, hp, (decides_or_neutral hooks t who p).resolve_left ?_⟩
  rintro ⟨b, hb⟩
  exact hd b hb

end Hook

namespace Acl

variable {a a' inner inner' : Acl}

/-- The lists tell the identity the same about the permission. -/
structure Alike (who : Identity) (p : Permission) (a a' : Acl) : Prop where
  has : a'.has who p = a.has who p
  check : ∀ shown, a'.check shown who p = a.check shown who p

/-- The lists tell the identity the same about having one of the permissions. -/
structure AnyAlike (who : Identity) (ps : List Permission) (a a' : Acl) : Prop where
  hasAny : a'.hasAny who ps = a.hasAny who ps
  checkAny : ∀ shown, a'.checkAny shown who ps = a.checkAny shown who ps

theorem Alike.of_has (h : a'.has who p = a.has who p) : Alike who p a a' := by
  refine ⟨h, fun shown => ?_⟩
  rw [Acl.check, Acl.check, h]

theorem AnyAlike.of_hasAny (h : a'.hasAny who ps = a.hasAny who ps) : AnyAlike who ps a a' := by
  refine ⟨h, fun shown => ?_⟩
  rw [Acl.checkAny, Acl.checkAny, h]

theorem AnyAlike.of_alike (h : ∀ p ∈ ps, Alike who p a a') : AnyAlike who ps a a' :=
  .of_hasAny (hasAny_congr rfl fun p hp => (h p hp).has)

/-- To hold one of the permissions is to hold one, whichever it is. -/
theorem hasAny_of_has (hp : p ∈ ps) (h : a.has who p = true) : a.hasAny who ps = .ok true := by
  have hne : ps ≠ [] := List.ne_nil_of_mem hp
  have hany : ps.any (a.has who) = true := List.any_eq_true.2 ⟨p, hp, h⟩
  simp [hasAny, hne, hany]

theorem has_guarded_of_decides (hd : Hook.Decides hooks t who p b) :
    (guarded t hooks inner).has who p = (who.isSystem || b) := by
  rw [has, admits_guarded, Hook.consult_eq_some_iff.2 hd, Option.getD_some]

theorem has_guarded_of_neutral (hn : ∀ h ∈ hooks, h.Neutral t who p) :
    (guarded t hooks inner).has who p = inner.has who p := by
  rw [has, admits_guarded, Hook.consult_eq_none_iff.2 hn, Option.getD_none, has]

theorem Alike.of_consult
    (h : Hook.consult hooks' t who p = Hook.consult hooks t who p) :
    Alike who p (guarded t hooks inner) (guarded t hooks' inner) := by
  apply Alike.of_has
  rw [Acl.has, Acl.has, admits_guarded, admits_guarded, h]

/-- Neither the list behind the hooks nor later hooks change what the hooks decide. -/
theorem Alike.of_decides (hd : Hook.Decides hooks t who p b) (more : List Hook) (inner' : Acl) :
    Alike who p (guarded t hooks inner) (guarded t (hooks ++ more) inner') := by
  apply Alike.of_has
  rw [has_guarded_of_decides hd, has_guarded_of_decides (hd.append more)]

theorem AnyAlike.of_settles (hs : Hook.Settles hooks t who ps) (more : List Hook) (inner' : Acl) :
    AnyAlike who ps (guarded t hooks inner) (guarded t (hooks ++ more) inner') := by
  rcases hs with ⟨p, hp, hd⟩ | hall
  -- the other permissions may well be answered differently, but one is enough
  · apply AnyAlike.of_hasAny
    have hnow : (guarded t hooks inner).has who p = true := by
      rw [has_guarded_of_decides hd, Bool.or_true]
    have hlater : (guarded t (hooks ++ more) inner').has who p = true := by
      rw [has_guarded_of_decides (hd.append more), Bool.or_true]
    rw [hasAny_of_has hp hnow, hasAny_of_has hp hlater]
  · apply AnyAlike.of_alike
    intro p hp
    obtain ⟨b, hd⟩ := hall p hp
    exact .of_decides hd more inner'

/-- How hooks guard a list. -/
structure Guarding (t : Target) (hooks : List Hook) (inner : Acl) (who : Identity) : Prop where
  /-- Either the hooks decide about a request, or none of them has a say. -/
  decides_or_neutral : ∀ p, (∃ b, Hook.Decides hooks t who p b) ∨ ∀ h ∈ hooks, h.Neutral t who p
  system : who.isSystem = true → (guarded t hooks inner).Passes who
  decided : who.isSystem = false → ∀ p b, Hook.Decides hooks t who p b →
    (guarded t hooks inner).has who p = b
  undecided : who.isSystem = false → ∀ p, (∀ h ∈ hooks, h.Neutral t who p) →
    (guarded t hooks inner).has who p = inner.has who p
  edited : ∀ ps hooks', Hook.Edited t who ps hooks hooks' →
    (∀ p ∈ ps, Alike who p (guarded t hooks inner) (guarded t hooks' inner)) ∧
      AnyAlike who ps (guarded t hooks inner) (guarded t hooks' inner)
  hasCreate : ∀ container kind, (guarded t hooks inner).hasCreate who container kind =
    (who.isSystem || inner.hasCreate who container kind)
  checkCreate : ∀ container kind, (guarded t hooks inner).checkCreate who container kind =
    inner.checkCreate who container kind

theorem guarding (t : Target) (hooks : List Hook) (inner : Acl) (who : Identity) :
    Guarding t hooks inner who where
  decides_or_neutral := Hook.decides_or_neutral hooks t who
  system := passes_system _
  decided hs p b hd := by rw [has_guarded_of_decides hd, hs, Bool.false_or]
  undecided _ p := has_guarded_of_neutral
  edited ps hooks' he := by
    have halike : ∀ p ∈ ps, Alike who p (guarded t hooks inner) (guarded t hooks' inner) :=
      fun p hp => .of_consult (he.consult_eq hp)
    exact ⟨halike, .of_alike halike⟩
  hasCreate _ _ := rfl
  checkCreate container kind := by
    rw [checkCreate, checkCreate, hasCreate, ← Bool.or_assoc, Bool.or_self]

end Acl

namespace Controller

/-- What may happen to a controller. -/
inductive Change where
  | publish (s : Strategy)
  | addHook (h : Hook)

variable {k : Controller} {x : Option SecuredItem}

def change (k : Controller) : Change → Controller
  | .publish s => k.publish s
  | .addHook h => k.addHook h

def after (k : Controller) (cs : List Change) : Controller := cs.foldl change k

def published (cs : List Change) : List Strategy :=
  cs.filterMap fun
    | .publish s => some s
    | .addHook _ => none

def registered (cs : List Change) : List Hook :=
  cs.filterMap fun
    | .publish _ => none
    | .addHook h => some h

@[simp] theorem after_nil (k : Controller) : k.after [] = k := rfl
@[simp] theorem after_cons (k : Controller) (c : Change) (cs : List Change) :
    k.after (c :: cs) = (k.change c).after cs := rfl

/-- The strategy is the last one that was published, and hooks gather in the order of registration. -/
theorem after_eq (k : Controller) (cs : List Change) :
    k.after cs = ⟨(published cs).getLast?.getD k.strategy, k.hooks ++ registered cs⟩ := by
  induction cs generalizing k with
  | nil => simp [published, registered]
  | cons c cs ih =>
    rw [after_cons, ih]
    cases c with
    -- what is published first counts only if nothing is published later
    | publish s => simp [change, publish, published, registered, List.getLast?_cons]
    | addHook h => simp [change, addHook, published, registered]

theorem aclAt_after (k : Controller) (cs : List Change) (x : Option SecuredItem) :
    (k.after cs).aclAt x = .guarded (targetOf x) (k.hooks ++ registered cs)
      (((published cs).getLast?.getD k.strategy).aclAt x) := by
  rw [aclAt_eq, after_eq]

/-- How a controller and its hooks decide about `x` as time goes by. -/
structure HooksFirst (k : Controller) (x : Option SecuredItem) (who : Identity) : Prop where
  aclAt_after : ∀ cs, (k.after cs).aclAt x = .guarded (targetOf x) (k.hooks ++ registered cs)
    (((published cs).getLast?.getD k.strategy).aclAt x)
  /-- What the hooks decide now, they decide ever after. -/
  decided : ∀ cs p b, Hook.Decides k.hooks (targetOf x) who p b →
    Acl.Alike who p (k.aclAt x) ((k.after cs).aclAt x)
  settled : ∀ cs ps, Hook.Settles k.hooks (targetOf x) who ps →
    Acl.AnyAlike who ps (k.aclAt x) ((k.after cs).aclAt x)
  /-- A further hook makes a difference only where no earlier one has a say. -/
  addHook : ∀ h p, ¬ Acl.Alike who p (k.aclAt x) ((k.addHook h).aclAt x) →
    ∀ g ∈ k.hooks, g.Neutral (targetOf x) who p
  addHook_any : ∀ h ps, ¬ Acl.AnyAlike who ps (k.aclAt x) ((k.addHook h).aclAt x) →
    (∀ p ∈ ps, ¬ Hook.Decides k.hooks (targetOf x) who p true) ∧
      ∃ p ∈ ps, ∀ g ∈ k.hooks, g.Neutral (targetOf x) who p

theorem alike_after (cs : List Change) (hd : Hook.Decides k.hooks (targetOf x) who p b) :
    Acl.Alike who p (k.aclAt x) ((k.after cs).aclAt x) := by
  rw [aclAt_eq, aclAt_after]
  exact .of_decides hd _ _

theorem anyAlike_after (cs : List Change) (hs : Hook.Settles k.hooks (targetOf x) who ps) :
    Acl.AnyAlike who ps (k.aclAt x) ((k.after cs).aclAt x) := by
  rw [aclAt_eq, aclAt_after]
  exact .of_settles hs _ _

theorem hooksFirst (k : Controller) (x : Option SecuredItem) (who : Identity) :
    k.HooksFirst x who where
  aclAt_after cs := k.aclAt_after cs x
  decided cs p b := alike_after cs
  settled cs ps := anyAlike_after cs
  addHook h p hne := by
    refine (Hook.decides_or_neutral k.hooks (targetOf x) who p).resolve_left ?_
    rintro ⟨b, hd⟩
    exact hne (alike_after [.addHook h] hd)
  addHook_any h ps hne := Hook.neutral_of_not_settles (mt (anyAlike_after [.addHook h]) hne)

/-- Hooks decide first, in front of any list, and at any time in the life of a controller. -/
theorem hooks_decide_first :
    (∀ t hooks inner who, Acl.Guarding t hooks inner who) ∧
      ∀ (k : Controller) (x : Option SecuredItem) (who : Identity), k.HooksFirst x who :=
  ⟨Acl.guarding, hooksFirst⟩

end Controller

end AccessPolicy
