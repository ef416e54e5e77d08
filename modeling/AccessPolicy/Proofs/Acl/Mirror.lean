import AccessPolicy.Acl.Basic

/-!
Lists that agree. How a list answers for several permissions at once, and how it explains a denial,
follows from its answer for each single one. So to compare two identities, or two lists, it is enough
to compare those answers and the way in which a denial is reported.
-/
namespace AccessPolicy

/-- A list as an identity meets it: what its denials may show, and to whom. -/
structure Acl.View where
  acl : Acl
  shown : Visibility
  who : Identity

/-- The error with its denial, if it is one, reported in another way. -/
def CheckError.mapDenial (f : Denial → Denial) : CheckError → CheckError
  | misuse e => misuse e
  | denied d => denied (f d)

namespace Acl

/-- Both views answer alike about the permissions `ps`, and where `v` denies, `w` reports the same
through `f`. -/
structure View.Mirrors (ps : List Permission) (f : Denial → Denial) (v w : View) : Prop where
  has : ∀ p ∈ ps, w.acl.has w.who p = v.acl.has v.who p
  hasAny : ∀ qs, qs ⊆ ps → w.acl.hasAny w.who qs = v.acl.hasAny v.who qs
  hasCreate : ∀ t kind, w.acl.hasCreate w.who t kind = v.acl.hasCreate v.who t kind
  check : ∀ p ∈ ps, w.acl.check w.shown w.who p = (v.acl.check v.shown v.who p).mapError f
  checkAny : ∀ qs, qs ⊆ ps →
    w.acl.checkAny w.shown w.who qs = (v.acl.checkAny v.shown v.who qs).mapError (.mapDenial f)
  checkCreate : ∀ t kind,
    w.acl.checkCreate w.who t kind = (v.acl.checkCreate v.who t kind).mapError f

variable {ps : List Permission} {f : Denial → Denial} {v w : View}

theorem hasAny_congr {a b : Acl} {who who' : Identity} (hs : who'.isSystem = who.isSystem)
    (h : ∀ p ∈ ps, b.has who' p = a.has who p) : b.hasAny who' ps = a.hasAny who ps := by
  have ha : ps.any (b.has who') = ps.any (a.has who) := by
    rw [Bool.eq_iff_iff, List.any_eq_true, List.any_eq_true]
    exact exists_congr fun p => and_congr_right fun hp => by rw [h p hp]
  rw [hasAny, hasAny, hs, ha]

/-- It is enough that the answers for each permission agree, and what is reported of it. -/
theorem View.Mirrors.of_has (hs : w.who.isSystem = v.who.isSystem)
    (hf : ∀ ds, Denial.of w.who ds = f (.of v.who ds))
    (hd : ∀ p ∈ ps, DeniedPermission.of w.shown p = .of v.shown p)
    (hc : ∀ t kind, w.acl.hasCreate w.who t kind = v.acl.hasCreate v.who t kind)
    (h : ∀ p ∈ ps, w.acl.has w.who p = v.acl.has v.who p) : View.Mirrors ps f v w where
  has := h
  hasAny qs hq := hasAny_congr hs fun p hp => h p (hq hp)
  hasCreate := hc
  check p hp := by
    rw [Acl.check, Acl.check, h p hp, hf, hd p hp]
    split <;> rfl
  checkAny qs hq := by
    have ha : w.acl.hasAny w.who qs = v.acl.hasAny v.who qs :=
      hasAny_congr hs fun p hp => h p (hq hp)
    have hm : qs.map (DeniedPermission.of w.shown) = qs.map (DeniedPermission.of v.shown) :=
      List.map_congr_left fun p hp => hd p (hq hp)
    rw [Acl.checkAny, Acl.checkAny, ha, hf, hm]
    cases v.acl.hasAny v.who qs with
    | error e => rfl
    | ok any => cases any <;> rfl
  checkCreate t kind := by
    rw [Acl.checkCreate, Acl.checkCreate, hs, hc, hf]
    split <;> rfl

/-- The identity passes every check of the list. -/
structure Passes (a : Acl) (who : Identity) : Prop where
  has : ∀ p, a.has who p = true
  hasAny : ∀ ps, ps ≠ [] → a.hasAny who ps = .ok true
  check : ∀ shown p, a.check shown who p = .ok ()
  checkAny : ∀ shown ps, ps ≠ [] → a.checkAny shown who ps = .ok ()
  checkCreate : ∀ t kind, a.checkCreate who t kind = .ok ()

theorem passes_system (a : Acl) {who : Identity} (h : who.isSystem = true) : a.Passes who where
  has := a.has_system h
  hasAny ps hp := by simp [hasAny, h, hp]
  check shown p := by simp [check, a.has_system h p]
  checkAny shown ps hp := by simp [checkAny, hasAny, h, hp]
  checkCreate t kind := by simp [checkCreate, h]

end Acl

end AccessPolicy
