import AccessPolicy.Proofs.Acl.Mirror
import AccessPolicy.Proofs.Catalog.Visibility
import AccessPolicy.Proofs.Acl.Report
import AccessPolicy.Proofs.Override

/-!
Catalogs that change what they show. Administrators show and hide permissions, and to configure a
controller hides what its settings list, also when the settings turn out to be wrong. None of this
has a part in a decision: lists answer as before, checks pass as before and controllers are built as
before. Only what a denial reports may be another permission of the same chain.
-/
namespace AccessPolicy

/-- A call that may change what a catalog shows. -/
inductive Adjustment where
  | setEnabled (id : String) (enabled : Bool)
  | configure (a : AuthorizationSettings) (t : StrategyTable)

namespace Catalog

variable {c c' : Catalog}

/-- The catalog after a call, whether it succeeds or fails. -/
def adjust (c : Catalog) : Adjustment → Catalog
  | .setEnabled id enabled => (c.setEnabled id enabled).toOption.getD c
  | .configure a t => (Controller.ofSettings a c t).1

def adjusted (c : Catalog) (adjustments : List Adjustment) : Catalog := adjustments.foldl adjust c

theorem WellFormed.sameListing_adjust (h : c.WellFormed) (x : Adjustment) :
    c.SameListing (c.adjust x) := by
  cases x with
  | setEnabled id enabled =>
    rw [adjust, getD_setEnabled h]
    exact sameListing_mark c id enabled
  | configure a t =>
    rw [adjust, Controller.ofSettings, Controller.hideListed_eq h]
    exact sameListing_hide c _

theorem WellFormed.sameListing_adjusted (h : c.WellFormed) (adjustments : List Adjustment) :
    c.SameListing (c.adjusted adjustments) := by
  induction adjustments generalizing c with
  | nil => exact .refl c
  | cons x adjustments ih =>
    have hx := h.sameListing_adjust x
    exact hx.trans (ih (hx.wellFormed h))

end Catalog

variable {c c' : Catalog}

theorem Catalog.SameListing.hasBuiltins_eq (h : c.SameListing c') :
    c'.hasBuiltins = c.hasBuiltins := by
  simp only [hasBuiltins, h.lookup]

theorem Matrix.ofLines_eq (h : c.SameListing c') (lines : List String) :
    ofLines c' lines = ofLines c lines := by
  have hline : ∀ line, parseLine c' line = parseLine c line := by
    intro line
    simp only [parseLine, h.lookup]
  simp only [ofLines, addLine, hline]

theorem Matrix.ofSettings_eq (h : c.SameListing c') (a : AuthorizationSettings) :
    ofSettings a c' = ofSettings a c := by
  simp only [ofSettings, ofLines_eq h, h.lookup]

/-- The builtin strategies are built from what is listed, whatever is shown of it. -/
theorem StrategyTable.create_eq (h : c.SameListing c') (a : AuthorizationSettings) :
    builtin.create a c' = builtin.create a c := by
  have hfactories : ∀ k f, (k, f) ∈ builtin.factories → f a c' = f a c := by
    intro k f hf
    simp only [builtin, List.mem_cons, Prod.mk.injEq, List.not_mem_nil, or_false] at hf
    rcases hf with ⟨-, rfl⟩ | ⟨-, rfl⟩ | ⟨-, rfl⟩ | ⟨-, rfl⟩ | ⟨-, rfl⟩
    · simp only [requireBuiltins, h.hasBuiltins_eq]
    · simp only [Matrix.ofSettings_eq h a]
    · simp only [requireBuiltins, h.hasBuiltins_eq]
    · simp only [Matrix.ofSettings_eq h a]
    · rfl
  unfold create
  cases hf : builtin.factories.lookup a.strategy with
  | none => rfl
  | some f =>
    obtain ⟨before, after, he, -⟩ := List.lookup_eq_some_iff.1 hf
    exact hfactories a.strategy f (by simp [he])

theorem Controller.compileRules_eq (h : c.SameListing c') (rules : List OverrideRule) :
    compileRules c' rules = compileRules c rules := by
  have hrule : OverrideRule.compile c' = OverrideRule.compile c := by
    funext r
    have hids : r.registered c' = r.registered c := by
      simp only [OverrideRule.registered, h.lookup]
    rw [OverrideRule.compile, OverrideRule.compile, hids]
  rw [compileRules_eq_mapM, compileRules_eq_mapM, hrule]

theorem Controller.build_eq (h : c.SameListing c') (a : AuthorizationSettings) :
    build a c' .builtin = build a c .builtin := by
  rw [build, build, StrategyTable.create_eq h a, compileRules_eq h]

/-- The denial without the permissions that it reports. -/
def Denial.unreported (d : Denial) : Denial := { d with permissions := [] }

/-- The views give the same answers and pass the same checks, and their denials differ in no more
than the permissions that they report. -/
structure Acl.View.SameDecisions (v w : Acl.View) : Prop where
  has : ∀ p, w.acl.has w.who p = v.acl.has v.who p
  hasAny : ∀ ps, w.acl.hasAny w.who ps = v.acl.hasAny v.who ps
  hasCreate : ∀ t kind, w.acl.hasCreate w.who t kind = v.acl.hasCreate v.who t kind
  check : ∀ p, (w.acl.check w.shown w.who p).mapError Denial.unreported =
    (v.acl.check v.shown v.who p).mapError Denial.unreported
  checkAny : ∀ ps, (w.acl.checkAny w.shown w.who ps).mapError (CheckError.mapDenial Denial.unreported) =
    (v.acl.checkAny v.shown v.who ps).mapError (CheckError.mapDenial Denial.unreported)
  checkCreate : ∀ t kind, w.acl.checkCreate w.who t kind = v.acl.checkCreate v.who t kind

/-- What is shown has no part in what a list decides. -/
theorem Acl.sameDecisions (a : Acl) (shown shown' : Visibility) (who : Identity) :
    View.SameDecisions ⟨a, shown, who⟩ ⟨a, shown', who⟩ where
  has _ := rfl
  hasAny _ := rfl
  hasCreate _ _ := rfl
  check p := by
    simp only [Acl.check]
    split <;> rfl
  checkAny ps := by
    simp only [Acl.checkAny]
    cases a.hasAny who ps with
    | error e => rfl
    | ok any => cases any <;> rfl
  checkCreate _ _ := rfl

/-- After any calls that show or hide permissions or configure controllers, the catalog lists what it
listed, every list decides as it did, and every settings make the controller that they made before;
to configure it hides the listed permissions and changes nothing else in the catalog. -/
theorem Controller.decisions_adjusted (hc : c.Reachable) (adjustments : List Adjustment) :
    (c.SameListing (c.adjusted adjustments) ∧
        ∀ id, (c.adjusted adjustments).lookup id = c.lookup id) ∧
      (∀ (a : Acl) (others : List Catalog) (who : Identity), Acl.View.SameDecisions
        ⟨a, Catalog.visibility (c :: others), who⟩
        ⟨a, Catalog.visibility (c.adjusted adjustments :: others), who⟩) ∧
      ∀ s : AuthorizationSettings, ofSettings s (c.adjusted adjustments) .builtin =
        ((c.adjusted adjustments).hide s.disabledPermissions, build s c .builtin) := by
  have hsame := hc.wellFormed.sameListing_adjusted adjustments
  refine ⟨⟨hsame, hsame.lookup⟩, fun a others who => a.sameDecisions _ _ who, ?_⟩
  intro s
  have hhide := hideListed_eq (hsame.wellFormed hc.wellFormed) s.disabledPermissions
  have hlisting := hsame.trans (Catalog.sameListing_hide _ s.disabledPermissions)
  rw [ofSettings, hhide, build_eq hlisting s]

/-- No controller comes of these settings. -/
def misconfigured : AuthorizationSettings :=
  { strategy := "none", disabledPermissions := ["core.Administer", "no.Such"] }

/-- They hide a permission all the same, and then the workspace is shown. -/
def rearranged : List Adjustment :=
  [.configure misconfigured .builtin, .setEnabled "job.Workspace" true]

/-- Whoever was not allowed to enter the workspace still is not, but is told so in another way. -/
theorem Controller.decisions_adjusted_workshop : Catalog.workshop.Reachable ∧
    (ofSettings misconfigured Catalog.workshop .builtin).2.toOption.isNone = true ∧
    DeniedPermission.of (Catalog.visibility [Catalog.workshop]) Catalog.workspace =
      ⟨"core.Administer", []⟩ ∧
    DeniedPermission.of (Catalog.visibility [Catalog.workshop.adjusted rearranged])
      Catalog.workspace = ⟨"job.Workspace", ["core.Administer"]⟩ ∧
    Acl.View.SameDecisions
      ⟨.closed, Catalog.visibility [Catalog.workshop], .user "ann" []⟩
      ⟨.closed, Catalog.visibility [Catalog.workshop.adjusted rearranged], .user "ann" []⟩ := by
  have hc := Catalog.reachable_workshop
  obtain ⟨-, hdecisions, -⟩ := decisions_adjusted hc rearranged
  exact ⟨hc, by decide, by decide, by decide, hdecisions .closed [] (.user "ann" [])⟩

end AccessPolicy
