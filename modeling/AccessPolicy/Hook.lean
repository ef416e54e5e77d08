import AccessPolicy.Catalog.Permission
import AccessPolicy.Identity

/-!
Override hooks: consulted before a strategy decides, the first definite answer wins. A hook that
breaks down while it is asked counts as silent for that request.
-/
namespace AccessPolicy

inductive Verdict where
  | allow
  | deny
  | silent
  | broken
  deriving DecidableEq, Repr

namespace Verdict

def ofBool (allowed : Bool) : Verdict := if allowed then allow else deny

def ofOption : Option Bool → Verdict
  | none => silent
  | some allowed => ofBool allowed

/-- The answer that a verdict amounts to. -/
def answer? : Verdict → Option Bool
  | allow => some true
  | deny => some false
  | silent => none
  | broken => none

@[simp] theorem answer?_ofOption (a : Option Bool) : (ofOption a).answer? = a := by
  rcases a with _ | _ | _ <;> rfl

end Verdict

structure Hook where
  name : String
  /-- A number by which the use of this hook can be told. -/
  tag : Nat := 0
  check : Target → Identity → Permission → Verdict

namespace Hook

/-- The first definite answer. -/
def consult (hooks : List Hook) (t : Target) (who : Identity) (p : Permission) : Option Bool :=
  hooks.findSome? fun h => (h.check t who p).answer?

@[simp] theorem consult_cons (h : Hook) (hooks : List Hook) (t : Target) (who : Identity)
    (p : Permission) :
    consult (h :: hooks) t who p = ((h.check t who p).answer?).or (consult hooks t who p) := by
  cases hc : (h.check t who p).answer? <;> simp [consult, hc]

theorem consult_append (hooks more : List Hook) (t : Target) (who : Identity) (p : Permission) :
    consult (hooks ++ more) t who p = (consult hooks t who p).or (consult more t who p) := by
  simp [consult, List.findSome?_append]

/-- The hooks that run until one of them answers. -/
def asked (t : Target) (who : Identity) (p : Permission) : List Hook → List Hook
  | [] => []
  | h :: hs => if (h.check t who p).answer?.isSome then [h] else h :: asked t who p hs

end Hook

end AccessPolicy
