/-!
Scopes: the kinds of object that a permission applies to. A scope carries the scopes that contain
it, and containment is the reflexive and transitive reading of that graph.
-/
namespace AccessPolicy

inductive Scope where
  | mk (kind : String) (containers : List Scope)
  deriving Repr

namespace Scope

def kind : Scope → String
  | mk k _ => k

/-- The scopes that this one declares as its direct containers. -/
def containers : Scope → List Scope
  | mk _ cs => cs

@[simp] theorem kind_mk (k : String) (cs : List Scope) : (mk k cs).kind = k := rfl
@[simp] theorem containers_mk (k : String) (cs : List Scope) : (mk k cs).containers = cs := rfl

mutual

/-- The scope is of kind `outer`, or one of its containers lies within `outer`. -/
def isWithin (outer : String) : Scope → Bool
  | mk k cs => k == outer || anyWithin outer cs

def anyWithin (outer : String) : List Scope → Bool
  | [] => false
  | c :: cs => c.isWithin outer || anyWithin outer cs

end

theorem anyWithin_eq_any (outer : String) (cs : List Scope) :
    anyWithin outer cs = cs.any (isWithin outer) := by
  induction cs with
  | nil => rfl
  | cons c cs ih => simp [anyWithin, ih]

theorem isWithin_eq (outer : String) (s : Scope) :
    s.isWithin outer = (s.kind == outer || s.containers.any (isWithin outer)) := by
  cases s with
  | mk k cs => simp [isWithin, anyWithin_eq_any]

theorem isWithin_self (s : Scope) : s.isWithin s.kind = true := by
  simp [isWithin_eq]

end Scope

end AccessPolicy
