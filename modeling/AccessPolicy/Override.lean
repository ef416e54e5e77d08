import AccessPolicy.Catalog.Basic
import AccessPolicy.Hook
import AccessPolicy.Settings.Basic
import AccessPolicy.Settings.Error

/-!
Override rules compiled against a catalog. A rule decides a request if it lists the permission by
its own id and its filters admit the principal and the object; otherwise it is silent. A filter on
objects never admits the root.
-/
namespace AccessPolicy

structure Override where
  name : String
  /-- The ids that the rule applies to, in ascending order. -/
  permissions : List String
  principals : Filter
  objects : Filter
  decision : Decision
  deriving DecidableEq, Repr

namespace OverrideRule

/-- The ids that the rule lists and the catalog knows. -/
def registered (r : OverrideRule) (c : Catalog) : List String :=
  r.permissions.filter fun id => (c.lookup id).isSome

/-- Compile a rule. Ids that the catalog does not know are left out, but one has to remain. -/
def compile (c : Catalog) (r : OverrideRule) : Except ConfigError Override :=
  if r.permissions.isEmpty then .error (.overrideEmpty r.name)
  else if (r.registered c).isEmpty then .error (.overrideUnregistered r.name r.permissions)
  else
    match Filter.ofSources r.principals with
    | .error bad => .error (.invalidPattern none bad)
    | .ok principals =>
      match Filter.ofSources r.objects with
      | .error bad => .error (.invalidPattern none bad)
      | .ok objects =>
        .ok ⟨r.name, Text.ascending (r.registered c), principals, objects, r.decision⟩

end OverrideRule

namespace Override

/-- The rule applies to this request. -/
def applies (o : Override) (t : Target) (who : Identity) (p : Permission) : Bool :=
  o.permissions.contains p.id
    && o.principals.admits (some who.principal)
    && o.objects.admits t.objectName?

def decide (o : Override) (t : Target) (who : Identity) (p : Permission) : Option Bool :=
  if o.applies t who p then some (o.decision == .allow) else none

def toHook (o : Override) : Hook :=
  { name := o.name, check := fun t who p => .ofOption (o.decide t who p) }

@[simp] theorem answer?_toHook (o : Override) (t : Target) (who : Identity) (p : Permission) :
    (o.toHook.check t who p).answer? = o.decide t who p := by
  simp [toHook]

end Override

end AccessPolicy
