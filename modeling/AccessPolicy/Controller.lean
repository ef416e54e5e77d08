import AccessPolicy.Override
import AccessPolicy.Strategy.Table

/-!
The controller: the active strategy behind the override hooks. Lists are taken as of now; a list
that was taken earlier keeps the strategy and the hooks that it was taken with.
-/
namespace AccessPolicy

structure Controller where
  strategy : Strategy
  hooks : List Hook := []

namespace Controller

def publish (k : Controller) (s : Strategy) : Controller := { k with strategy := s }

/-- Hooks run in the order of their registration. -/
def addHook (k : Controller) (h : Hook) : Controller := { k with hooks := k.hooks ++ [h] }

/-- The list for the root of the tree, or for an object. -/
def aclAt (k : Controller) : Option SecuredItem → Acl
  | none => .guarded .root k.hooks k.strategy.rootAcl
  | some i => .guarded i.target k.hooks (k.strategy.aclFor i)

/-- The target that the list for the root or for an object is about. -/
def targetOf : Option SecuredItem → Target
  | none => .root
  | some i => i.target

/-- Compile every rule; the first that fails is reported. -/
def compileRules (c : Catalog) : List OverrideRule → Except ConfigError (List Override)
  | [] => .ok []
  | r :: rs =>
    match r.compile c with
    | .error e => .error e
    | .ok o =>
      match compileRules c rs with
      | .error e => .error e
      | .ok os => .ok (o :: os)

/-- Build the strategy and then the hooks of a section. -/
def build (a : AuthorizationSettings) (c : Catalog) (t : StrategyTable) :
    Except ConfigError Controller :=
  match t.create a c with
  | .error e => .error e
  | .ok s =>
    match compileRules c a.overrides with
    | .error e => .error e
    | .ok os => .ok ⟨s, os.map Override.toHook⟩

/-- Hide the listed permissions; ids that are not registered are left out. -/
def hideListed (c : Catalog) (ids : List String) : Catalog :=
  ids.foldl (fun c id => match c.setEnabled id false with
    | .ok c' => c'
    | .error _ => c) c

/-- Hide the permissions that a section lists, and build its controller. They stay hidden if the
rest of the section turns out to be wrong. -/
def ofSettings (a : AuthorizationSettings) (c : Catalog) (t : StrategyTable) :
    Catalog × Except ConfigError Controller :=
  let c' := hideListed c a.disabledPermissions
  (c', build a c' t)

end Controller

end AccessPolicy
