import AccessPolicy.Settings.Error
import AccessPolicy.Strategy.Basic

/-!
The table of strategies: under each name that a configuration may give, how its strategy is built.
-/
namespace AccessPolicy

namespace Matrix

/-- The root matrix that a configuration states, with its read grants migrated if it asks for it. -/
def ofSettings (a : AuthorizationSettings) (c : Catalog) : Matrix :=
  let m := ofLines c a.grants
  if a.migrateLegacyRead then
    match c.lookup Builtin.read.id, c.lookup Builtin.itemRead.id with
    | some read, some itemRead => m.migrateRead read itemRead
    | _, _ => m
  else m

end Matrix

/-- How a strategy is built from its section of a configuration. -/
abbrev StrategyFactory := AuthorizationSettings → Catalog → Except ConfigError Strategy

structure StrategyTable where
  factories : List (String × StrategyFactory) := []

namespace StrategyTable

/-- Build `s` once the builtin permissions are known to be registered. -/
def requireBuiltins (c : Catalog) (s : Strategy) : Except ConfigError Strategy :=
  if c.hasBuiltins then .ok s else .error .builtinsMissing

/-- The five builtin strategies. -/
def builtin : StrategyTable where
  factories :=
    [("full_control_once_logged_in", fun _ c => requireBuiltins c .fullControlOnceLoggedIn),
      ("global_matrix", fun a c => .ok (.globalMatrix (.ofSettings a c))),
      ("legacy", fun a c => requireBuiltins c (.legacy a.adminSid)),
      ("project_matrix", fun a c => .ok (.projectMatrix (.ofSettings a c))),
      ("unsecured", fun _ _ => .ok .unsecured)]

/-- The registered names in ascending order. -/
def names (t : StrategyTable) : List String := Text.ascending (t.factories.map (·.1))

/-- Add a strategy under a name that is free. -/
def register (t : StrategyTable) (name : String) (f : StrategyFactory) :
    Except ConfigError StrategyTable :=
  if (t.factories.lookup name).isSome then .error (.strategyTaken name)
  else .ok ⟨t.factories ++ [(name, f)]⟩

/-- Build the strategy that the section names. -/
def create (t : StrategyTable) (a : AuthorizationSettings) (c : Catalog) :
    Except ConfigError Strategy :=
  match t.factories.lookup a.strategy with
  | none => .error (.strategyUnknown a.strategy)
  | some f => f a c

end StrategyTable

end AccessPolicy
