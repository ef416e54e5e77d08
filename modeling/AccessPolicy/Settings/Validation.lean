import AccessPolicy.Settings.Basic
import AccessPolicy.Settings.Error
import AccessPolicy.Text.Blank

/-!
Validation of settings. The checks run in a fixed order and the first that fails is reported. Grant
lines are not checked: one that the catalog does not know is left out when its matrix is built.
-/
namespace AccessPolicy

namespace Settings

/-- All patterns of one field compile. -/
def validatePatterns (field : String) (sources : List String) : Except ConfigError Unit :=
  match Filter.ofSources sources with
  | .ok _ => .ok ()
  | .error bad => .error (.invalidPattern (some field) bad)

def validateRule (index : Nat) (r : OverrideRule) : Except ConfigError Unit :=
  if Text.allBlank r.name then .error (.overrideNameMissing index)
  else do
    validatePatterns ("authorization.overrides." ++ r.name ++ ".principals") r.principals
    validatePatterns ("authorization.overrides." ++ r.name ++ ".objects") r.objects

/-- Check the rules in order, counting from `index`. -/
def validateRules (index : Nat) : List OverrideRule → Except ConfigError Unit
  | [] => .ok ()
  | r :: rs => do
    validateRule index r
    validateRules (index + 1) rs

/-- Every object has a name that none of those before it has. -/
def validateObjects (seen : List String) : List ObjectSettings → Except ConfigError Unit
  | [] => .ok ()
  | o :: os =>
    if Text.allBlank o.name then .error .objectNameMissing
    else if seen.contains o.name then .error (.objectRepeated o.name)
    else validateObjects (o.name :: seen) os

def validate (s : Settings) : Except ConfigError Unit :=
  if Text.allBlank s.authorization.strategy then .error .strategyMissing
  else if Text.allBlank s.authorization.adminSid then .error .adminSidBlank
  else do
    validateRules 0 s.authorization.overrides
    validateObjects [] s.objects

end Settings

end AccessPolicy
