import AccessPolicy.Pattern.Filter

/-!
What can be wrong with a configuration, by cause.
-/
namespace AccessPolicy

inductive ConfigError where
  /-- No file has the path that was asked for. -/
  | fileNotFound (path : String)
  /-- The sources are not well formed, or a value has the wrong type. -/
  | malformed
  | strategyMissing
  | overrideNameMissing (index : Nat)
  | objectNameMissing
  | adminSidBlank
  | objectRepeated (name : String)
  | objectUnknown (name : String)
  | overrideEmpty (name : String)
  | overrideUnregistered (name : String) (permissions : List String)
  | strategyTaken (name : String)
  | builtinsMissing
  | strategyUnknown (name : String)
  /-- A pattern is refused; `field` is where it stands, if it stands in a configuration. -/
  | invalidPattern (field : Option String) (bad : BadPattern)
  deriving DecidableEq, Repr

namespace ConfigError

/-- The kinds under which causes are reported. -/
inductive Category where
  | load
  | missing
  | invalid
  | unknownStrategy
  | invalidPattern
  deriving DecidableEq, Repr

def category : ConfigError → Category
  | fileNotFound _ | malformed => .load
  | strategyMissing | overrideNameMissing _ | objectNameMissing => .missing
  | adminSidBlank | objectRepeated _ | objectUnknown _ | overrideEmpty _ | overrideUnregistered _ _
  | strategyTaken _ | builtinsMissing => .invalid
  | strategyUnknown _ => .unknownStrategy
  | invalidPattern _ _ => .invalidPattern

/-- The cause, without the words that stand for its category. -/
def detail : ConfigError → String
  | fileNotFound path => "Configuration file not found: " ++ path
  | malformed => ""
  | strategyMissing => "authorization.strategy"
  | overrideNameMissing index => "authorization.overrides[" ++ index.repr ++ "].name"
  | objectNameMissing => "objects.name"
  | adminSidBlank => "authorization.admin_sid must not be empty"
  | objectRepeated name => "object '" ++ name ++ "' is configured more than once"
  | objectUnknown name => "object '" ++ name ++ "' is not configured"
  | overrideEmpty name => "override '" ++ name ++ "' must list at least one permission"
  | overrideUnregistered name ids =>
    "override '" ++ name ++ "' names no registered permission: " ++ ", ".intercalate ids
  | strategyTaken name => "authorization strategy '" ++ name ++ "' is already registered"
  | builtinsMissing => "builtin permissions are not registered"
  | strategyUnknown name => "'" ++ name ++ "'"
  | invalidPattern field bad =>
    "'" ++ bad.source ++ "': " ++ (match field with
      | none => ""
      | some f => "in " ++ f ++ ": ") ++ bad.fault.message

def Category.words : Category → String
  | load => "Failed to load configuration: "
  | missing => "Missing required configuration: "
  | invalid => "Invalid configuration: "
  | unknownStrategy => "Unknown authorization strategy "
  | invalidPattern => "Invalid regex pattern "

def message (e : ConfigError) : String := e.category.words ++ e.detail

end ConfigError

end AccessPolicy
