import AccessPolicy.Settings.Basic
import AccessPolicy.Toml.Writer

/-!
Settings written as a file. Every field is written, and a blank line stands before each header but
a first one.
-/
namespace AccessPolicy

open Toml

def OverrideRule.toText (r : OverrideRule) : String :=
  elementHeader "authorization.overrides"
    ++ line "name" (quote r.name)
    ++ line "permissions" (writeList r.permissions)
    ++ line "principals" (writeList r.principals)
    ++ line "objects" (writeList r.objects)
    ++ line "decision" (quote r.decision.name)

def ObjectSettings.toText (o : ObjectSettings) : String :=
  elementHeader "objects"
    ++ line "name" (quote o.name)
    ++ line "use_project_security" (Value.boolText o.useProjectSecurity)
    ++ line "inheritance" (quote o.inheritance.name)
    ++ line "grants" (writeList o.grants)

/-- The section without its rules; that there are none is said in it. -/
def AuthorizationSettings.toText (a : AuthorizationSettings) : String :=
  header "authorization"
    ++ line "strategy" (quote a.strategy)
    ++ line "admin_sid" (quote a.adminSid)
    ++ line "grants" (writeList a.grants)
    ++ line "migrate_legacy_read" (Value.boolText a.migrateLegacyRead)
    ++ line "disabled_permissions" (writeList a.disabledPermissions)
    ++ if a.overrides.isEmpty then line "overrides" "[]" else ""

def LoggingSettings.toText (l : LoggingSettings) : String :=
  header "logging"
    ++ line "level" (quote l.level)
    ++ line "format" (quote l.format.name)

namespace Settings

/-- The blocks of a file, between which blank lines stand. -/
def blocks (s : Settings) : List String :=
  (if s.objects.isEmpty then [line "objects" "[]"] else [])
    ++ [s.authorization.toText]
    ++ s.authorization.overrides.map OverrideRule.toText
    ++ s.objects.map ObjectSettings.toText
    ++ [s.logging.toText]

def toText (s : Settings) : String := "\n".intercalate s.blocks

end Settings

end AccessPolicy
