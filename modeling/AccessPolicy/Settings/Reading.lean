import AccessPolicy.Data.Value
import AccessPolicy.Settings.Basic

/-!
Settings as untyped values. A field that is missing takes its default, a field of no meaning is left
out, and a field of the wrong type makes the whole unreadable.
-/
namespace AccessPolicy

open Value (Reading)

def OverrideRule.ofValue? (r : Reading) (v : Value) : Option OverrideRule := do
  let fs ← v.fields? r ["name", "permissions", "principals", "objects", "decision"]
  return {
    name := ← Value.field? fs "name" none (Value.text? r)
    permissions := ← Value.field? fs "permissions" none (Value.list? (Value.text? r))
    principals := ← Value.field? fs "principals" (some []) (Value.list? (Value.text? r))
    objects := ← Value.field? fs "objects" (some []) (Value.list? (Value.text? r))
    decision := ← Value.field? fs "decision" none (Value.choice? r Decision.all Decision.name) }

def Inheritance.ofValue? (r : Reading) (v : Value) : Option Inheritance :=
  v.choice? r Inheritance.all Inheritance.name

def ObjectSettings.ofValue? (r : Reading) (v : Value) : Option ObjectSettings := do
  let fs ← v.fields? r ["name", "use_project_security", "inheritance", "grants"]
  return {
    name := ← Value.field? fs "name" none (Value.text? r)
    useProjectSecurity := ←
      Value.field? fs "use_project_security" (some false) (Value.bool? r)
    inheritance := ← Value.field? fs "inheritance" (some .none) (Inheritance.ofValue? r)
    grants := ← Value.field? fs "grants" (some []) (Value.list? (Value.text? r)) }

def AuthorizationSettings.ofValue? (r : Reading) (v : Value) : Option AuthorizationSettings := do
  let fs ← v.fields? r ["strategy", "admin_sid", "grants", "migrate_legacy_read",
    "disabled_permissions", "overrides"]
  let d : AuthorizationSettings := {}
  return {
    strategy := ← Value.field? fs "strategy" (some d.strategy) (Value.text? r)
    adminSid := ← Value.field? fs "admin_sid" (some d.adminSid) (Value.text? r)
    grants := ← Value.field? fs "grants" (some d.grants) (Value.list? (Value.text? r))
    migrateLegacyRead := ←
      Value.field? fs "migrate_legacy_read" (some d.migrateLegacyRead) (Value.bool? r)
    disabledPermissions := ←
      Value.field? fs "disabled_permissions" (some d.disabledPermissions)
        (Value.list? (Value.text? r))
    overrides := ←
      Value.field? fs "overrides" (some d.overrides) (Value.list? (OverrideRule.ofValue? r)) }

def LoggingSettings.ofValue? (r : Reading) (v : Value) : Option LoggingSettings := do
  let fs ← v.fields? r ["level", "format"]
  let d : LoggingSettings := {}
  return {
    level := ← Value.field? fs "level" (some d.level) (Value.text? r)
    format := ←
      Value.field? fs "format" (some d.format) (Value.choice? r LogFormat.all LogFormat.name) }

def Settings.ofValue? (r : Reading) (v : Value) : Option Settings := do
  let fs ← v.fields? r ["authorization", "objects", "logging"]
  let d : Settings := {}
  return {
    authorization := ←
      Value.field? fs "authorization" (some d.authorization) (AuthorizationSettings.ofValue? r)
    objects := ←
      Value.field? fs "objects" (some d.objects) (Value.list? (ObjectSettings.ofValue? r))
    logging := ← Value.field? fs "logging" (some d.logging) (LoggingSettings.ofValue? r) }

end AccessPolicy
