/-!
The settings of a deployment: the root policy with its override rules, the objects that carry a
matrix of their own, and logging. Every part that may be left out has a default.
-/
namespace AccessPolicy

/-- The answer that an override rule forces. -/
inductive Decision where
  | allow
  | deny
  deriving DecidableEq, Repr

namespace Decision

def all : List Decision := [allow, deny]

def name : Decision → String
  | allow => "allow"
  | deny => "deny"

end Decision

/-- How the matrix of an object combines with the root matrix. -/
inductive Inheritance where
  /-- The matrix of the object decides alone. -/
  | none
  /-- Tokens that it is silent about fall back to the root matrix. -/
  | global
  deriving DecidableEq, Repr

namespace Inheritance

def all : List Inheritance := [.none, .global]

def name : Inheritance → String
  | .none => "none"
  | .global => "global"

end Inheritance

inductive LogFormat where
  | pretty
  | json
  deriving DecidableEq, Repr

namespace LogFormat

def all : List LogFormat := [pretty, json]

def name : LogFormat → String
  | pretty => "pretty"
  | json => "json"

end LogFormat

/-- A forced decision for matching principals, permissions and objects. -/
structure OverrideRule where
  name : String
  permissions : List String
  /-- Patterns for the principal; without any, every principal matches. -/
  principals : List String := []
  /-- Patterns for the full name of the object; without any, every target matches. -/
  objects : List String := []
  decision : Decision
  deriving DecidableEq, Repr

structure ObjectSettings where
  name : String
  /-- Whether the matrix of the object replaces the root policy. -/
  useProjectSecurity : Bool := false
  inheritance : Inheritance := .none
  grants : List String := []
  deriving DecidableEq, Repr

structure AuthorizationSettings where
  strategy : String := "global_matrix"
  /-- The principal that administers under the legacy strategy. -/
  adminSid : String := "admin"
  grants : List String := []
  migrateLegacyRead : Bool := false
  disabledPermissions : List String := []
  overrides : List OverrideRule := []
  deriving DecidableEq, Repr

structure LoggingSettings where
  level : String := "info"
  format : LogFormat := .pretty
  deriving DecidableEq, Repr

structure Settings where
  authorization : AuthorizationSettings := {}
  objects : List ObjectSettings := []
  logging : LoggingSettings := {}
  deriving DecidableEq, Repr

end AccessPolicy
