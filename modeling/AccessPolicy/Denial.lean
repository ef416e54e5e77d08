import AccessPolicy.Catalog.Permission
import AccessPolicy.Identity

/-!
Denials: what a refused identity is told. A permission hidden from administrators is reported as
its nearest shown ancestor, together with the broader permissions that would also have sufficed.
-/
namespace AccessPolicy

structure DeniedPermission where
  id : String
  /-- The ids of the proper ancestors, nearest first. -/
  impliedBy : List String
  deriving DecidableEq, Repr

/-- The way a refused permission is reported. -/
def DeniedPermission.of (shown : Visibility) (p : Permission) : DeniedPermission :=
  let reported := p.nearestShown shown
  ⟨reported.id, reported.ancestors.map (·.id)⟩

structure Denial where
  principal : String
  groups : List String
  permissions : List DeniedPermission
  /-- The identity never logged in, so logging in may be enough. -/
  anonymous : Bool
  deriving DecidableEq, Repr

namespace Denial

def of (who : Identity) (permissions : List DeniedPermission) : Denial :=
  ⟨who.principal, who.groups, permissions, who.isAnonymous⟩

/-- One report per id, in the order of first appearance. -/
def distinct (ps : List DeniedPermission) : List DeniedPermission :=
  ps.foldl (fun acc p => if acc.any (·.id == p.id) then acc else acc ++ [p]) []

def message (d : Denial) : String :=
  d.principal ++ " is missing the " ++ ", ".intercalate (d.permissions.map (·.id)) ++ " permission"

/-- Diagnostic headers. Those on the permission are sent only if there is exactly one. -/
def headers (d : Denial) : List (String × String) :=
  ("X-You-Are-Authenticated-As", d.principal) ::
    d.groups.map (fun g => ("X-You-Are-In-Group", g)) ++
    match d.permissions with
    | [p] =>
      ("X-Required-Permission", p.id) ::
        p.impliedBy.map fun q => ("X-Permission-Implied-By", q)
    | _ => []

/-- The lines of the textual report. -/
def reportLines (d : Denial) : List String :=
  [d.message]
    ++ (if d.anonymous then ["  not logged in"] else [])
    ++ [if d.groups.isEmpty then "  groups: (none)"
        else "  groups: " ++ ", ".intercalate d.groups]
    ++ d.permissions.flatMap fun p =>
        ("  required: " ++ p.id) :: p.impliedBy.map fun q => "    implied by: " ++ q

def report (d : Denial) : String := String.join (d.reportLines.map (· ++ "\n"))

end Denial

end AccessPolicy
