import AccessPolicy.Catalog.Builtin
import AccessPolicy.Property

/-!
Strategies: the root policy of a deployment. Under most of them an object is governed by the root
list; the project matrix lets the matrix of an object take its place.
-/
namespace AccessPolicy

inductive Strategy where
  /-- Everyone may do everything. -/
  | unsecured
  /-- Whoever logged in administers; the anonymous user reads. -/
  | fullControlOnceLoggedIn
  /-- Everyone reads; a single principal administers. -/
  | legacy (admin : String)
  /-- One matrix for the whole tree. -/
  | globalMatrix (m : Matrix)
  /-- A root matrix, and matrices of the objects that ask for it. -/
  | projectMatrix (m : Matrix)
  /-- A policy from outside, with one list for the whole tree. -/
  | custom (kind : String) (acl : Acl)

namespace Strategy

def kind : Strategy → String
  | unsecured => "unsecured"
  | fullControlOnceLoggedIn => "full_control_once_logged_in"
  | legacy _ => "legacy"
  | globalMatrix _ => "global_matrix"
  | projectMatrix _ => "project_matrix"
  | custom k _ => k

/-- The root matrix of the strategies that have one. -/
def matrix? : Strategy → Option Matrix
  | globalMatrix m => some m
  | projectMatrix m => some m
  | _ => none

def onceLoggedInEntries : List Entry :=
  [⟨.everyone, Builtin.administer.id, true⟩, ⟨.anonymous, Builtin.administer.id, false⟩,
    ⟨.anonymous, Builtin.genericRead.id, true⟩]

def legacyEntries (admin : String) : List Entry :=
  [⟨.everyone, Builtin.genericRead.id, true⟩, ⟨.principal admin, Builtin.administer.id, true⟩]

/-- The list for the root of the object tree. -/
def rootAcl : Strategy → Acl
  | unsecured => .custom (fun _ _ => true) (fun _ _ _ => true)
  | fullControlOnceLoggedIn => .sids (.entries onceLoggedInEntries)
  | legacy admin => .sids (.entries (legacyEntries admin))
  | globalMatrix m => .sids (.matrix m)
  | projectMatrix m => .sids (.matrix m)
  | custom _ acl => acl

/-- The list for an object. -/
def aclFor (s : Strategy) (i : SecuredItem) : Acl :=
  match s, i.property with
  | projectMatrix m, some p => if p.useProjectSecurity then p.acl (.matrix m) else s.rootAcl
  | _, _ => s.rootAcl

/-- The token names that the policy mentions, for administration screens. -/
def sids : Strategy → List String
  | legacy admin => [admin]
  | globalMatrix m => m.userSids
  | projectMatrix m => m.userSids
  | _ => []

end Strategy

end AccessPolicy
