/-!
Identities that the authentication layer has verified, and the tokens under which a policy may
mention them: the principal first, then the groups in the order supplied, then everyone.
-/
namespace AccessPolicy

/-- A token that an access rule is written for. -/
inductive Sid where
  | principal (name : String)
  | group (name : String)
  | everyone
  deriving DecidableEq, Repr

namespace Sid

def anonymousName : String := "anonymous"
def everyoneName : String := "role_everyone"

def anonymous : Sid := principal anonymousName

/-- The token as a matrix spells it; principals and groups share one name space there. -/
def matrixName : Sid → String
  | principal name => name
  | group name => name
  | everyone => everyoneName

def display : Sid → String
  | principal name => "principal:" ++ name
  | group name => "group:" ++ name
  | everyone => "everyone"

end Sid

namespace Identity

inductive Kind where
  | user (name : String)
  | anonymous
  | system
  deriving DecidableEq, Repr

end Identity

structure Identity where
  kind : Identity.Kind
  groups : List String := []
  deriving DecidableEq, Repr

namespace Identity

/-- The name reported for the internal identity. A user of that name has none of its rights. -/
def systemName : String := "SYSTEM"

def user (name : String) (groups : List String) : Identity := ⟨.user name, groups⟩

def principal (who : Identity) : String :=
  match who.kind with
  | .user name => name
  | .anonymous => Sid.anonymousName
  | .system => systemName

def isSystem (who : Identity) : Bool := who.kind == .system
def isAnonymous (who : Identity) : Bool := who.kind == .anonymous

/-- The tokens of an identity, in the order in which they are resolved. -/
def sids (who : Identity) : List Sid :=
  .principal who.principal :: who.groups.map .group ++ [.everyone]

theorem mem_sids {who : Identity} {s : Sid} :
    s ∈ who.sids ↔
      s = .principal who.principal ∨ (∃ g ∈ who.groups, s = .group g) ∨ s = .everyone := by
  simp [sids, eq_comm]

end Identity

/-- An object that may carry a policy of its own is known by its full name; the root has none. -/
inductive Target where
  | root
  | object (name : String)
  deriving DecidableEq, Repr

namespace Target

def objectName? : Target → Option String
  | root => none
  | object name => some name

def display : Target → String
  | root => "(root)"
  | object name => name

def label (t : Target) : String := "AccessTarget(" ++ t.display ++ ")"

end Target

end AccessPolicy
