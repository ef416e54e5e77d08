import AccessPolicy.Denial
import AccessPolicy.Hook
import AccessPolicy.Oracle

/-!
Access control lists. A list answers one question, whether an identity holds a permission; any-of
checks, checks that explain a denial and the narrower question who may create what follow from it.
The system identity holds every permission, and what nothing allows is denied.
-/
namespace AccessPolicy

inductive Acl where
  /-- Admits nobody but the system identity. -/
  | closed
  /-- Resolves through the tokens of the identity. -/
  | sids (oracle : Oracle)
  /-- Resolves through entries, and asks `parent` if no token is mentioned. -/
  | entries (es : List Entry) (parent : Acl)
  /-- A list from outside: who holds what, and who may create an item of which kind inside what. -/
  | custom (holds : Identity → Permission → Bool) (creates : Identity → Target → String → Bool)
  /-- Consults the hooks for the target before the list itself. -/
  | guarded (target : Target) (hooks : List Hook) (inner : Acl)

namespace Acl

/-- The answer for an identity other than the system. -/
def admits : Acl → Identity → Permission → Bool
  | closed, _, _ => false
  | sids o, who, p => (o.resolve who p).getD false
  | entries es parent, who, p => ((Oracle.entries es).resolve who p).getD (parent.admits who p)
  | custom holds _, who, p => holds who p
  | guarded t hooks inner, who, p => (Hook.consult hooks t who p).getD (inner.admits who p)

/-- Whether the identity holds the permission. -/
def has (a : Acl) (who : Identity) (p : Permission) : Bool :=
  who.isSystem || a.admits who p

/-- Every list of entries falls back to the next one. -/
def ofStack (stack : List (List Entry)) : Acl := stack.foldr entries closed

@[simp] theorem has_system (a : Acl) {who : Identity} (h : who.isSystem = true) (p : Permission) :
    a.has who p = true := by
  simp [has, h]

theorem has_of_not_system (a : Acl) {who : Identity} (h : who.isSystem = false)
    (p : Permission) : a.has who p = a.admits who p := by
  simp [has, h]

@[simp] theorem admits_closed (who : Identity) (p : Permission) : closed.admits who p = false := rfl
@[simp] theorem admits_sids (o : Oracle) (who : Identity) (p : Permission) :
    (sids o).admits who p = (o.resolve who p).getD false := rfl
@[simp] theorem admits_entries (es : List Entry) (parent : Acl) (who : Identity) (p : Permission) :
    (entries es parent).admits who p =
      ((Oracle.entries es).resolve who p).getD (parent.admits who p) := rfl
@[simp] theorem admits_guarded (t : Target) (hooks : List Hook) (inner : Acl) (who : Identity)
    (p : Permission) :
    (guarded t hooks inner).admits who p =
      (Hook.consult hooks t who p).getD (inner.admits who p) := rfl

/-- Whether the identity may create an item of a kind inside a container. This narrows the create
permission and does not replace it, so it is granted unless a list says otherwise. -/
def hasCreate : Acl → Identity → Target → String → Bool
  | custom _ creates, who, container, kind => creates who container kind
  | guarded _ _ inner, who, container, kind => who.isSystem || inner.hasCreate who container kind
  | closed, _, _, _ => true
  | sids _, _, _, _ => true
  | entries _ _, _, _, _ => true

end Acl

/-- A request that no list can answer. -/
inductive AclError where
  | noPermissions
  deriving DecidableEq, Repr

def AclError.message : AclError → String
  | noPermissions => "At least one permission must be provided"

/-- Why an any-of check does not pass. -/
inductive CheckError where
  | misuse (e : AclError)
  | denied (d : Denial)
  deriving DecidableEq, Repr

namespace Acl

/-- Pass, or explain the denial. -/
def check (shown : Visibility) (a : Acl) (who : Identity) (p : Permission) : Except Denial Unit :=
  if a.has who p then .ok () else .error (.of who [.of shown p])

/-- Whether the identity holds one of the permissions at least. -/
def hasAny (a : Acl) (who : Identity) (ps : List Permission) : Except AclError Bool :=
  if ps.isEmpty then .error .noPermissions
  else .ok (who.isSystem || ps.any (a.has who))

/-- Pass, or report every alternative. -/
def checkAny (shown : Visibility) (a : Acl) (who : Identity) (ps : List Permission) :
    Except CheckError Unit :=
  match a.hasAny who ps with
  | .error e => .error (.misuse e)
  | .ok true => .ok ()
  | .ok false =>
    .error (.denied (.of who (Denial.distinct (ps.map (DeniedPermission.of shown)))))

/-- The id under which a refused creation is reported. -/
def createId (kind : String) : String := "hudson.model.Item.Create/" ++ kind

/-- As `hasCreate`, with the system identity exempt and the denial explained. -/
def checkCreate (a : Acl) (who : Identity) (container : Target) (kind : String) :
    Except Denial Unit :=
  if who.isSystem || a.hasCreate who container kind then .ok ()
  else .error (.of who [⟨createId kind, []⟩])

end Acl

end AccessPolicy
