import AccessPolicy.Catalog.Basic

/-!
Declarations: registrations that name their parent and their scopes, as a module writes them down
before any catalog exists. Installing a list of them stops at the first that fails.
-/
namespace AccessPolicy

inductive Declaration where
  | permission (owner name : String) (description parent : Option String) (enabled : Bool)
      (scopes : List String)
  | group (owner title : String)
  | scope (kind : String) (containers : List String)
  | visibility (id : String) (enabled : Bool)
  deriving DecidableEq, Repr

namespace Catalog

/-- The registered scopes among `kinds`. -/
def scopesOf (c : Catalog) (kinds : List String) : List Scope := kinds.filterMap c.scope?

def declare (c : Catalog) : Declaration → Except CatalogError Catalog
  | .permission owner name description parent enabled scopes =>
    let define (q : Option Permission) :=
      (c.define ⟨owner, name, description, q, enabled, c.scopesOf scopes⟩).map (·.2)
    match parent with
    | none => define none
    | some id =>
      match c.lookup id with
      | none => .error (.unknownPermission id)
      | some q => define (some q)
  | .group owner title => c.registerGroup owner title
  | .scope kind containers => (c.registerScope kind (c.scopesOf containers)).map (·.2)
  | .visibility id enabled => c.setEnabled id enabled

/-- Carry out declarations in order. What precedes a failing one stays registered. -/
def install (c : Catalog) : List Declaration → Catalog × Option CatalogError
  | [] => (c, none)
  | d :: ds =>
    match c.declare d with
    | .error e => (c, some e)
    | .ok c' => c'.install ds

@[simp] theorem install_nil (c : Catalog) : c.install [] = (c, none) := rfl

end Catalog

end AccessPolicy
