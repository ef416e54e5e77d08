import AccessPolicy.Acl.Basic
import AccessPolicy.Settings.Basic

/-!
Objects that may carry a matrix of their own, and the property that holds it. A property is a value:
to edit one is to put a changed copy in its place.
-/
namespace AccessPolicy

structure MatrixProperty where
  matrix : Matrix := .empty
  /-- Whether the matrix replaces the root policy for the object. -/
  useProjectSecurity : Bool := false
  inheritance : Inheritance := .none
  deriving DecidableEq, Repr

namespace MatrixProperty

/-- Build from persisted lines, leaving out those that state no grant. -/
def ofLines (c : Catalog) (lines : List String) (useProjectSecurity : Bool)
    (inheritance : Inheritance) : MatrixProperty :=
  ⟨.ofLines c lines, useProjectSecurity, inheritance⟩

def ofSettings (c : Catalog) (o : ObjectSettings) : MatrixProperty :=
  ofLines c o.grants o.useProjectSecurity o.inheritance

/-- The persisted form for the object called `name`. -/
def toSettings (p : MatrixProperty) (name : String) : ObjectSettings :=
  ⟨name, p.useProjectSecurity, p.inheritance, p.matrix.toLines⟩

/-- The oracle of the object, where `root` is that of the root matrix. -/
def oracle (p : MatrixProperty) (root : Oracle) : Oracle :=
  match p.inheritance with
  | .none => .property p.matrix
  | .global => .inheriting (.property p.matrix) root

def acl (p : MatrixProperty) (root : Oracle) : Acl := .sids (p.oracle root)

/-- A change to a property. -/
inductive Edit where
  | grant (p : Permission) (sid : String)
  | useProjectSecurity (on : Bool)
  | inheritance (mode : Inheritance)

def edit (p : MatrixProperty) : Edit → MatrixProperty
  | .grant q sid => { p with matrix := p.matrix.grant q sid }
  | .useProjectSecurity on => { p with useProjectSecurity := on }
  | .inheritance mode => { p with inheritance := mode }

end MatrixProperty

structure SecuredItem where
  name : String
  property : Option MatrixProperty := none
  deriving DecidableEq, Repr

namespace SecuredItem

def target (i : SecuredItem) : Target := .object i.name

def ofSettings (c : Catalog) (o : ObjectSettings) : SecuredItem :=
  ⟨o.name, some (.ofSettings c o)⟩

/-- Carry out edits on the property, starting from an empty one if there is none. -/
def edit (i : SecuredItem) (edits : List MatrixProperty.Edit) : SecuredItem :=
  { i with property := some (edits.foldl .edit (i.property.getD {})) }

end SecuredItem

end AccessPolicy
