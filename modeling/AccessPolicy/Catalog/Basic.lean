import AccessPolicy.Catalog.Permission
import AccessPolicy.Text.Cut
import AccessPolicy.Text.Keyed

/-!
The catalog of permissions, groups and scopes. It only grows: permissions stay in the order of
their registration, and the parent of a permission is always a permission registered before it.
Each permission is listed twice, among all and in the group of its owner; ids are looked up in the
groups. Whether a permission is shown to administrators is kept beside the first listing and has no
part in any decision.
-/
namespace AccessPolicy

inductive CatalogError where
  | invalidOwner (owner : String)
  | invalidName (name : String)
  | unknownParent (id parent : String)
  | duplicate (id : String)
  | duplicateScope (kind : String)
  | unknownPermission (id : String)
  deriving DecidableEq, Repr

def CatalogError.message : CatalogError → String
  | invalidOwner owner => "'" ++ owner ++ "' is not a valid permission owner"
  | invalidName name => "'" ++ name ++ "' is not a valid permission name"
  | unknownParent id parent =>
    "Permission '" ++ id ++ "' is implied by '" ++ parent ++ "', which is not registered"
  | duplicate id => "Permission '" ++ id ++ "' is already registered"
  | duplicateScope kind => "Scope '" ++ kind ++ "' is already registered"
  | unknownPermission id => "Unknown permission '" ++ id ++ "'"

/-- A registered permission and whether it is shown to administrators. -/
structure Registration where
  permission : Permission
  enabled : Bool
  deriving Repr

/-- The permissions of one owner, in the order of registration, under a title. -/
structure Group where
  owner : String
  title : String
  permissions : List Permission := []
  deriving Repr

namespace Group

/-- Until it is given another title, a group goes by its owner. -/
def ofOwner (owner : String) : Group := ⟨owner, owner, []⟩

def find? (g : Group) (name : String) : Option Permission :=
  g.permissions.find? fun p => p.name == name

def push (g : Group) (p : Permission) : Group := { g with permissions := g.permissions ++ [p] }

def retitle (g : Group) (title : String) : Group := { g with title }

end Group

structure Catalog where
  /-- Tells this catalog from every other one. -/
  serial : Nat
  entries : List Registration := []
  /-- In ascending order of the owners. -/
  groups : List Group := []
  scopes : List Scope := []
  deriving Repr

/-- A permission to be registered. -/
structure Definition where
  owner : String
  name : String
  description : Option String := none
  parent : Option Permission := none
  enabled : Bool := true
  scopes : List Scope := []
  deriving Repr

/-- An owner is any text that is not empty and has no colon. -/
def validOwner (owner : String) : Bool :=
  !owner.isEmpty && !owner.toList.contains ':'

def isNameStart (c : Char) : Bool := c.isAlpha || c == '_'
def isNamePart (c : Char) : Bool := c.isAlphanum || c == '_'

/-- A name is an ASCII identifier. -/
def validName (name : String) : Bool :=
  match name.toList with
  | [] => false
  | c :: r => isNameStart c && r.all isNamePart

namespace Catalog

/-- Every permission, in the order of registration. -/
def all (c : Catalog) : List Permission := c.entries.map (·.permission)

def group? (c : Catalog) (owner : String) : Option Group := Keyed.find? Group.owner owner c.groups

def find? (c : Catalog) (owner name : String) : Option Permission :=
  (c.group? owner).bind fun g => g.find? name

/-- Resolve a persistent id, which ends in the name after its last dot. -/
def lookup (c : Catalog) (id : String) : Option Permission :=
  (Text.cutAtLast '.' id).bind fun (owner, name) => c.find? owner name

/-- The registered permission that `p` is, if this catalog issued it. -/
def own? (c : Catalog) (p : Permission) : Option Permission :=
  (c.find? p.owner p.name).filter fun q => q.issuer == p.issuer

/-- Change the group of an owner, which is created first if there is none. -/
def alterGroup (c : Catalog) (owner : String) (change : Group → Group) : Catalog :=
  { c with groups :=
      Keyed.alter Group.owner owner (fun g => change (g.getD (.ofOwner owner))) c.groups }

/-- The permission that a definition stands for, under a parent that is registered here already. -/
def issue (c : Catalog) (d : Definition) (parent : Option Permission) : Permission :=
  let self : Capability := ⟨c.serial, d.owner, d.name, d.description, d.scopes⟩
  match parent with
  | none => .root self
  | some q => .implied self q

/-- List a permission at the end, among all and in the group of its owner. -/
def append (c : Catalog) (p : Permission) (enabled : Bool) : Catalog :=
  { c.alterGroup p.owner (·.push p) with entries := c.entries ++ [⟨p, enabled⟩] }

@[simp] theorem all_alterGroup (c : Catalog) (owner : String) (change : Group → Group) :
    (c.alterGroup owner change).all = c.all := rfl

@[simp] theorem all_append (c : Catalog) (p : Permission) (enabled : Bool) :
    (c.append p enabled).all = c.all ++ [p] := by
  simp [append, all]

/-- Open the group of the owner, and list the permission there unless its name is taken. -/
def enterUnder (c : Catalog) (d : Definition) (parent : Option Permission) :
    Catalog × Except CatalogError Permission :=
  let c := c.alterGroup d.owner fun g => g
  if (c.find? d.owner d.name).isSome then (c, .error (.duplicate (d.owner ++ "." ++ d.name)))
  else (c.append (c.issue d parent) d.enabled, .ok (c.issue d parent))

/-- Carry out a definition: the catalog afterwards, and the new permission or why there is none.
The parent, if any, has to be a permission of this very catalog. -/
def enter (c : Catalog) (d : Definition) : Catalog × Except CatalogError Permission :=
  if !validOwner d.owner then (c, .error (.invalidOwner d.owner))
  else if !validName d.name then (c, .error (.invalidName d.name))
  else
    match d.parent with
    | none => c.enterUnder d none
    | some q =>
      match c.own? q with
      | none => (c, .error (.unknownParent (d.owner ++ "." ++ d.name) q.id))
      | some parent => c.enterUnder d (some parent)

/-- Register a permission. -/
def define (c : Catalog) (d : Definition) : Except CatalogError (Permission × Catalog) :=
  match c.enter d with
  | (_, .error e) => .error e
  | (c', .ok p) => .ok (p, c')

/-- Create the group of an owner, or change its title. -/
def registerGroup (c : Catalog) (owner title : String) : Except CatalogError Catalog :=
  if !validOwner owner then .error (.invalidOwner owner)
  else .ok (c.alterGroup owner (·.retitle title))

def scope? (c : Catalog) (kind : String) : Option Scope :=
  c.scopes.find? fun s => s.kind == kind

def registerScope (c : Catalog) (kind : String) (containers : List Scope) :
    Except CatalogError (Scope × Catalog) :=
  if (c.scope? kind).isSome then .error (.duplicateScope kind)
  else
    let s := Scope.mk kind containers
    .ok (s, { c with scopes := c.scopes ++ [s] })

/-- Show or hide the permission called `id`. -/
def setEnabled (c : Catalog) (id : String) (enabled : Bool) : Except CatalogError Catalog :=
  match c.lookup id with
  | none => .error (.unknownPermission id)
  | some p =>
    let change (e : Registration) : Registration :=
      if e.permission.owner == p.owner && e.permission.name == p.name then { e with enabled }
      else e
    .ok { c with entries := c.entries.map change }

/-- Visibility has no part in what is registered. -/
theorem all_setEnabled {c c' : Catalog} {id : String} {enabled : Bool}
    (h : c.setEnabled id enabled = .ok c') : c'.all = c.all := by
  unfold setEnabled at h
  cases hp : c.lookup id with
  | none => simp [hp] at h
  | some p =>
    simp only [hp, Except.ok.injEq] at h
    subst h
    simp only [all, List.map_map]
    refine List.map_congr_left fun e _ => ?_
    simp only [Function.comp_apply]
    split <;> rfl

def isEnabled (c : Catalog) (p : Permission) : Bool :=
  c.entries.all fun e =>
    e.enabled || e.permission.owner != p.owner || e.permission.name != p.name

/-- Each permission is shown as the catalog that issued it says. -/
def visibility (catalogs : List Catalog) : Visibility := fun p =>
  catalogs.all fun c => c.serial != p.issuer || c.isEnabled p

end Catalog

end AccessPolicy
