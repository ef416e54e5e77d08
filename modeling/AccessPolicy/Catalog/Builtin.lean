import AccessPolicy.Catalog.Declaration

/-!
The permissions and scopes that every deployment registers first. Their ids are part of the
persisted form of a policy, so they never change.
-/
namespace AccessPolicy

inductive Builtin where
  | administer
  | fullControl
  | genericRead
  | genericWrite
  | genericCreate
  | genericUpdate
  | genericDelete
  | genericConfigure
  | read
  | itemCreate
  | itemDelete
  | itemConfigure
  | itemRead
  | itemBuild
  | itemWorkspace
  | viewCreate
  | viewDelete
  | viewConfigure
  | viewRead
  deriving DecidableEq, Repr

inductive BuiltinScope where
  | root
  | itemGroup
  | item
  | run
  | computer
  deriving DecidableEq, Repr

namespace BuiltinScope

/-- In the order of registration. -/
def all : List BuiltinScope := [root, itemGroup, item, run, computer]

def kind : BuiltinScope → String
  | root => "jenkins"
  | itemGroup => "item_group"
  | item => "item"
  | run => "run"
  | computer => "computer"

def container? : BuiltinScope → Option BuiltinScope
  | root => none
  | itemGroup => some root
  | item => some itemGroup
  | run => some item
  | computer => some root

theorem mem_all (s : BuiltinScope) : s ∈ all := by
  cases s <;> decide

end BuiltinScope

namespace Builtin

/-- In the order of registration, each after its parent. -/
def all : List Builtin :=
  [administer, fullControl, genericRead, genericWrite, genericCreate, genericUpdate, genericDelete,
    genericConfigure, read, itemCreate, itemDelete, itemConfigure, itemRead, itemBuild,
    itemWorkspace, viewCreate, viewDelete, viewConfigure, viewRead]

def rootOwner : String := "hudson.model.Hudson"
def genericOwner : String := "hudson.security.Permission"
def itemOwner : String := "hudson.model.Item"
def viewOwner : String := "hudson.model.View"

def owner : Builtin → String
  | administer | read => rootOwner
  | fullControl | genericRead | genericWrite | genericCreate | genericUpdate | genericDelete
  | genericConfigure => genericOwner
  | itemCreate | itemDelete | itemConfigure | itemRead | itemBuild | itemWorkspace => itemOwner
  | viewCreate | viewDelete | viewConfigure | viewRead => viewOwner

def name : Builtin → String
  | administer => "Administer"
  | fullControl => "FullControl"
  | genericRead => "GenericRead"
  | genericWrite => "GenericWrite"
  | genericCreate => "GenericCreate"
  | genericUpdate => "GenericUpdate"
  | genericDelete => "GenericDelete"
  | genericConfigure => "GenericConfigure"
  | itemWorkspace => "Workspace"
  | itemBuild => "Build"
  | itemCreate | viewCreate => "Create"
  | itemDelete | viewDelete => "Delete"
  | itemConfigure | viewConfigure => "Configure"
  | read | itemRead | viewRead => "Read"

def id (b : Builtin) : String := b.owner ++ "." ++ b.name

def parent? : Builtin → Option Builtin
  | administer => none
  | fullControl | genericRead | genericWrite => some administer
  | genericCreate | genericUpdate | genericDelete => some genericWrite
  | genericConfigure => some genericUpdate
  | read | itemRead | itemWorkspace | viewRead => some genericRead
  | itemCreate | viewCreate => some genericCreate
  | itemDelete | viewDelete => some genericDelete
  | itemConfigure | viewConfigure => some genericConfigure
  | itemBuild => some genericUpdate

def scope : Builtin → BuiltinScope
  | itemCreate | viewCreate | viewDelete | viewConfigure | viewRead => .itemGroup
  | itemDelete | itemConfigure | itemRead | itemBuild | itemWorkspace => .item
  | _ => .root

def description? : Builtin → Option String
  | administer => some "Make system-wide configuration changes"
  | read => some "See the root object"
  | _ => none

/-- The titles of the builtin groups. -/
def titles : List (String × String) :=
  [(rootOwner, "Overall"), (genericOwner, "Permission"), (itemOwner, "Job"), (viewOwner, "View")]

def declaration (b : Builtin) : Declaration :=
  .permission b.owner b.name b.description? (b.parent?.map id) true [b.scope.kind]

/-- Scopes first, then groups, then permissions. -/
def declarations : List Declaration :=
  BuiltinScope.all.map (fun s => .scope s.kind (s.container?.map BuiltinScope.kind).toList)
    ++ titles.map (fun t => .group t.1 t.2)
    ++ all.map declaration

theorem mem_all (b : Builtin) : b ∈ all := by
  cases b <;> decide

end Builtin

namespace Catalog

def registerBuiltins (c : Catalog) : Catalog × Option CatalogError := c.install Builtin.declarations

/-- All builtin permissions are registered. -/
def hasBuiltins (c : Catalog) : Bool := Builtin.all.all fun b => (c.lookup b.id).isSome

theorem exists_lookup_builtin {c : Catalog} (h : c.hasBuiltins = true) (b : Builtin) :
    ∃ p, c.lookup b.id = some p :=
  Option.isSome_iff_exists.1 (List.all_eq_true.1 h b b.mem_all)

end Catalog

end AccessPolicy
