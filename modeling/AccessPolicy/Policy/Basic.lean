import AccessPolicy.Controller

/-!
A policy: all that is built from one configuration, namely the catalog of permissions, the
controller and the configured objects. Its export is the configuration with every matrix as it was
loaded.
-/
namespace AccessPolicy

inductive PolicyError where
  | config (e : ConfigError)
  | catalog (e : CatalogError)
  deriving DecidableEq, Repr

def PolicyError.message : PolicyError → String
  | config e => "Configuration error: " ++ e.message
  | catalog e => "Permission registry error: " ++ e.message

/-- The message of the error that a policy error wraps. -/
def PolicyError.innerMessage : PolicyError → String
  | config e => e.message
  | catalog e => e.message

def CheckError.message : CheckError → String
  | misuse e => "ACL error: " ++ e.message
  | denied d => "Access denied: " ++ d.message

structure Policy where
  catalog : Catalog
  controller : Controller
  /-- The configured objects in ascending order of their names. -/
  items : List SecuredItem

namespace Policy

/-- Put an item in its place; it replaces one of the same name. -/
def putItem (i : SecuredItem) (is : List SecuredItem) : List SecuredItem :=
  Keyed.put SecuredItem.name i is

/-- The configured objects, the last of each name. -/
def itemsOf (c : Catalog) (os : List ObjectSettings) : List SecuredItem :=
  os.foldl (fun is o => putItem (.ofSettings c o) is) []

/-- The catalog with the builtin permissions, registered unless they are all there. -/
def prepare (c : Catalog) : Except CatalogError Catalog :=
  if c.hasBuiltins then .ok c
  else
    match c.registerBuiltins with
    | (c', none) => .ok c'
    | (_, some e) => .error e

/-- Build a policy on a prepared catalog and a table of strategies. -/
def loadWith (s : Settings) (c : Catalog) (t : StrategyTable) : Except PolicyError Policy :=
  match prepare c with
  | .error e => .error (.catalog e)
  | .ok c' =>
    match Controller.ofSettings s.authorization c' t with
    | (_, .error e) => .error (.config e)
    | (c'', .ok k) => .ok ⟨c'', k, itemsOf c'' s.objects⟩

/-- Build a policy with the builtin permissions and strategies. -/
def load (serial : Nat) (s : Settings) : Except PolicyError Policy :=
  loadWith s { serial } .builtin

/-- Build a policy whose catalog is extended before any matrix is read. -/
def loadExtended (serial : Nat) (s : Settings) (t : StrategyTable) (ds : List Declaration) :
    Except PolicyError Policy :=
  match (Catalog.mk serial [] [] []).install (Builtin.declarations ++ ds) with
  | (_, some e) => .error (.catalog e)
  | (c, none) => loadWith s c t

def item? (p : Policy) (name : String) : Option SecuredItem :=
  Keyed.find? SecuredItem.name name p.items

def requireItem (p : Policy) (name : String) : Except PolicyError SecuredItem :=
  match p.item? name with
  | none => .error (.config (.objectUnknown name))
  | some i => .ok i

/-- The configuration `s` with all matrices as they were loaded: lines that state no grant are gone,
the rest is sorted, and the migration is done. -/
def exportSettings (p : Policy) (s : Settings) : Settings :=
  { s with
    authorization := { s.authorization with
      grants := match p.controller.strategy.matrix? with
        | none => s.authorization.grants
        | some m => m.toLines
      migrateLegacyRead := false }
    objects := p.items.filterMap fun i => i.property.map fun q => q.toSettings i.name }

end Policy

end AccessPolicy
