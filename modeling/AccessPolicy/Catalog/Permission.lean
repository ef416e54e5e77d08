import AccessPolicy.Catalog.Scope

/-!
Permissions form a forest: each may name one broader permission that also grants it. The chain of a
permission lists it and then its ancestors, nearest first; every check walks that list.
-/
namespace AccessPolicy

/-- What a permission is, apart from its place in the forest. -/
structure Capability where
  /-- The serial number of the catalog that issued it. -/
  issuer : Nat
  owner : String
  name : String
  description : Option String
  scopes : List Scope
  deriving Repr

inductive Permission where
  | root (self : Capability)
  | implied (self : Capability) (parent : Permission)
  deriving Repr

namespace Permission

def self : Permission → Capability
  | root c => c
  | implied c _ => c

/-- The broader permission that also grants this one. -/
def parent? : Permission → Option Permission
  | root _ => none
  | implied _ q => some q

def issuer (p : Permission) : Nat := p.self.issuer
def owner (p : Permission) : String := p.self.owner
def name (p : Permission) : String := p.self.name
def description (p : Permission) : Option String := p.self.description
def scopes (p : Permission) : List Scope := p.self.scopes

/-- The persistent id. -/
def id (p : Permission) : String := p.owner ++ "." ++ p.name

/-- The permission, followed by its ancestors from the nearest to the root. -/
def chain : Permission → List Permission
  | root c => [root c]
  | implied c q => implied c q :: q.chain

@[simp] theorem chain_root (c : Capability) : (root c).chain = [root c] := rfl
@[simp] theorem chain_implied (c : Capability) (q : Permission) :
    (implied c q).chain = implied c q :: q.chain := rfl

def chainIds (p : Permission) : List String := p.chain.map id

theorem chainIds_root (c : Capability) : (root c).chainIds = [(root c).id] := rfl
theorem chainIds_implied (c : Capability) (q : Permission) :
    (implied c q).chainIds = (implied c q).id :: q.chainIds := rfl

/-- The proper ancestors, nearest first. -/
def ancestors (p : Permission) : List Permission := p.chain.tail

theorem chain_eq_cons (p : Permission) : p.chain = p :: p.ancestors := by
  cases p <;> rfl

theorem self_mem_chain (p : Permission) : p ∈ p.chain := by
  simp [chain_eq_cons]

theorem mem_chain_of_parent {p q : Permission} (h : q.parent? = some p) : p ∈ q.chain := by
  cases q with
  | root c => cases h
  | implied c r =>
    cases h
    exact List.mem_cons_of_mem _ p.self_mem_chain

/-- The chain of an ancestor is the end of the chain. -/
theorem chain_suffix {p q : Permission} (h : p ∈ q.chain) : p.chain <:+ q.chain := by
  induction q with
  | root c =>
    rw [chain_root, List.mem_singleton] at h
    exact h ▸ List.suffix_rfl
  | implied c r ih =>
    rcases List.mem_cons.1 h with rfl | h
    · exact List.suffix_rfl
    · exact (ih h).trans (List.suffix_cons _ _)

theorem id_mem_chainIds (p : Permission) : p.id ∈ p.chainIds :=
  List.mem_map.2 ⟨p, p.self_mem_chain, rfl⟩

/-- The permission applies within a scope if one of its own scopes lies there. -/
def isWithin (p : Permission) (outer : String) : Bool := p.scopes.any (Scope.isWithin outer)

/-- The form used in diagnostics. -/
def label (p : Permission) : String := "Permission[" ++ p.owner ++ "," ++ p.name ++ "]"

end Permission

/-- Which permissions administrators are shown. -/
abbrev Visibility := Permission → Bool

/-- The closest shown permission on the chain, or the root of the chain if none is shown. -/
def Permission.nearestShown (shown : Visibility) : Permission → Permission
  | root c => root c
  | implied c q => if shown (implied c q) then implied c q else q.nearestShown shown

end AccessPolicy
