import AccessPolicy.Catalog.Basic
import AccessPolicy.Identity
import AccessPolicy.Text.Blank

/-!
The permission matrix: a finite set of grants, each a permission id and the name of a token. A
matrix only ever grants, so a name that it does not mention is silent, never denied. The grants are
kept in ascending order, so matrices with the same grants are equal. The persisted form is one line
`id:name` for each grant.
-/
namespace AccessPolicy

structure Grant where
  permission : String
  sid : String
  deriving DecidableEq, Repr

namespace Grant

/-- By permission id first, then by token name. -/
def before (g h : Grant) : Bool :=
  Text.before g.permission h.permission
    || (g.permission == h.permission && Text.before g.sid h.sid)

theorem before_strictTotal : StrictTotal before where
  irrefl g := by simp [before]
  trans f g h := by
    have t := Text.before_strictTotal.trans
    simp only [before, Bool.or_eq_true, Bool.and_eq_true, beq_iff_eq]
    rintro (a | ⟨a, b⟩) (c | ⟨c, d⟩)
    · exact .inl (t _ _ _ a c)
    · exact .inl (c ▸ a)
    · exact .inl (a ▸ c)
    · exact .inr ⟨a.trans c, t _ _ _ b d⟩
  connected g h := by
    have k := Text.before_strictTotal.connected
    obtain ⟨p, s⟩ := g
    obtain ⟨q, r⟩ := h
    simp only [before, Bool.or_eq_false_iff, Bool.and_eq_false_iff, beq_eq_false_iff_ne]
    rintro ⟨a, b⟩ ⟨c, d⟩
    obtain rfl := k _ _ a c
    simp only [ne_eq, not_true, false_or] at b d
    rw [k _ _ b d]

/-- The persisted line of a grant. -/
def line (g : Grant) : String := g.permission ++ ":" ++ g.sid

end Grant

structure Matrix where
  grants : List Grant := []
  ascending : Ascending Grant.before grants := by exact List.Pairwise.nil
  deriving DecidableEq, Repr

namespace Matrix

def empty : Matrix := {}

def insert (m : Matrix) (g : Grant) : Matrix :=
  ⟨Ascending.insert Grant.before g m.grants,
    Ascending.ascending_insert Grant.before_strictTotal g m.ascending⟩

@[simp] theorem grants_empty : empty.grants = [] := rfl

@[simp] theorem mem_grants_insert {m : Matrix} {g h : Grant} :
    h ∈ (m.insert g).grants ↔ h = g ∨ h ∈ m.grants :=
  Ascending.mem_insert Grant.before_strictTotal

/-- Matrices with the same grants are equal. -/
@[ext] theorem ext_grants {m n : Matrix} (h : ∀ g, g ∈ m.grants ↔ g ∈ n.grants) : m = n := by
  obtain ⟨gs, hg⟩ := m
  obtain ⟨hs, hh⟩ := n
  obtain rfl : gs = hs := Ascending.eq_of_mem_iff Grant.before_strictTotal hg hh h
  rfl

def grant (m : Matrix) (p : Permission) (sid : String) : Matrix := m.insert ⟨p.id, sid⟩

/-- The token was granted exactly the permission with this id. -/
def grantsExactly (m : Matrix) (sid id : String) : Bool :=
  m.grants.any fun g => g.permission == id && g.sid == sid

theorem grantsExactly_iff {m : Matrix} {sid id : String} :
    m.grantsExactly sid id = true ↔ ⟨id, sid⟩ ∈ m.grants := by
  simp only [grantsExactly, List.any_eq_true, Bool.and_eq_true, beq_iff_eq]
  constructor
  · rintro ⟨g, hg, rfl, rfl⟩
    exact hg
  · exact fun h => ⟨_, h, rfl, rfl⟩

/-- The token was granted the permission or one that implies it. -/
def allows (m : Matrix) (sid : String) (p : Permission) : Bool :=
  p.chain.any fun q => m.grantsExactly sid q.id

def size (m : Matrix) : Nat := m.grants.length

def isEmpty (m : Matrix) : Bool := m.grants.isEmpty

/-- Every token name in the matrix. -/
def sids (m : Matrix) : List String := Text.ascending (m.grants.map (·.sid))

/-- The token names that a user can bear, that is all but the anonymous one. -/
def userSids (m : Matrix) : List String := m.sids.filter (· != Sid.anonymousName)

/-- The token names that were granted exactly the permission with this id. -/
def holders (m : Matrix) (id : String) : List String :=
  (m.grants.filter fun g => g.permission == id).map (·.sid)

/-- Grant `item` to every explicit holder of `read`: matrices saved before objects could be read
one by one granted only the read permission of the root. -/
def migrateRead (m : Matrix) (read item : Permission) : Matrix :=
  (m.holders read.id).foldl (fun n sid => n.grant item sid) m

/-- The grant that a line states, if the catalog knows its permission. -/
def parseLine (c : Catalog) (line : String) : Option Grant :=
  match Text.cutAtFirst ':' line with
  | none => none
  | some (id, sid) =>
    if sid.isEmpty then none
    else (c.lookup id).map fun p => ⟨p.id, sid⟩

/-- Add the grant of a line; a line that states none changes nothing. -/
def addLine (c : Catalog) (m : Matrix) (line : String) : Matrix :=
  match parseLine c line with
  | none => m
  | some g => m.insert g

/-- Load persisted lines, each trimmed first. -/
def ofLines (c : Catalog) (lines : List String) : Matrix :=
  lines.foldl (fun m line => addLine c m (Text.trim line)) empty

/-- The persisted lines in ascending order. -/
def toLines (m : Matrix) : List String := Text.ascending (m.grants.map Grant.line)

/-- The tokens of each granted permission, by permission id. -/
def rows (m : Matrix) : List (String × List String) :=
  (Text.ascending (m.grants.map (·.permission))).map fun id => (id, m.holders id)

end Matrix

end AccessPolicy
