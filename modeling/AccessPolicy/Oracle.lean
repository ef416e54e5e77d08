import AccessPolicy.Matrix

/-!
Oracles: sources of decisions for one token at a time. An oracle allows, denies or is silent, and it
is the oracle that walks the chain of the permission asked about. Resolving an identity asks for
each of its tokens in turn and takes the first answer.
-/
namespace AccessPolicy

/-- One rule of an entry list. -/
structure Entry where
  sid : Sid
  /-- The id of the permission that the rule is written for. -/
  permission : String
  allow : Bool
  deriving DecidableEq, Repr

namespace Entry

/-- The first entry for this token and permission id. -/
def first? (es : List Entry) (s : Sid) (id : String) : Option Bool :=
  (es.find? fun e => e.sid == s && e.permission == id).map (·.allow)

/-- The first entry for this token, at the nearest level of the chain that has one. -/
def decide (es : List Entry) (s : Sid) (p : Permission) : Option Bool :=
  p.chain.findSome? fun q => first? es s q.id

end Entry

namespace Matrix

/-- A matrix allows what it grants and is silent otherwise. -/
def decide (m : Matrix) (s : Sid) (p : Permission) : Option Bool :=
  if m.allows s.matrixName p then some true else none

/-- As the matrix of an object decides: what is granted to the anonymous user is granted to
everybody, so an object opened to visitors is never closed to those who logged in. -/
def decideOpen (m : Matrix) (s : Sid) (p : Permission) : Option Bool :=
  let granted := p.chain.any fun q =>
    m.grantsExactly s.matrixName q.id || m.grantsExactly Sid.anonymousName q.id
  if granted then some true else none

end Matrix

inductive Oracle where
  | entries (es : List Entry)
  | matrix (m : Matrix)
  | property (m : Matrix)
  /-- Asks `child` first, and `parent` where the child is silent for that very token. -/
  | inheriting (child parent : Oracle)
  /-- An oracle from outside, with a number by which its use can be told. -/
  | custom (tag : Nat) (answer : Sid → Permission → Option Bool)

namespace Oracle

def decide : Oracle → Sid → Permission → Option Bool
  | entries es, s, p => Entry.decide es s p
  | matrix m, s, p => m.decide s p
  | property m, s, p => m.decideOpen s p
  | inheriting child parent, s, p => (child.decide s p).or (parent.decide s p)
  | custom _ answer, s, p => answer s p

/-- The first answer for a token of the identity. -/
def resolve (o : Oracle) (who : Identity) (p : Permission) : Option Bool :=
  who.sids.findSome? fun s => o.decide s p

@[simp] theorem decide_entries (es : List Entry) (s : Sid) (p : Permission) :
    (entries es).decide s p = Entry.decide es s p := rfl
@[simp] theorem decide_matrix (m : Matrix) (s : Sid) (p : Permission) :
    (matrix m).decide s p = m.decide s p := rfl
@[simp] theorem decide_property (m : Matrix) (s : Sid) (p : Permission) :
    (property m).decide s p = m.decideOpen s p := rfl
@[simp] theorem decide_inheriting (child parent : Oracle) (s : Sid) (p : Permission) :
    (inheriting child parent).decide s p = (child.decide s p).or (parent.decide s p) := rfl

end Oracle

end AccessPolicy
