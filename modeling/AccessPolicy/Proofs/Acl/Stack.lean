import AccessPolicy.Acl.Basic
import AccessPolicy.Proofs.FirstAnswer

/-!
Stacks of entry lists. Each list walks the tokens, for each token the chain, and for each level of
the chain its entries, and only a list that says nothing at all asks the next one. So the entry that
decides is the least of the matching entries, compared by these four positions in turn.
-/
namespace AccessPolicy

/-- Where an entry matches: the depth of its list, the position of the token that it mentions, the
distance of its permission on the chain, and its position in its list. -/
abbrev Place := ℕ ×ₗ ℕ ×ₗ ℕ ×ₗ ℕ

namespace Place

def depth (k : Place) : ℕ := (ofLex k).1
def token (k : Place) : ℕ := (ofLex (ofLex k).2).1
def distance (k : Place) : ℕ := (ofLex (ofLex (ofLex k).2).2).1
def index (k : Place) : ℕ := (ofLex (ofLex (ofLex k).2).2).2

/-- The depth counts before the token, the token before the distance, and the index last. -/
theorem le_iff {k k' : Place} :
    k ≤ k' ↔ k.depth < k'.depth ∨ k.depth = k'.depth ∧ (k.token < k'.token ∨ k.token = k'.token ∧
      (k.distance < k'.distance ∨ k.distance = k'.distance ∧ k.index ≤ k'.index)) := by
  rw [Prod.Lex.le_iff, Prod.Lex.le_iff, Prod.Lex.le_iff]
  rfl

end Place

variable {stack : List (List Entry)} {who : Identity} {p : Permission}

/-- The entry is written for a token of the identity and for a permission on the chain of `p`, and
this is its place. -/
structure MatchesAt (stack : List (List Entry)) (who : Identity) (p : Permission) (k : Place)
    (e : Entry) : Prop where
  listed : ∃ es, stack[k.depth]? = some es ∧ es[k.index]? = some e
  token : who.sids[k.token]? = some e.sid
  level : p.chainIds[k.distance]? = some e.permission

/-- No matching entry stands at a smaller place. -/
def Decides (stack : List (List Entry)) (who : Identity) (p : Permission) (e : Entry) : Prop :=
  ∃ k, MatchesAt stack who p k e ∧ IsLeast {k | ∃ e, MatchesAt stack who p k e} k

theorem MatchesAt.unique {k : Place} {e e' : Entry} (h : MatchesAt stack who p k e)
    (h' : MatchesAt stack who p k e') : e = e' := by
  obtain ⟨es, hes, he⟩ := h.listed
  obtain ⟨es', hes', he'⟩ := h'.listed
  cases hes.symm.trans hes'
  exact Option.some.inj (he.symm.trans he')

/-- At most one entry decides. -/
theorem Decides.unique {e e' : Entry} (h : Decides stack who p e) (h' : Decides stack who p e') :
    e = e' := by
  obtain ⟨k, he, hk⟩ := h
  obtain ⟨k', he', hk'⟩ := h'
  rw [hk'.unique hk] at he'
  exact he.unique he'

/-- The entry at this position is written for the token and the id, and this is what it says. -/
def Entry.AnswersAt (es : List Entry) (s : Sid) (id : String) (i : ℕ) (allow : Bool) : Prop :=
  ∃ e, es[i]? = some e ∧ (e.sid = s ∧ e.permission = id) ∧ e.allow = allow

theorem Entry.first?_first (es : List Entry) (s : Sid) (id : String) :
    FirstAnswer (AnswersAt es s id) (first? es s id) := by
  have h := FirstAnswer.find? es (fun e => e.sid == s && e.permission == id) Entry.allow
  refine h.congr ?_
  intro i allow
  simp only [AnswersAt, Bool.and_eq_true, beq_iff_eq]

theorem Entry.decide_first (es : List Entry) (s : Sid) (p : Permission) :
    FirstAnswer (Positioned p.chain fun q => AnswersAt es s q.id) (Entry.decide es s p) := by
  apply FirstAnswer.findSome?
  intro q _
  exact first?_first es s q.id

theorem Oracle.resolve_entries_first (es : List Entry) (who : Identity) (p : Permission) :
    FirstAnswer
      (Positioned who.sids fun s => Positioned p.chain fun q => Entry.AnswersAt es s q.id)
      ((Oracle.entries es).resolve who p) := by
  apply FirstAnswer.findSome?
  intro s _
  exact Entry.decide_first es s p

/-- A list is asked only if all lists above it are silent for every token. -/
theorem Acl.admits_ofStack (stack : List (List Entry)) (who : Identity) (p : Permission) :
    (ofStack stack).admits who p =
      (stack.findSome? fun es => (Oracle.entries es).resolve who p).getD false := by
  induction stack with
  | nil => rfl
  | cons es rest ih =>
    have hc : (ofStack (es :: rest)).admits who p =
        ((Oracle.entries es).resolve who p).getD ((ofStack rest).admits who p) := rfl
    rw [hc, ih, List.findSome?_cons]
    cases (Oracle.entries es).resolve who p <;> rfl

theorem matchesAt_iff {k : Place} {allow : Bool} :
    Positioned stack (fun es => Positioned who.sids fun s => Positioned p.chain fun q =>
      Entry.AnswersAt es s q.id) k allow ↔ ∃ e, MatchesAt stack who p k e ∧ e.allow = allow := by
  constructor
  · rintro ⟨es, hes, s, hs, q, hq, e, he, ⟨rfl, hid⟩, rfl⟩
    refine ⟨e, ⟨⟨es, hes, he⟩, hs, ?_⟩, rfl⟩
    rw [Permission.chainIds, List.getElem?_map, hid]
    exact congrArg (Option.map Permission.id) hq
  · rintro ⟨e, ⟨⟨es, hes, he⟩, hs, hl⟩, rfl⟩
    rw [Permission.chainIds, List.getElem?_map, Option.map_eq_some_iff] at hl
    obtain ⟨q, hq, hid⟩ := hl
    exact ⟨es, hes, e.sid, hs, q, hq, e, he, ⟨rfl, hid.symm⟩, rfl⟩

theorem Oracle.findSome?_resolve_first (stack : List (List Entry)) (who : Identity)
    (p : Permission) :
    FirstAnswer (fun (k : Place) allow => ∃ e, MatchesAt stack who p k e ∧ e.allow = allow)
      (stack.findSome? fun es => (Oracle.entries es).resolve who p) := by
  have h := FirstAnswer.findSome? fun es (_ : es ∈ stack) => resolve_entries_first es who p
  exact h.congr fun _ _ => matchesAt_iff

/-- A stack of entry lists answers as its deciding entry says, and denies where no entry matches.
The system identity holds everything. -/
theorem Acl.has_ofStack (stack : List (List Entry)) (who : Identity) (p : Permission) :
    who.isSystem = true ∧ (ofStack stack).has who p = true ∨
    who.isSystem = false ∧ (∃ e, Decides stack who p e ∧ (ofStack stack).has who p = e.allow) ∨
    who.isSystem = false ∧ (∀ k e, ¬ MatchesAt stack who p k e) ∧
      (ofStack stack).has who p = false := by
  cases hs : who.isSystem with
  | true => exact .inl ⟨rfl, has_system _ hs p⟩
  | false =>
    have hf := Oracle.findSome?_resolve_first stack who p
    rw [has_of_not_system _ hs, admits_ofStack]
    cases ha : stack.findSome? fun es => (Oracle.entries es).resolve who p with
    | none =>
      rw [ha] at hf
      exact .inr (.inr ⟨rfl, fun k e he => hf k e.allow ⟨e, he, rfl⟩, rfl⟩)
    | some allow =>
      rw [ha] at hf
      obtain ⟨k, ⟨e, he, rfl⟩, hk, hmin⟩ := hf
      refine .inr (.inl ⟨rfl, e, ⟨k, he, ⟨e, he⟩, ?_⟩, rfl⟩)
      rintro k' ⟨e', he'⟩
      exact hmin ⟨e'.allow, e', he', rfl⟩

/-- The upper list counts more than the token: a group that it denies is not saved by the principal
below. -/
example : (Acl.ofStack [[⟨.group "dev", "a.B", false⟩], [⟨.principal "ann", "a.B", true⟩]]).has
    (.user "ann" ["dev"]) (.root ⟨0, "a", "B", none, []⟩) = false := by
  decide

end AccessPolicy
