import AccessPolicy.Acl.Consultation
import AccessPolicy.Proofs.Acl.Stack

/-!
Compositions of oracles. Each token of the identity is put to all sources from left to right before
the next token is tried, and a source goes through the whole chain before the next one is asked. So
the opinion that decides is the first by token, then by source, then by level and position, and how
the composition is bracketed is of no account.
-/
namespace AccessPolicy

/-- What a composition is made of. -/
inductive Source where
  /-- Entries, with the list that they fall back to when they are asked by themselves. -/
  | entries (es : List Entry) (parent : Acl)
  | matrix (m : Matrix)
  | property (m : Matrix)

inductive Composition where
  | source (l : Source)
  | inheriting (child parent : Composition)

/-- Token by token, entries have no occasion to ask their parent. -/
def Source.oracle : Source → Oracle
  | entries es _ => .entries es
  | matrix m => .matrix m
  | property m => .property m

/-- The oracle has an answer for one of the tokens. -/
def Oracle.speaks (o : Oracle) (who : Identity) (p : Permission) : Bool :=
  who.sids.any fun s => (o.decide s p).isSome

/-- What the source says of one id. Entries say it by their positions, while the grants of a matrix
are all on a par. -/
def Source.SaysAt : Source → Sid → String → ℕ → Bool → Prop
  | entries es _, s, id, i, allow => Entry.AnswersAt es s id i allow
  | matrix m, s, id, i, allow => ⟨id, s.matrixName⟩ ∈ m.grants ∧ i = 0 ∧ allow = true
  | property m, s, id, i, allow =>
    (⟨id, s.matrixName⟩ ∈ m.grants ∨ ⟨id, Sid.anonymousName⟩ ∈ m.grants) ∧ i = 0 ∧ allow = true

namespace Composition

def oracle : Composition → Oracle
  | source l => l.oracle
  | inheriting child parent => .inheriting child.oracle parent.oracle

def acl (t : Composition) : Acl := .sids t.oracle

/-- The sources from left to right. -/
def sources : Composition → List Source
  | source l => [l]
  | inheriting child parent => child.sources ++ parent.sources

/-- The sources that have an answer for the identity, without what the entries among them would fall
back to. -/
def speakers (t : Composition) (who : Identity) (p : Permission) : List Oracle :=
  (t.sources.map Source.oracle).filter fun o => o.speaks who p

/-- Where the composition has an opinion: by the position of the token, of the source, of the level
on the chain and of what the source says of it. -/
def OpinionAt (t : Composition) (who : Identity) (p : Permission) : ℕ ×ₗ ℕ ×ₗ ℕ ×ₗ ℕ → Bool → Prop :=
  Positioned who.sids fun s => Positioned t.sources fun l => Positioned p.chainIds fun id =>
    l.SaysAt s id

end Composition

variable {who : Identity} {p : Permission} {s : Sid}

namespace Source

/-- The answer of the source for one id. -/
def ruling : Source → Sid → String → Option Bool
  | entries es _, s, id => Entry.first? es s id
  | matrix m, s, id => if m.grantsExactly s.matrixName id then some true else none
  | property m, s, id =>
    if m.grantsExactly s.matrixName id || m.grantsExactly Sid.anonymousName id then some true
    else none

theorem decide_oracle (l : Source) (s : Sid) (p : Permission) :
    l.oracle.decide s p = p.chainIds.findSome? (l.ruling s) := by
  rw [Permission.chainIds, List.findSome?_map]
  cases l with
  | entries es parent => rfl
  | matrix m => exact ite_any_eq_findSome? p.chain _ true
  | property m => exact ite_any_eq_findSome? p.chain _ true

theorem ruling_first (l : Source) (s : Sid) (id : String) :
    FirstAnswer (l.SaysAt s id) (l.ruling s id) := by
  cases l with
  | entries es parent => exact Entry.first?_first es s id
  | matrix m =>
    refine (FirstAnswer.ite _ true).congr ?_
    intro i allow
    rw [SaysAt, Matrix.grantsExactly_iff]
  | property m =>
    refine (FirstAnswer.ite _ true).congr ?_
    intro i allow
    rw [SaysAt, Bool.or_eq_true, Matrix.grantsExactly_iff, Matrix.grantsExactly_iff]

theorem decide_first (l : Source) (s : Sid) (p : Permission) :
    FirstAnswer (Positioned p.chainIds (l.SaysAt s)) (l.oracle.decide s p) := by
  rw [decide_oracle]
  apply FirstAnswer.findSome?
  intro id _
  exact l.ruling_first s id

end Source

namespace Composition

/-- A composition is a list of sources, of which the first with an answer for the token decides. -/
theorem decide_oracle (t : Composition) (s : Sid) (p : Permission) :
    t.oracle.decide s p = t.sources.findSome? fun l => l.oracle.decide s p := by
  induction t with
  | source l => simp [oracle, sources]
  | inheriting child parent ihc ihp =>
    rw [oracle, sources, Oracle.decide_inheriting, List.findSome?_append, ihc, ihp]

theorem resolve_first (t : Composition) (who : Identity) (p : Permission) :
    FirstAnswer (t.OpinionAt who p) (t.oracle.resolve who p) := by
  apply FirstAnswer.findSome?
  intro s _
  rw [decide_oracle]
  apply FirstAnswer.findSome?
  intro l _
  exact l.decide_first s p

/-- Sources without an answer may be left out. -/
theorem decide_oracle_eq_speakers (t : Composition) (hs : s ∈ who.sids) (p : Permission) :
    t.oracle.decide s p = (t.speakers who p).findSome? fun o => o.decide s p := by
  rw [decide_oracle, speakers]
  induction t.sources with
  | nil => rfl
  | cons l ls ih =>
    rw [List.findSome?_cons, List.map_cons, List.filter_cons]
    cases hd : l.oracle.decide s p with
    | some allow =>
      have hl : l.oracle.speaks who p = true := List.any_eq_true.2 ⟨s, hs, by rw [hd]; rfl⟩
      rw [if_pos hl, List.findSome?_cons, hd]
    | none =>
      by_cases hl : l.oracle.speaks who p = true
      · rw [if_pos hl, List.findSome?_cons, hd, ih]
      · rw [if_neg hl, ih]

theorem resolve_congr {t u : Composition} (h : u.speakers who p = t.speakers who p) :
    u.oracle.resolve who p = t.oracle.resolve who p := by
  have hd : ∀ s ∈ who.sids, u.oracle.decide s p = t.oracle.decide s p := by
    intro s hs
    rw [decide_oracle_eq_speakers u hs, decide_oracle_eq_speakers t hs, h]
  rw [Oracle.resolve, Oracle.resolve]
  exact findSome?_congr hd

theorem consulted_oracle (t : Composition) (s : Sid) (p : Permission) :
    t.oracle.consulted s p = [] := by
  induction t with
  | source l => cases l <;> rfl
  | inheriting child parent ihc ihp => simp [oracle, Oracle.consulted, ihc, ihp]

theorem consulted_acl (t : Composition) (who : Identity) (p : Permission) :
    t.acl.consulted who p = [] := by
  have hfor : ∀ ss, t.oracle.consultedFor p ss = [] := by
    intro ss
    induction ss with
    | nil => rfl
    | cons s ss ih => simp [Oracle.consultedFor, consulted_oracle, ih]
  simp [acl, Acl.consulted, Acl.admitting, hfor]

/-- A composition answers as its first opinion says, and denies if it has none. No parent of entries
is consulted, though it may be one that takes note of every question. Compositions with the same
speakers in the same order answer alike, so they may be bracketed anew, sources without an answer may
be put in or left out, and entries may have another parent. -/
theorem has_acl (t : Composition) (who : Identity) (p : Permission) :
    (∃ answer, FirstAnswer (t.OpinionAt who p) answer ∧
        t.acl.has who p = (who.isSystem || answer.getD false)) ∧
      t.acl.consulted who p = [] ∧
      ∀ u : Composition, u.speakers who p = t.speakers who p →
        u.acl.has who p = t.acl.has who p := by
  refine ⟨⟨t.oracle.resolve who p, t.resolve_first who p, rfl⟩, t.consulted_acl who p, ?_⟩
  intro u hu
  simp only [acl, Acl.has, Acl.admits_sids, resolve_congr hu]

/-- Entries that deny a group. -/
def groupDenied (parent : Acl) : Composition :=
  .source (.entries [⟨.group "dev", "job.Read", false⟩] parent)

/-- A list that takes note of what it is asked. -/
def recorder : Acl := .sids (.custom 0 fun _ _ => none)

def principalAllowed : Composition :=
  .source (.entries [⟨.principal "ann", "job.Read", true⟩] .closed)

def silent : Composition := .source (.matrix .empty)

/-- The principal counts more than the group, also if the group is denied by a source further left,
and it is of no account how the sources are bracketed, that one of them is silent, or what the entries
would fall back to. -/
theorem has_acl_regrouped :
    let who := Identity.user "ann" ["dev"]
    let p := Permission.root ⟨0, "job", "Read", none, []⟩
    let t := inheriting (inheriting (groupDenied recorder) principalAllowed) silent
    t.acl.has who p = true ∧ t.acl.consulted who p = [] ∧
      (inheriting (groupDenied .closed) (inheriting silent principalAllowed)).acl.has who p = true := by
  intro who p t
  obtain ⟨-, hasked, hsame⟩ := has_acl t who p
  have hleft : t.acl.has who p = true := by decide
  have hspeakers :
      (inheriting (groupDenied .closed) (inheriting silent principalAllowed)).speakers who p =
        t.speakers who p := rfl
  exact ⟨hleft, hasked, (hsame _ hspeakers).trans hleft⟩

end Composition

end AccessPolicy
