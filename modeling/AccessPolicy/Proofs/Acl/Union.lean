import AccessPolicy.Proofs.Acl.Composition
import AccessPolicy.Proofs.Matrix.Decision

/-!
Lists without denials. Entries, matrices and the lists over them may be nested in any way, entries in
front of other lists and oracles in front of other oracles. If nothing that is consulted denies, such
a list is the union of the rights in it: in which order they stand, how they are nested and how one
part falls back to another makes no difference.
-/
namespace AccessPolicy

variable {who more : Identity} {p : Permission} {s : Sid} {l : Source}

/-- How a list or an oracle is put together. -/
inductive Assembly where
  /-- The end of a stack of parents. -/
  | nothing
  /-- Falls back to `parent` if it is a list, and forgets it if it is an oracle. -/
  | entries (es : List Entry) (parent : Assembly)
  | matrix (m : Matrix)
  | property (m : Matrix)
  /-- The list over an oracle, which may stand for that oracle again. -/
  | sids (inner : Assembly)
  | inheriting (child parent : Assembly)

/-- What an identity may be allowed by. -/
inductive Right where
  | entry (s : Sid) (permission : String)
  | matrix (g : Grant)
  /-- Granted by the matrix of an object. -/
  | property (g : Grant)
  deriving DecidableEq

/-- The right is for a token of the identity and for a permission on the chain. Matrices know tokens
by their names alone, and the matrix of an object takes the anonymous user for everybody. -/
def Right.Covers : Right → Identity → Permission → Prop
  | entry s id, who, p => s ∈ who.sids ∧ id ∈ p.chainIds
  | matrix g, who, p => g.sid ∈ who.names ∧ g.permission ∈ p.chainIds
  | property g, who, p => g.sid ∈ Sid.anonymousName :: who.names ∧ g.permission ∈ p.chainIds

namespace Source

def rights : Source → List Right
  | entries es _ => es.map fun e => .entry e.sid e.permission
  | matrix m => m.grants.map .matrix
  | property m => m.grants.map .property

def DenyFree : Source → Prop
  | entries es _ => ∀ e ∈ es, e.allow = true
  | matrix _ => True
  | property _ => True

end Source

namespace Assembly

def oracle : Assembly → Oracle
  | nothing => .entries []
  | entries es _ => .entries es
  | matrix m => .matrix m
  | property m => .property m
  | sids inner => inner.oracle
  | inheriting child parent => .inheriting child.oracle parent.oracle

def acl : Assembly → Acl
  | nothing => .closed
  | entries es parent => .entries es parent.acl
  | matrix m => .sids (.matrix m)
  | property m => .sids (.property m)
  | sids inner => .sids inner.oracle
  | inheriting child parent => .sids (.inheriting child.oracle parent.oracle)

/-- What is consulted token by token. -/
def leaves : Assembly → List Source
  | nothing => []
  | entries es parent => [.entries es parent.acl]
  | matrix m => [.matrix m]
  | property m => [.property m]
  | sids inner => inner.leaves
  | inheriting child parent => child.leaves ++ parent.leaves

/-- What is consulted by the list. -/
def consulted : Assembly → List Source
  | entries es parent => .entries es parent.acl :: parent.consulted
  | a => a.leaves

/-- No entry that is consulted denies. -/
def DenyFree (a : Assembly) : Prop := ∀ l ∈ a.consulted, l.DenyFree

/-- Every right in what is consulted. -/
def rights (a : Assembly) : List Right := a.consulted.flatMap Source.rights

end Assembly

theorem Right.Covers.mono {r : Right} (h : r.Covers who p) (hj : who.JoinsTo more) :
    r.Covers more p := by
  cases r with
  | entry s id => exact ⟨hj.sids_subset h.1, h.2⟩
  | matrix g => exact ⟨hj.names_subset h.1, h.2⟩
  | property g => exact ⟨List.cons_subset_cons _ hj.names_subset h.1, h.2⟩

theorem Matrix.grantsOnChain_iff_exists_grant {m : Matrix} {names : List String} :
    m.GrantsOnChain names p ↔ ∃ g ∈ m.grants, g.sid ∈ names ∧ g.permission ∈ p.chainIds := by
  constructor
  · rintro ⟨q, hq, sid, hsid, hg⟩
    exact ⟨_, hg, hsid, List.mem_map_of_mem hq⟩
  · rintro ⟨⟨id, sid⟩, hg, hsid, hid⟩
    obtain ⟨q, hq, rfl⟩ := List.mem_map.1 hid
    exact ⟨q, hq, sid, hsid, hg⟩

namespace Source

theorem DenyFree.permissive (h : l.DenyFree) : l.oracle.Permissive := by
  cases l with
  | entries es parent => exact Oracle.permissive_entries h
  | matrix m => exact Oracle.permissive_matrix m
  | property m => exact Oracle.permissive_property m

theorem DenyFree.exists_decide_iff (h : l.DenyFree) :
    (∃ s ∈ who.sids, l.oracle.decide s p = some true) ↔ ∃ r ∈ l.rights, r.Covers who p := by
  cases l with
  | entries es parent =>
    have hd : ∀ s, Entry.decide es s p = some true ↔ ∃ e ∈ es, e.sid = s ∧ e.permission ∈ p.chainIds :=
      fun s => Entry.decide_eq_some_true_iff fun e he _ => h e he
    simp only [oracle, Oracle.decide_entries, hd, rights, List.mem_map]
    constructor
    · rintro ⟨s, hs, e, he, rfl, hid⟩
      exact ⟨_, ⟨e, he, rfl⟩, hs, hid⟩
    · rintro ⟨_, ⟨e, he, rfl⟩, hs, hid⟩
      exact ⟨e.sid, hs, e, he, rfl, hid⟩
  | matrix m =>
    simp only [oracle, Oracle.decide_matrix, Matrix.exists_decide_iff,
      Matrix.grantsOnChain_iff_exists_grant, rights, List.mem_map, exists_exists_and_eq_and,
      Right.Covers]
  | property m =>
    simp only [oracle, Oracle.decide_property, Matrix.exists_decideOpen_iff,
      Matrix.grantsOnChain_iff_exists_grant, rights, List.mem_map, exists_exists_and_eq_and,
      Right.Covers]

end Source

namespace Assembly

theorem permissive_oracle {a : Assembly} (h : ∀ l ∈ a.leaves, l.DenyFree) :
    a.oracle.Permissive := by
  induction a with
  | nothing => exact Oracle.permissive_entries (by simp)
  | entries es parent => exact (h _ List.mem_cons_self).permissive
  | matrix m => exact Oracle.permissive_matrix m
  | property m => exact Oracle.permissive_property m
  | sids inner ih => exact ih h
  | inheriting child parent ihc ihp =>
    obtain ⟨hc, hp⟩ := List.forall_mem_append.1 h
    exact (ihc hc).inheriting (ihp hp)

theorem decide_oracle_iff {a : Assembly} (h : ∀ l ∈ a.leaves, l.DenyFree) :
    a.oracle.decide s p = some true ↔ ∃ l ∈ a.leaves, l.oracle.decide s p = some true := by
  induction a with
  | nothing =>
    have hn : Entry.decide [] s p = none := Entry.decide_eq_none_iff.2 (by simp)
    simp [oracle, leaves, hn]
  | entries es parent => simp [oracle, leaves, Source.oracle]
  | matrix m => simp [oracle, leaves, Source.oracle]
  | property m => simp [oracle, leaves, Source.oracle]
  | sids inner ih => exact ih h
  | inheriting child parent ihc ihp =>
    obtain ⟨hc, hp⟩ := List.forall_mem_append.1 h
    rw [oracle, (permissive_oracle hc).decide_inheriting_iff, ihc hc, ihp hp, leaves]
    simp only [List.mem_append, or_and_right, exists_or]

theorem resolve_oracle_iff {a : Assembly} (h : ∀ l ∈ a.leaves, l.DenyFree) :
    (a.oracle.resolve who p).getD false = true ↔
      ∃ r ∈ a.leaves.flatMap Source.rights, r.Covers who p := by
  rw [(permissive_oracle h).resolve_iff]
  simp only [decide_oracle_iff h, List.mem_flatMap]
  constructor
  · rintro ⟨s, hs, l, hl, hd⟩
    obtain ⟨r, hr, hc⟩ := (h l hl).exists_decide_iff.1 ⟨s, hs, hd⟩
    exact ⟨r, ⟨l, hl, hr⟩, hc⟩
  · rintro ⟨r, ⟨l, hl, hr⟩, hc⟩
    obtain ⟨s, hs, hd⟩ := (h l hl).exists_decide_iff.2 ⟨r, hr, hc⟩
    exact ⟨s, hs, l, hl, hd⟩

theorem admits_acl_iff {a : Assembly} (h : a.DenyFree) :
    a.acl.admits who p = true ↔ ∃ r ∈ a.rights, r.Covers who p := by
  induction a with
  | nothing => simp [acl, rights, consulted, leaves]
  | entries es parent ih =>
    obtain ⟨hes, hparent⟩ := List.forall_mem_cons.1 h
    have hown : ((Oracle.entries es).resolve who p).getD false = true ↔
        ∃ r ∈ Source.rights (.entries es parent.acl), r.Covers who p :=
      hes.permissive.resolve_iff.trans hes.exists_decide_iff
    rw [acl, Acl.admits_entries, (Oracle.permissive_entries hes).getD_resolve_iff, hown, ih hparent]
    simp only [rights, consulted, List.flatMap_cons, List.mem_append, or_and_right, exists_or]
  | matrix m => exact resolve_oracle_iff h
  | property m => exact resolve_oracle_iff h
  | sids inner => exact resolve_oracle_iff h
  | inheriting child parent => exact resolve_oracle_iff h

/-- If nothing that is consulted denies, an identity holds a permission exactly if a right in what is
consulted covers it. So any other arrangement of the same rights answers alike, and the groups of the
identity may come in any order. -/
theorem has_acl_iff_exists_right {a : Assembly} (h : a.DenyFree) (hs : who.isSystem = false)
    (p : Permission) :
    (a.acl.has who p = true ↔ ∃ r ∈ a.rights, r.Covers who p) ∧
      ∀ (b : Assembly) (who' : Identity), b.DenyFree → (∀ r, r ∈ b.rights ↔ r ∈ a.rights) →
        who'.kind = who.kind → (∀ g, g ∈ who'.groups ↔ g ∈ who.groups) →
        b.acl.has who' p = a.acl.has who p := by
  have hhas : ∀ (b : Assembly) (who' : Identity), b.DenyFree → who'.isSystem = false →
      (b.acl.has who' p = true ↔ ∃ r ∈ b.rights, r.Covers who' p) := by
    intro b who' hb hs'
    rw [Acl.has_of_not_system _ hs', admits_acl_iff hb]
  refine ⟨hhas a who h hs, ?_⟩
  intro b who' hb hr hk hg
  have hto : who.JoinsTo who' := ⟨hk, fun g => (hg g).2⟩
  have hfrom : who'.JoinsTo who := ⟨hk.symm, fun g => (hg g).1⟩
  rw [Bool.eq_iff_iff, hhas b who' hb (hto.isSystem.trans hs), hhas a who h hs]
  constructor
  · rintro ⟨r, hm, hc⟩
    exact ⟨r, (hr r).1 hm, hc.mono hfrom⟩
  · rintro ⟨r, hm, hc⟩
    exact ⟨r, (hr r).2 hm, hc.mono hto⟩

/-- Entries in front of the matrix of an object, which inherits from another matrix. -/
def delegating : Assembly :=
  entries [⟨.principal "bob", "job.Read", true⟩, ⟨.group "qa", "job.Manage", true⟩]
    (inheriting (property (Matrix.empty.insert ⟨"job.Read", "dev"⟩))
      (matrix (Matrix.empty.insert ⟨"job.Manage", "ops"⟩)))

/-- The other way round, with the entries in the other order and a parent that is not consulted. -/
def inherited : Assembly :=
  inheriting (matrix (Matrix.empty.insert ⟨"job.Manage", "ops"⟩))
    (sids (inheriting (property (Matrix.empty.insert ⟨"job.Read", "dev"⟩))
      (entries [⟨.group "qa", "job.Manage", true⟩, ⟨.principal "bob", "job.Read", true⟩]
        (entries [⟨.everyone, "job.Read", true⟩] nothing))))

/-- A group that one matrix lets manage may read, in either arrangement; a stranger may not. -/
theorem has_acl_delegating_inherited :
    let p := Permission.implied ⟨0, "job", "Read", none, []⟩ (.root ⟨0, "job", "Manage", none, []⟩)
    delegating.acl.has (.user "ann" ["web", "ops"]) p = true ∧
      inherited.acl.has (.user "ann" ["ops", "web"]) p = true ∧
      inherited.acl.has (.user "eve" []) p = false := by
  intro p
  have hd : delegating.DenyFree := by
    simp [DenyFree, delegating, consulted, leaves, Source.DenyFree]
  have hi : inherited.DenyFree := by
    simp [DenyFree, inherited, consulted, leaves, Source.DenyFree]
  have hr : inherited.rights.Perm delegating.rights := by decide
  have hs : (Identity.user "ann" ["web", "ops"]).isSystem = false := rfl
  obtain ⟨hiff, hsame⟩ := has_acl_iff_exists_right hd hs p
  have hann : delegating.acl.has (.user "ann" ["web", "ops"]) p = true := by
    refine hiff.2 ⟨.matrix ⟨"job.Manage", "ops"⟩, by decide, ?_⟩
    exact ⟨by decide, by decide⟩
  refine ⟨hann, ?_, by decide⟩
  rw [hsame inherited (.user "ann" ["ops", "web"]) hi (fun r => hr.mem_iff) rfl, hann]
  simp [Identity.user, or_comm]

end Assembly

end AccessPolicy
