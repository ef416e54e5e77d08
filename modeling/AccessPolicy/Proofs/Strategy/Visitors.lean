import AccessPolicy.Proofs.Catalog.Run
import AccessPolicy.Proofs.Matrix.Decision
import AccessPolicy.Proofs.Strategy.Table
import Mathlib.Data.Fintype.EquivFin

/-!
What visitors may do under the project matrix. A grant to the anonymous user in the matrix of an
object is a grant to everybody, but one in the root matrix is for the anonymous user alone, also
where an object inherits it. So an object is open to all to whom it is open without a login, unless
only such an inherited grant opens it.
-/
namespace AccessPolicy

variable {m : Matrix} {q : MatrixProperty} {i : SecuredItem} {p : Permission}

/-- Whoever did not log in. -/
def Identity.visitor : Identity := ⟨.anonymous, []⟩

@[simp] theorem Identity.names_visitor :
    Identity.visitor.names = [Sid.anonymousName, Sid.everyoneName] := rfl

theorem Identity.names_user (name : String) :
    (Identity.user name []).names = [name, Sid.everyoneName] := rfl

theorem Identity.everyone_mem_names (who : Identity) : Sid.everyoneName ∈ who.names := by
  simp [names]

namespace Matrix

theorem grantsOnChain_cons {name : String} {names : List String} :
    m.GrantsOnChain (name :: names) p ↔ m.GrantsOnChain [name] p ∨ m.GrantsOnChain names p := by
  simp only [GrantsOnChain, List.mem_cons, List.not_mem_nil, or_false, exists_eq_or_imp,
    exists_eq_left, and_or_left, exists_or]

/-- A name that no grant mentions is granted nothing. -/
theorem not_grantsOnChain_singleton {name : String} (h : name ∉ m.grants.map Grant.sid) :
    ¬ m.GrantsOnChain [name] p := by
  rintro ⟨q, -, sid, hsid, hg⟩
  obtain rfl := List.mem_singleton.1 hsid
  exact h (List.mem_map.2 ⟨_, hg, rfl⟩)

/-- Whatever the grants are, somebody bears a name that none of them mentions. -/
theorem exists_stranger (m n : Matrix) :
    ∃ name, name ∉ m.grants.map Grant.sid ∧ name ∉ n.grants.map Grant.sid := by
  obtain ⟨name, hn⟩ :=
    Infinite.exists_notMem_finset (m.grants.map Grant.sid ++ n.grants.map Grant.sid).toFinset
  rw [List.mem_toFinset, List.mem_append, not_or] at hn
  exact ⟨name, hn⟩

end Matrix

namespace MatrixProperty

/-- The matrix of the object grants the permission to all, or the root matrix that it inherits does. -/
def GrantsToAll (q : MatrixProperty) (m : Matrix) (p : Permission) : Prop :=
  q.matrix.GrantsOnChain [Sid.anonymousName, Sid.everyoneName] p ∨
    q.inheritance = .global ∧ m.GrantsOnChain [Sid.everyoneName] p

/-- The object inherits a grant of the permission to the anonymous user from the root matrix. -/
def InheritsVisit (q : MatrixProperty) (m : Matrix) (p : Permission) : Prop :=
  q.inheritance = .global ∧ m.GrantsOnChain [Sid.anonymousName] p

theorem GrantsToAll.admits (h : q.GrantsToAll m p) (who : Identity) :
    (q.acl (.matrix m)).admits who p = true := by
  have he := who.everyone_mem_names
  rw [admits_acl_iff]
  rcases h with h | ⟨hi, h⟩
  · exact .inl (h.mono (by simp [he]))
  · exact .inr ⟨hi, h.mono (by simp [he])⟩

theorem admits_visitor_iff :
    (q.acl (.matrix m)).admits .visitor p = true ↔ q.InheritsVisit m p ∨ q.GrantsToAll m p := by
  rw [admits_acl_iff, Identity.names_visitor, GrantsToAll, InheritsVisit]
  have hown : q.matrix.GrantsOnChain [Sid.anonymousName, Sid.anonymousName, Sid.everyoneName] p ↔
      q.matrix.GrantsOnChain [Sid.anonymousName, Sid.everyoneName] p :=
    ⟨fun h => h.mono (by simp), fun h => h.mono (by simp)⟩
  rw [hown, Matrix.grantsOnChain_cons (m := m), and_or_left]
  exact or_left_comm

/-- A stranger is admitted by nothing but what admits all. -/
theorem grantsToAll_of_forall_admits
    (h : ∀ who : Identity, who.isSystem = false → (q.acl (.matrix m)).admits who p = true) :
    q.GrantsToAll m p := by
  obtain ⟨name, hown, hroot⟩ := Matrix.exists_stranger q.matrix m
  have hstranger : ∀ n : Matrix, n.GrantsOnChain (Identity.user name []).names p ↔
      n.GrantsOnChain [name] p ∨ n.GrantsOnChain [Sid.everyoneName] p := by
    intro n
    rw [Identity.names_user, Matrix.grantsOnChain_cons]
  have ha := admits_acl_iff q |>.1 (h (.user name []) rfl)
  rw [Matrix.grantsOnChain_cons, hstranger, hstranger] at ha
  rcases ha with (ha | ha | he) | ⟨hi, ha | he⟩
  · exact .inl (ha.mono (by simp))
  · exact absurd ha (Matrix.not_grantsOnChain_singleton hown)
  · exact .inl (he.mono (by simp))
  · exact absurd ha (Matrix.not_grantsOnChain_singleton hroot)
  · exact .inr ⟨hi, he⟩

end MatrixProperty

namespace Strategy

/-- An object with a matrix of its own is open to everybody if it is open to visitors, except where
they owe it to an inherited grant to the anonymous user while nothing is granted to all. -/
theorem visitors_not_ahead_iff (m : Matrix) {i : SecuredItem} {q : MatrixProperty}
    (hq : i.property = some q) (hu : q.useProjectSecurity = true) (p : Permission) :
    (((projectMatrix m).aclFor i).has .visitor p = true →
        ∀ who, ((projectMatrix m).aclFor i).has who p = true) ↔
      ¬ (q.InheritsVisit m p ∧ ¬ q.GrantsToAll m p) := by
  have hvisitor : Identity.visitor.isSystem = false := rfl
  rw [aclFor_projectMatrix, SecuredItem.own_of_property hq, if_pos hu,
    Acl.has_of_not_system _ hvisitor,
    MatrixProperty.admits_visitor_iff]
  constructor
  · rintro h ⟨hv, hn⟩
    refine hn (MatrixProperty.grantsToAll_of_forall_admits ?_)
    intro who hs
    rw [← Acl.has_of_not_system _ hs]
    exact h (.inl hv) who
  · rintro h hv who
    have hg : q.GrantsToAll m p := by
      rcases hv with hv | hg
      · by_contra hn
        exact h ⟨hv, hn⟩
      · exact hg
    rw [Acl.has, hg.admits who, Bool.or_true]

/-- An object with this line in its own matrix. -/
def jobGranting (line : String) : SecuredItem :=
  ⟨"job", some ⟨.ofLines .jobs [line], true, .global⟩⟩

theorem visitors_not_ahead_of_jobGranting : ∃ p ∈ Catalog.jobs.all,
    ((projectMatrix .empty).aclFor (jobGranting "job.Read:anonymous")).has .visitor p = true ∧
      ∀ who, ((projectMatrix .empty).aclFor (jobGranting "job.Read:anonymous")).has who p = true := by
  refine ⟨_, List.mem_cons_self, ?_, ?_⟩
  · decide +kernel
  · have hiff := visitors_not_ahead_iff .empty (i := jobGranting "job.Read:anonymous") rfl rfl
    refine (hiff _).2 ?_ (by decide +kernel)
    rintro ⟨⟨-, hg⟩, -⟩
    exact Matrix.not_grantsOnChain_singleton List.not_mem_nil hg

/-- A root matrix in which the anonymous user alone may read, inherited by an object whose own matrix
is empty, opens the object to visitors and not to those who logged in. -/
theorem visitors_ahead_of_inherited_grant : ∃ p ∈ Catalog.jobs.all,
    ((projectMatrix (.ofLines .jobs ["job.Read:anonymous"])).aclFor (jobGranting "")).has
        .visitor p = true ∧
      ((projectMatrix (.ofLines .jobs ["job.Read:anonymous"])).aclFor (jobGranting "")).has
        (.user "ann" []) p = false := by
  refine ⟨_, List.mem_cons_self, ?_, ?_⟩
  · decide +kernel
  · decide +kernel

end Strategy

end AccessPolicy
