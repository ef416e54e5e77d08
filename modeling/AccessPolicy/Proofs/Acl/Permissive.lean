import AccessPolicy.Acl.Basic

/-!
Oracles that never deny. The order in which they are asked is of no account: an identity is admitted
if one of its tokens is allowed. Matrices are of this kind, entries if none of those that are about
the identity denies, and two such oracles of which one stands behind the other.
-/
namespace AccessPolicy

variable {who : Identity} {p : Permission} {s : Sid} {es : List Entry}

namespace Entry

theorem decide_root (c : Capability) : decide es s (.root c) = first? es s (Permission.root c).id := by
  rw [decide, Permission.chain_root, List.findSome?_cons]
  cases first? es s (Permission.root c).id <;> rfl

theorem decide_implied (c : Capability) (q : Permission) :
    decide es s (.implied c q) =
      (first? es s (Permission.implied c q).id).or (decide es s q) := by
  rw [decide, Permission.chain_implied, List.findSome?_cons]
  cases first? es s (Permission.implied c q).id <;> rfl

theorem exists_of_first? {id : String} {allow : Bool} (h : first? es s id = some allow) :
    ∃ e ∈ es, e.sid = s ∧ e.permission = id ∧ e.allow = allow := by
  obtain ⟨e, hf, ha⟩ := Option.map_eq_some_iff.1 h
  have ht : e.sid = s ∧ e.permission = id := by simpa using List.find?_some hf
  exact ⟨e, List.mem_of_find?_eq_some hf, ht.1, ht.2, ha⟩

/-- What the entries answer is what one of them says for the token and the chain. -/
theorem exists_of_decide {allow : Bool} (h : decide es s p = some allow) :
    ∃ e ∈ es, e.sid = s ∧ e.permission ∈ p.chainIds ∧ e.allow = allow := by
  obtain ⟨q, hq, hf⟩ := List.exists_of_findSome?_eq_some h
  obtain ⟨e, he, hs, hid, ha⟩ := exists_of_first? hf
  exact ⟨e, he, hs, hid ▸ List.mem_map_of_mem hq, ha⟩

/-- No entry for the token and the chain is passed over. -/
theorem decide_eq_none_iff :
    decide es s p = none ↔ ∀ e ∈ es, e.sid = s → e.permission ∉ p.chainIds := by
  constructor
  · intro hd e he hs hid
    obtain ⟨q, hq, hqid⟩ := List.mem_map.1 hid
    have hf : first? es s q.id = none := List.findSome?_eq_none_iff.1 hd q hq
    rw [first?, Option.map_eq_none_iff, List.find?_eq_none] at hf
    exact hf e he (by simp [hs, hqid])
  · intro h
    rw [Option.eq_none_iff_forall_ne_some]
    intro allow hd
    obtain ⟨e, he, hs, hid, -⟩ := exists_of_decide hd
    exact h e he hs hid

theorem decide_eq_some_true_iff (h : ∀ e ∈ es, e.sid = s → e.allow = true) :
    decide es s p = some true ↔ ∃ e ∈ es, e.sid = s ∧ e.permission ∈ p.chainIds := by
  constructor
  · intro hd
    obtain ⟨e, he, hs, hid, -⟩ := exists_of_decide hd
    exact ⟨e, he, hs, hid⟩
  · rintro ⟨e, he, hs, hid⟩
    cases hd : decide es s p with
    | none => exact absurd hid (decide_eq_none_iff.1 hd e he hs)
    | some allow =>
      obtain ⟨e', he', hs', -, rfl⟩ := exists_of_decide hd
      rw [h e' he' hs']

end Entry

namespace Oracle

/-- The principal is asked for first. -/
theorem resolve_of_principal {o : Oracle} {allow : Bool}
    (h : o.decide (.principal who.principal) p = some allow) : o.resolve who p = some allow := by
  rw [resolve, Identity.sids, List.cons_append, List.findSome?_cons, h]

/-- Where none of the tokens is denied, one that is allowed decides. -/
theorem resolve_iff {o : Oracle} (h : ∀ s ∈ who.sids, o.decide s p ≠ some false) :
    (o.resolve who p).getD false = true ↔ ∃ s ∈ who.sids, o.decide s p = some true := by
  rw [resolve]
  cases hf : who.sids.findSome? fun s => o.decide s p with
  | none =>
    rw [List.findSome?_eq_none_iff] at hf
    simp only [Option.getD_none, Bool.false_eq_true, false_iff]
    rintro ⟨s, hs, hd⟩
    rw [hf s hs] at hd
    cases hd
  | some allow =>
    obtain ⟨s, hs, hd⟩ := List.exists_of_findSome?_eq_some hf
    cases allow with
    | false => exact absurd hd (h s hs)
    | true => simpa using ⟨s, hs, hd⟩

theorem resolve_entries_iff (h : ∀ e ∈ es, e.sid ∈ who.sids → e.allow = true) :
    ((entries es).resolve who p).getD false = true ↔
      ∃ e ∈ es, e.sid ∈ who.sids ∧ e.permission ∈ p.chainIds := by
  have ha : ∀ s ∈ who.sids, ∀ e ∈ es, e.sid = s → e.allow = true := by
    intro s hs e he hes
    exact h e he (hes ▸ hs)
  rw [resolve_iff]
  · constructor
    · rintro ⟨s, hs, hd⟩
      obtain ⟨e, he, rfl, hid⟩ := (Entry.decide_eq_some_true_iff (ha s hs)).1 hd
      exact ⟨e, he, hs, hid⟩
    · rintro ⟨e, he, hs, hid⟩
      exact ⟨e.sid, hs, (Entry.decide_eq_some_true_iff (ha _ hs)).2 ⟨e, he, rfl, hid⟩⟩
  · intro s hs hd
    obtain ⟨e, he, hes, -, hf⟩ := Entry.exists_of_decide hd
    rw [ha s hs e he hes] at hf
    cases hf

/-- The oracle allows or is silent. -/
def Permissive (o : Oracle) : Prop := ∀ s p, o.decide s p ≠ some false

theorem permissive_entries (h : ∀ e ∈ es, e.allow = true) : (entries es).Permissive := by
  intro s p hd
  obtain ⟨e, he, -, -, hf⟩ := Entry.exists_of_decide hd
  rw [h e he] at hf
  cases hf

theorem permissive_matrix (m : Matrix) : (matrix m).Permissive := by
  intro s p
  rw [decide_matrix, Matrix.decide]
  split <;> simp

theorem permissive_property (m : Matrix) : (property m).Permissive := by
  intro s p
  rw [decide_property, Matrix.decideOpen]
  split <;> simp

theorem Permissive.inheriting {child parent : Oracle} (hc : child.Permissive)
    (hp : parent.Permissive) : (Oracle.inheriting child parent).Permissive := by
  intro s p h
  rw [decide_inheriting, Option.or_eq_some_iff] at h
  rcases h with h | ⟨-, h⟩
  · exact hc s p h
  · exact hp s p h

theorem Permissive.decide_inheriting_iff {child parent : Oracle} (hc : child.Permissive) :
    (Oracle.inheriting child parent).decide s p = some true ↔
      child.decide s p = some true ∨ parent.decide s p = some true := by
  rw [decide_inheriting]
  cases h : child.decide s p with
  | none => simp
  | some allow =>
    cases allow with
    | false => exact absurd h (hc s p)
    | true => simp

/-- Whoever bears a token that is allowed is admitted. -/
theorem Permissive.resolve_iff {o : Oracle} (h : o.Permissive) :
    (o.resolve who p).getD false = true ↔ ∃ s ∈ who.sids, o.decide s p = some true :=
  Oracle.resolve_iff fun s _ => h s p

/-- What the oracle is silent about is left to whatever stands behind it. -/
theorem Permissive.getD_resolve_iff {o : Oracle} (h : o.Permissive) (b : Bool) :
    (o.resolve who p).getD b = true ↔ (o.resolve who p).getD false = true ∨ b = true := by
  cases hr : o.resolve who p with
  | none => simp
  | some allow =>
    obtain ⟨s, -, hd⟩ := List.exists_of_findSome?_eq_some hr
    cases allow with
    | true => simp
    | false => exact absurd hd (h s p)

end Oracle

end AccessPolicy
