import AccessPolicy.Proofs.Catalog.Outline

/-!
Calls that are refused. A call is refused for a reason that can be read off the catalog and the
arguments, and then the catalog stays as it is, although a definition may open a group before it turns
out that its name is taken. A definition that goes through adds its permission at the end, among all and
in the group of its owner, and touches nothing else.
-/
namespace AccessPolicy

/-- The persistent id that a definition asks for. -/
def Definition.id (d : Definition) : String := d.owner ++ "." ++ d.name

/-- A text that is not empty and has no colon. -/
def IsOwner (owner : String) : Prop := owner ≠ "" ∧ ':' ∉ owner.toList

namespace Catalog

/-- The catalog itself registered the permission. A permission is told by the catalog that issued it, by
its owner and by its name; that a permission of another catalog goes by the same id is not enough. -/
def IsOwn (c : Catalog) (q : Permission) : Prop :=
  ∃ p ∈ c.all, p.issuer = q.issuer ∧ p.owner = q.owner ∧ p.name = q.name

/-- The call on its own: the catalog that it leads to, or why it is refused. -/
def attempt (c : Catalog) : Operation → Except CatalogError Catalog
  | .define d => (c.define d).map (·.2)
  | .register owner name parent scopes => (c.define { owner, name, parent, scopes }).map (·.2)
  | .registerGroup owner title => c.registerGroup owner title
  | .registerScope kind containers => (c.registerScope kind containers).map (·.2)
  | .setEnabled id enabled => c.setEnabled id enabled

/-- Why a call is refused. Of the four faults of a definition the first is reported. -/
inductive Refuses (c : Catalog) : Operation → CatalogError → Prop
  | owner {d : Definition} (ho : ¬ IsOwner d.owner) : Refuses c (.define d) (.invalidOwner d.owner)
  | name {d : Definition} (ho : IsOwner d.owner) (hn : ¬ IsIdentifier d.name) :
      Refuses c (.define d) (.invalidName d.name)
  | parent {d : Definition} {q : Permission} (ho : IsOwner d.owner) (hn : IsIdentifier d.name)
      (hd : d.parent = some q) (hq : ¬ c.IsOwn q) :
      Refuses c (.define d) (.unknownParent d.id q.id)
  | taken {d : Definition} (ho : IsOwner d.owner) (hn : IsIdentifier d.name)
      (hd : ∀ q, d.parent = some q → c.IsOwn q) (ht : c.Lists d.id) :
      Refuses c (.define d) (.duplicate d.id)
  | registered {owner name : String} {parent : Option Permission} {scopes : List Scope}
      {e : CatalogError} (h : Refuses c (.define { owner, name, parent, scopes }) e) :
      Refuses c (.register owner name parent scopes) e
  | groupOwner {owner title : String} (ho : ¬ IsOwner owner) :
      Refuses c (.registerGroup owner title) (.invalidOwner owner)
  | scopeTaken {kind : String} {containers : List Scope} (hk : kind ∈ c.scopes.map Scope.kind) :
      Refuses c (.registerScope kind containers) (.duplicateScope kind)
  | unknown {id : String} {enabled : Bool} (hl : c.lookup id = none) :
      Refuses c (.setEnabled id enabled) (.unknownPermission id)

/-- The definition goes through, and the catalog has its permission besides what it had. -/
structure Gains (c : Catalog) (d : Definition) (p : Permission) (c' : Catalog) : Prop where
  self : p.self = ⟨c.serial, d.owner, d.name, d.description, d.scopes⟩
  parent_id : p.parent?.map Permission.id = d.parent.map Permission.id
  parent_mem : ∀ q, p.parent? = some q → q ∈ c.all
  /-- What was shown is shown, and what was hidden is hidden. -/
  entries : c'.entries = c.entries ++ [⟨p, d.enabled⟩]
  /-- The group of the owner keeps its title, or is opened under the name of the owner. -/
  group : c'.group? d.owner = some (((c.group? d.owner).getD (.ofOwner d.owner)).push p)
  other_groups : ∀ owner, owner ≠ d.owner → c'.group? owner = c.group? owner
  scopes : c'.scopes = c.scopes
  serial : c'.serial = c.serial

variable {c c' : Catalog} {d : Definition} {p q : Permission} {op : Operation} {e : CatalogError}

theorem WellFormed.own?_eq_some_iff (h : c.WellFormed) :
    c.own? q = some p ↔ p ∈ c.all ∧ p.issuer = q.issuer ∧ p.owner = q.owner ∧ p.name = q.name := by
  rw [own?, Option.filter_eq_some_iff, h.find?_eq_some_iff, beq_iff_eq]
  tauto

theorem WellFormed.isOwn_iff (h : c.WellFormed) : c.IsOwn q ↔ ∃ p, c.own? q = some p :=
  (exists_congr fun _ => h.own?_eq_some_iff).symm

/-- Among the permissions that this catalog has issued so far and those of all others, its own are the
listed ones. -/
theorem WellFormed.isOwn_iff_mem (h : c.WellFormed) (hq : q.issuer = c.serial → q ∈ c.all) :
    c.IsOwn q ↔ q ∈ c.all := by
  constructor
  · rintro ⟨p, hp, hi, -⟩
    exact hq (hi.symm.trans (h.issued p hp))
  · exact fun hm => ⟨q, hm, rfl, rfl, rfl⟩

theorem WellFormed.lists_iff_find? (h : c.WellFormed) (hn : IsIdentifier d.name) :
    c.Lists d.id ↔ (c.find? d.owner d.name).isSome = true := by
  rw [h.lists_iff, ← Option.isSome_iff_exists, Definition.id, lookup_append_dot (validName_iff.2 hn)]

/-- Below a permission of the catalog, what remains to be seen is whether the name is taken. -/
theorem WellFormed.enter_eq_enterUnder (h : c.WellFormed) (ho : IsOwner d.owner)
    (hn : IsIdentifier d.name) (hd : ∀ q, d.parent = some q → c.IsOwn q) :
    c.enter d = c.enterUnder d (d.parent.bind c.own?) := by
  have hvo := validOwner_iff.2 ho
  have hvn := validName_iff.2 hn
  cases hp : d.parent with
  | none => simp [enter, hvo, hvn, hp]
  | some q =>
    obtain ⟨p, hown⟩ := h.isOwn_iff.1 (hd q hp)
    simp [enter, hvo, hvn, hp, hown]

/-- A definition with a fault is refused, and the catalog stays as it is. -/
theorem WellFormed.enter_of_refuses (h : c.WellFormed) (hr : c.Refuses (.define d) e) :
    c.enter d = (c, .error e) := by
  cases hr with
  | owner ho =>
    have hv : validOwner d.owner = false := Bool.eq_false_iff.2 (mt validOwner_iff.1 ho)
    simp [enter, hv]
  | name ho hn =>
    have hv : validName d.name = false := Bool.eq_false_iff.2 (mt validName_iff.1 hn)
    simp [enter, validOwner_iff.2 ho, hv]
  | parent ho hn hd hq =>
    have hown : c.own? _ = none :=
      Option.eq_none_iff_forall_ne_some.2 fun p hp => hq (h.isOwn_iff.2 ⟨p, hp⟩)
    simp [enter, validOwner_iff.2 ho, validName_iff.2 hn, hd, hown, Definition.id]
  | taken ho hn hd ht =>
    rw [h.enter_eq_enterUnder ho hn hd, enterUnder_eq h, if_pos ((h.lists_iff_find? hn).1 ht)]
    rfl

theorem WellFormed.gains_append (h : c.WellFormed) (hd : ∀ q, d.parent = some q → c.IsOwn q) :
    c.Gains d (c.issue d (d.parent.bind c.own?))
      (c.append (c.issue d (d.parent.bind c.own?)) d.enabled) := by
  have howner : (c.issue d (d.parent.bind c.own?)).owner = d.owner := by
    rw [Permission.owner, issue_self]
  refine ⟨c.issue_self d _, ?_, ?_, rfl, ?_, ?_, rfl, rfl⟩
  · rw [issue_parent?]
    cases hp : d.parent with
    | none => rfl
    | some q =>
      obtain ⟨p, hown⟩ := h.isOwn_iff.1 (hd q hp)
      rw [Option.bind_some, hown, Option.map_some, Option.map_some, h.id_of_own? hown]
  · intro r hr
    rw [issue_parent?] at hr
    obtain ⟨q, -, hown⟩ := Option.bind_eq_some_iff.1 hr
    exact h.mem_of_own? hown
  · rw [append, howner]
    exact (group?_alterGroup h (owner_push _) d.owner).trans (if_pos rfl)
  · intro owner ho
    rw [append, howner]
    exact (group?_alterGroup h (owner_push _) owner).trans (if_neg ho)

/-- A definition has a fault or goes through. -/
theorem WellFormed.refuses_or_gains (h : c.WellFormed) (d : Definition) :
    (∃ e, c.Refuses (.define d) e) ∨ ∃ p c', c.enter d = (c', .ok p) ∧ c.Gains d p c' := by
  by_cases ho : IsOwner d.owner
  · by_cases hn : IsIdentifier d.name
    · by_cases hd : ∀ q, d.parent = some q → c.IsOwn q
      · by_cases ht : c.Lists d.id
        · exact .inl ⟨_, .taken ho hn hd ht⟩
        · refine .inr ⟨_, _, ?_, h.gains_append hd⟩
          rw [h.enter_eq_enterUnder ho hn hd, enterUnder_eq h,
            if_neg (mt (h.lists_iff_find? hn).2 ht)]
      · push Not at hd
        obtain ⟨q, hq, hown⟩ := hd
        exact .inl ⟨_, .parent ho hn hq hown⟩
    · exact .inl ⟨_, .name ho hn⟩
  · exact .inl ⟨_, .owner ho⟩

theorem WellFormed.define_eq_error_iff (h : c.WellFormed) :
    c.define d = .error e ↔ c.Refuses (.define d) e := by
  constructor
  · intro hd
    rcases h.refuses_or_gains d with ⟨e', hr⟩ | ⟨p, c', he, -⟩
    · simp only [define, h.enter_of_refuses hr, Except.error.injEq] at hd
      exact hd ▸ hr
    · simp [define, he] at hd
  · intro hr
    rw [define, h.enter_of_refuses hr]

theorem WellFormed.gains_of_define (h : c.WellFormed) (hd : c.define d = .ok (p, c')) :
    c.Gains d p c' := by
  rcases h.refuses_or_gains d with ⟨e, hr⟩ | ⟨p', c'', he, hg⟩
  · rw [h.define_eq_error_iff.2 hr] at hd
    cases hd
  · simp only [define, he, Except.ok.injEq, Prod.mk.injEq] at hd
    obtain ⟨rfl, rfl⟩ := hd
    exact hg

theorem map_eq_error_iff {α β ε : Type} {x : Except ε α} {f : α → β} {e : ε} :
    x.map f = .error e ↔ x = .error e := by
  cases x <;> simp [Except.map]

theorem registerGroup_eq_error_iff {owner title : String} :
    c.registerGroup owner title = .error e ↔ ¬ IsOwner owner ∧ .invalidOwner owner = e := by
  rw [registerGroup, IsOwner, ← validOwner_iff]
  cases validOwner owner <;> simp

theorem registerScope_eq_error_iff {kind : String} {containers : List Scope} :
    c.registerScope kind containers = .error e ↔
      kind ∈ c.scopes.map Scope.kind ∧ .duplicateScope kind = e := by
  have htaken : (c.scope? kind).isSome = true ↔ kind ∈ c.scopes.map Scope.kind := scope?_isSome_iff
  rw [registerScope, ← htaken]
  cases (c.scope? kind).isSome <;> simp

theorem setEnabled_eq_error_iff {id : String} {enabled : Bool} :
    c.setEnabled id enabled = .error e ↔ c.lookup id = none ∧ .unknownPermission id = e := by
  rw [setEnabled]
  cases c.lookup id <;> simp

/-- A call is refused for its reason, and for nothing else. -/
theorem WellFormed.attempt_eq_error_iff (h : c.WellFormed) :
    c.attempt op = .error e ↔ c.Refuses op e := by
  cases op with
  | define d => rw [attempt, map_eq_error_iff, h.define_eq_error_iff]
  | register owner name parent scopes =>
    rw [attempt, map_eq_error_iff, h.define_eq_error_iff]
    constructor
    · exact .registered
    · intro hr
      cases hr with
      | registered hr => exact hr
  | registerGroup owner title =>
    rw [attempt, registerGroup_eq_error_iff]
    constructor
    · rintro ⟨ho, rfl⟩
      exact .groupOwner ho
    · intro hr
      cases hr with
      | groupOwner ho => exact ⟨ho, rfl⟩
  | registerScope kind containers =>
    rw [attempt, map_eq_error_iff, registerScope_eq_error_iff]
    constructor
    · rintro ⟨hk, rfl⟩
      exact .scopeTaken hk
    · intro hr
      cases hr with
      | scopeTaken hk => exact ⟨hk, rfl⟩
  | setEnabled id enabled =>
    rw [attempt, setEnabled_eq_error_iff]
    constructor
    · rintro ⟨hl, rfl⟩
      exact .unknown hl
    · intro hr
      cases hr with
      | unknown hl => exact ⟨hl, rfl⟩

theorem WellFormed.fst_enter (h : c.WellFormed) (d : Definition) :
    (c.enter d).1 = ((c.define d).map (·.2)).toOption.getD c := by
  rcases h.refuses_or_gains d with ⟨e, hr⟩ | ⟨p, c', he, -⟩
  · rw [define, h.enter_of_refuses hr]
    rfl
  · rw [define, he]
    rfl

/-- A call that is refused leaves the catalog as it is. -/
theorem WellFormed.apply_eq (h : c.WellFormed) (op : Operation) :
    c.apply op = (c.attempt op).toOption.getD c := by
  cases op with
  | define d => exact h.fst_enter d
  | register owner name parent scopes => exact h.fst_enter _
  | registerGroup owner title => rfl
  | registerScope kind containers => rfl
  | setEnabled id enabled => rfl

/-- The calls of a run that go through. -/
def accepted (c : Catalog) : List Operation → List Operation
  | [] => []
  | op :: ops =>
    match c.attempt op with
    | .error _ => c.accepted ops
    | .ok c' => op :: c'.accepted ops

/-- Without the calls that are refused, every call goes through, and the run ends where it did. -/
theorem WellFormed.foldlM_accepted (h : c.WellFormed) (ops : List Operation) :
    (c.accepted ops).foldlM attempt c = .ok (c.run ops) := by
  induction ops generalizing c with
  | nil => rfl
  | cons op ops ih =>
    have happly := h.apply_eq op
    rw [accepted, run_cons]
    cases hop : c.attempt op with
    | error e =>
      rw [hop] at happly
      rw [happly]
      exact ih h
    | ok c' =>
      rw [hop] at happly
      have hw := (step_apply h op).wellFormed h
      rw [happly] at hw ⊢
      simp only [List.foldlM_cons, hop]
      exact ih hw

/-- A catalog takes up a call as a whole or not at all. -/
structure AllOrNothing (c : Catalog) : Prop where
  /-- Among what this catalog issued so far, and all that others did, its own is what it lists. -/
  own_iff : ∀ q, (q.issuer = c.serial → q ∈ c.all) → (c.IsOwn q ↔ q ∈ c.all)
  refused_iff : ∀ op e, c.attempt op = .error e ↔ c.Refuses op e
  unchanged : ∀ op e, c.attempt op = .error e → c.apply op = c
  changed : ∀ op c', c.attempt op = .ok c' → c.apply op = c'
  gains : ∀ d p c', c.define d = .ok (p, c') → c.Gains d p c'
  /-- The calls that are refused make no difference to a run. -/
  run_eq : ∀ ops, (c.accepted ops).foldlM attempt c = .ok (c.run ops)

theorem Reachable.allOrNothing (hc : c.Reachable) : c.AllOrNothing := by
  have h := hc.wellFormed
  refine ⟨fun _ => h.isOwn_iff_mem, fun _ _ => h.attempt_eq_error_iff, ?_, ?_,
    fun _ _ _ => h.gains_of_define, h.foldlM_accepted⟩
  · intro op e he
    rw [h.apply_eq, he]
    rfl
  · intro op c' he
    rw [h.apply_eq, he]
    rfl

/-- Looks like a permission of `jobs`, but was issued by another catalog. -/
def lookalike : Permission := .root ⟨1, "job", "Read", none, []⟩

def unfounded : Definition := { owner := "job.docs", name := "Read", parent := some lookalike }

/-- Nothing can be defined below the lookalike, though the catalog has a permission of the same id. -/
theorem allOrNothing_jobs : jobs.Reachable ∧ jobs.Lists lookalike.id ∧
    jobs.attempt (.define unfounded) = .error (.unknownParent "job.docs.Read" "job.Read") ∧
    jobs.apply (.define unfounded) = jobs := by
  have h := reachable_jobs.allOrNothing
  have hread : jobs.Lists lookalike.id := ⟨_, List.mem_cons_self, by decide⟩
  have hown : ¬ jobs.IsOwn lookalike := by
    rintro ⟨p, hp, hi, -⟩
    have hserial : p.issuer = 0 := reachable_jobs.wellFormed.issued p hp
    rw [hserial] at hi
    cases hi
  have hname : IsIdentifier unfounded.name := validName_iff.1 (by decide)
  have hr : jobs.Refuses (.define unfounded) (.unknownParent "job.docs.Read" "job.Read") :=
    .parent ⟨by decide, by decide⟩ hname rfl hown
  have he := (h.refused_iff _ _).2 hr
  exact ⟨reachable_jobs, hread, he, h.unchanged _ _ he⟩

end Catalog

end AccessPolicy
