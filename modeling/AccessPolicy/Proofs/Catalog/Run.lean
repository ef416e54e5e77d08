import AccessPolicy.Catalog.Declaration
import AccessPolicy.Proofs.Catalog.Step

/-!
Runs of a catalog. An operation may come with any arguments, permissions of other catalogs among
them, and may be refused; a run is any sequence of operations on an empty catalog.
-/
namespace AccessPolicy

/-- A call that may change a catalog. -/
inductive Operation where
  | define (d : Definition)
  | register (owner name : String) (parent : Option Permission) (scopes : List Scope)
  | registerGroup (owner title : String)
  | registerScope (kind : String) (containers : List Scope)
  | setEnabled (id : String) (enabled : Bool)

namespace Catalog

variable {c c' : Catalog} {p q : Permission}

/-- The catalog after a call, whether it succeeds or fails. -/
def apply (c : Catalog) : Operation → Catalog
  | .define d => (c.enter d).1
  | .register owner name parent scopes => (c.enter { owner, name, parent, scopes }).1
  | .registerGroup owner title => (c.registerGroup owner title).toOption.getD c
  | .registerScope kind containers => ((c.registerScope kind containers).map (·.2)).toOption.getD c
  | .setEnabled id enabled => (c.setEnabled id enabled).toOption.getD c

def run (c : Catalog) (ops : List Operation) : Catalog := ops.foldl apply c

/-- The catalogs that come about. -/
def Reachable (c : Catalog) : Prop := ∃ ops : List Operation, c = run { serial := c.serial } ops

@[simp] theorem run_nil (c : Catalog) : c.run [] = c := rfl
@[simp] theorem run_cons (c : Catalog) (op : Operation) (ops : List Operation) :
    c.run (op :: ops) = (c.apply op).run ops := rfl
theorem run_append (c : Catalog) (ops more : List Operation) :
    c.run (ops ++ more) = (c.run ops).run more := List.foldl_append

theorem issue_self (c : Catalog) (d : Definition) (parent : Option Permission) :
    (c.issue d parent).self = ⟨c.serial, d.owner, d.name, d.description, d.scopes⟩ := by
  cases parent <;> rfl

theorem issue_parent? (c : Catalog) (d : Definition) (parent : Option Permission) :
    (c.issue d parent).parent? = parent := by
  cases parent <;> rfl

theorem issue_admitted {d : Definition} {parent : Option Permission}
    (ho : validOwner d.owner = true) (hn : validName d.name = true)
    (hf : c.find? d.owner d.name = none) (hp : ∀ q, parent = some q → q ∈ c.all) :
    c.Admits (c.issue d parent) := by
  have hs := c.issue_self d parent
  refine ⟨?_, ?_, ?_, ?_, ?_⟩
  · simp [Permission.issuer, hs]
  · simpa [Permission.owner, hs] using ho
  · simpa [Permission.name, hs] using hn
  · simpa [Permission.owner, Permission.name, hs] using hf
  · simpa only [issue_parent?] using hp

/-- A name that is taken changes nothing, and under any other the permission is listed. -/
theorem enterUnder_eq (h : c.WellFormed) (d : Definition) (parent : Option Permission) :
    c.enterUnder d parent =
      if (c.find? d.owner d.name).isSome = true then
        (c, .error (.duplicate (d.owner ++ "." ++ d.name)))
      else (c.append (c.issue d parent) d.enabled, .ok (c.issue d parent)) := by
  have hw : (c.alterGroup d.owner fun g => g).WellFormed :=
    wellFormed_alterGroup h (fun _ => rfl) fun _ => rfl
  have hfind : (c.alterGroup d.owner fun g => g).find? d.owner d.name = c.find? d.owner d.name := by
    rw [hw.find?_eq, h.find?_eq, all_alterGroup]
  have howner : (c.issue d parent).owner = d.owner := by simp [Permission.owner, issue_self]
  rw [enterUnder, hfind]
  cases hf : c.find? d.owner d.name with
  | some q =>
    rw [alterGroup_id h hf]
  | none =>
    have hi : (c.alterGroup d.owner fun g => g).issue d parent = c.issue d parent := rfl
    have ha := c.append_alterGroup_id (c.issue d parent) d.enabled
    rw [howner] at ha
    rw [hi, ha]
    rfl

/-- Under a listed parent, either the name is taken and nothing changes, or the permission is
listed. -/
theorem enterUnder_cases (h : c.WellFormed) {d : Definition} {parent : Option Permission}
    (ho : validOwner d.owner = true) (hn : validName d.name = true)
    (hp : ∀ q, parent = some q → q ∈ c.all) :
    c.enterUnder d parent = (c, .error (.duplicate (d.owner ++ "." ++ d.name))) ∨
      c.Admits (c.issue d parent) ∧
        c.enterUnder d parent =
          (c.append (c.issue d parent) d.enabled, .ok (c.issue d parent)) := by
  rw [enterUnder_eq h]
  cases hf : c.find? d.owner d.name with
  | some q => exact .inl rfl
  | none => exact .inr ⟨issue_admitted ho hn hf hp, rfl⟩

theorem issue_id (c : Catalog) (d : Definition) (parent : Option Permission) :
    (c.issue d parent).id = d.owner ++ "." ++ d.name := by
  simp only [Permission.id, Permission.owner, Permission.name, issue_self]

/-- A definition that is refused changes nothing; any other lists one permission at the end, below the
parent that it names. -/
theorem enter_cases (h : c.WellFormed) (d : Definition) :
    (∃ e, c.enter d = (c, .error e)) ∨
      ∃ p, p.id = d.owner ++ "." ++ d.name ∧
        p.parent?.map Permission.id = d.parent.map Permission.id ∧ c.Admits p ∧
        c.enter d = (c.append p d.enabled, .ok p) := by
  by_cases ho : validOwner d.owner = true
  · by_cases hn : validName d.name = true
    · cases hd : d.parent with
      | none =>
        have hu : c.enter d = c.enterUnder d none := by simp [enter, ho, hn, hd]
        have hm : ∀ r, none = some r → r ∈ c.all := by
          intro r hr
          cases hr
        rcases enterUnder_cases h ho hn hm with he | ⟨hp, he⟩
        · exact .inl ⟨_, hu.trans he⟩
        · have hi : (c.issue d none).parent?.map Permission.id = none := by rw [issue_parent?]; rfl
          exact .inr ⟨_, c.issue_id d none, hi, hp, hu.trans he⟩
      | some q =>
        cases hq : c.own? q with
        | none =>
          refine .inl ⟨.unknownParent (d.owner ++ "." ++ d.name) q.id, ?_⟩
          simp [enter, ho, hn, hd, hq]
        | some parent =>
          have hu : c.enter d = c.enterUnder d (some parent) := by simp [enter, ho, hn, hd, hq]
          have hm : ∀ r, some parent = some r → r ∈ c.all := by
            intro r hr
            cases hr
            exact h.mem_of_own? hq
          rcases enterUnder_cases h ho hn hm with he | ⟨hp, he⟩
          · exact .inl ⟨_, hu.trans he⟩
          · have hi : (c.issue d (some parent)).parent?.map Permission.id = some q.id := by
              rw [issue_parent?, Option.map_some, h.id_of_own? hq]
            exact .inr ⟨_, c.issue_id d (some parent), hi, hp, hu.trans he⟩
    · exact .inl ⟨.invalidName d.name, by simp [enter, ho, hn]⟩
  · exact .inl ⟨.invalidOwner d.owner, by simp [enter, ho]⟩

theorem step_enter (h : c.WellFormed) (d : Definition) : Step c (c.enter d).1 := by
  rcases enter_cases h d with ⟨e, he⟩ | ⟨p, -, -, hp, he⟩
  · rw [he]
    exact .refused
  · rw [he]
    exact .listed p d.enabled hp

/-- A definition that goes through lists its permission under its id, below the parent it names. -/
theorem lookup_define (h : c.WellFormed) {d : Definition} (hd : c.define d = .ok (p, c')) :
    c'.lookup (d.owner ++ "." ++ d.name) = some p ∧
      p.parent?.map Permission.id = d.parent.map Permission.id := by
  rcases enter_cases h d with ⟨e, he⟩ | ⟨q, hq, hparent, ha, he⟩
  · simp [define, he] at hd
  · simp only [define, he, Except.ok.injEq, Prod.mk.injEq] at hd
    obtain ⟨rfl, rfl⟩ := hd
    have hw := wellFormed_append h ha d.enabled
    exact ⟨hw.lookup_eq_some_iff.2 ⟨by simp, hq⟩, hparent⟩

theorem sameListing_setEnabled {id : String} {enabled : Bool}
    (h : c.setEnabled id enabled = .ok c') : c.SameListing c' := by
  have ha := all_setEnabled h
  unfold setEnabled at h
  cases hp : c.lookup id with
  | none => simp [hp] at h
  | some p =>
    simp only [hp, Except.ok.injEq] at h
    subst h
    exact ⟨rfl, ha, rfl, rfl⟩

theorem step_apply (h : c.WellFormed) (op : Operation) : Step c (c.apply op) := by
  cases op with
  | define d => exact step_enter h d
  | register owner name parent scopes => exact step_enter h _
  | registerGroup owner title =>
    by_cases ho : validOwner owner = true
    · simpa [apply, registerGroup, ho, Except.toOption] using Step.titled owner title
    · simpa [apply, registerGroup, ho, Except.toOption] using Step.refused
  | registerScope kind containers =>
    by_cases hk : (c.scope? kind).isSome = true
    · simpa [apply, registerScope, hk, Except.toOption, Except.map] using Step.refused
    · simpa [apply, registerScope, hk, Except.toOption, Except.map] using
        Step.scopeListed (.mk kind containers)
  | setEnabled id enabled =>
    cases he : c.setEnabled id enabled with
    | error e => simpa [apply, he, Except.toOption] using Step.refused
    | ok c' => simpa [apply, he, Except.toOption] using Step.shown c' (sameListing_setEnabled he)

theorem WellFormed.run (h : c.WellFormed) (ops : List Operation) : (c.run ops).WellFormed := by
  induction ops generalizing c with
  | nil => exact h
  | cons op ops ih => exact ih ((step_apply h op).wellFormed h)

theorem WellFormed.extends_run (h : c.WellFormed) (ops : List Operation) :
    c.Extends (c.run ops) := by
  induction ops generalizing c with
  | nil => exact .refl c
  | cons op ops ih =>
    have hs := step_apply h op
    exact hs.extends.trans (ih (hs.wellFormed h))

/-- What an id leads to, no later operation changes. -/
theorem WellFormed.lookup_run (h : c.WellFormed) (ops : List Operation) {s : String}
    (hp : c.lookup s = some p) : (c.run ops).lookup s = some p :=
  (h.extends_run ops).lookup h (h.run ops) hp

theorem apply_define {d : Definition} (h : c.define d = .ok (p, c')) :
    c.apply (.define d) = c' := by
  rw [define] at h
  rw [apply]
  cases he : c.enter d with
  | mk c'' r =>
    cases r with
    | error e => simp [he] at h
    | ok q =>
      simp only [he, Except.ok.injEq, Prod.mk.injEq] at h
      exact h.2

/-- To declare a permission is to define it, under the parent that the declaration names. -/
theorem define_of_declare {owner name : String} {description parent : Option String}
    {enabled : Bool} {scopes : List String}
    (h : c.declare (.permission owner name description parent enabled scopes) = .ok c') :
    ∃ q p, parent.map c.lookup = q.map some ∧
      c.define ⟨owner, name, description, q, enabled, c.scopesOf scopes⟩ = .ok (p, c') := by
  have hdefine : ∀ e : Definition, (c.define e).map (·.2) = .ok c' →
      ∃ p, c.define e = .ok (p, c') := by
    intro e he
    cases hd : c.define e with
    | error _ => simp [hd, Except.map] at he
    | ok r =>
      simp only [hd, Except.map, Except.ok.injEq] at he
      exact ⟨r.1, by rw [← he]⟩
  cases parent with
  | none =>
    obtain ⟨p, hp⟩ := hdefine _ h
    exact ⟨none, p, rfl, hp⟩
  | some id =>
    cases hq : c.lookup id with
    | none => simp [declare, hq] at h
    | some q =>
      obtain ⟨p, hp⟩ := hdefine ⟨owner, name, description, some q, enabled, c.scopesOf scopes⟩
        (by simpa [declare, hq] using h)
      exact ⟨some q, p, congrArg some hq, hp⟩

theorem declare_eq_apply {d : Declaration} (h : c.declare d = .ok c') :
    ∃ op, c' = c.apply op := by
  cases d with
  | permission owner name description parent enabled scopes =>
    obtain ⟨q, p, -, hd⟩ := define_of_declare h
    exact ⟨_, (apply_define hd).symm⟩
  | group owner title =>
    have hg : c.registerGroup owner title = .ok c' := h
    exact ⟨.registerGroup owner title, by simp [apply, hg, Except.toOption]⟩
  | scope kind containers =>
    have hs : (c.registerScope kind (c.scopesOf containers)).map (·.2) = .ok c' := h
    exact ⟨.registerScope kind (c.scopesOf containers), by simp [apply, hs, Except.toOption]⟩
  | visibility id enabled =>
    have hv : c.setEnabled id enabled = .ok c' := h
    exact ⟨.setEnabled id enabled, by simp [apply, hv, Except.toOption]⟩

/-- Declarations are carried out by a run, also when one of them fails. -/
theorem install_eq_run (c : Catalog) (ds : List Declaration) :
    ∃ ops, (c.install ds).1 = c.run ops := by
  induction ds generalizing c with
  | nil => exact ⟨[], rfl⟩
  | cons d ds ih =>
    cases hd : c.declare d with
    | error e => exact ⟨[], by simp [install, hd]⟩
    | ok c' =>
      obtain ⟨op, rfl⟩ := declare_eq_apply hd
      obtain ⟨ops, ho⟩ := ih (c.apply op)
      exact ⟨op :: ops, by simp [install, hd, ho]⟩

theorem WellFormed.install (h : c.WellFormed) (ds : List Declaration) :
    (c.install ds).1.WellFormed := by
  obtain ⟨ops, ho⟩ := install_eq_run c ds
  rw [ho]
  exact h.run ops

/-- Once all declarations went through, every declared permission is found under its id, below the
parent that its declaration names. -/
theorem WellFormed.lookup_install (h : c.WellFormed) {ds : List Declaration}
    (hi : c.install ds = (c', none)) {owner name : String} {description parent : Option String}
    {enabled : Bool} {scopes : List String}
    (hm : .permission owner name description parent enabled scopes ∈ ds) :
    ∃ p, c'.lookup (owner ++ "." ++ name) = some p ∧ p.parent?.map Permission.id = parent := by
  induction ds generalizing c with
  | nil => cases hm
  | cons d ds ih =>
    cases hd : c.declare d with
    | error e => simp [Catalog.install, hd] at hi
    | ok c'' =>
      have hi' : c''.install ds = (c', none) := by simpa [Catalog.install, hd] using hi
      obtain ⟨op, hop⟩ := declare_eq_apply hd
      have hw : c''.WellFormed := hop ▸ (step_apply h op).wellFormed h
      rcases List.mem_cons.1 hm with rfl | hm
      · obtain ⟨q, p, hq, hdef⟩ := define_of_declare hd
        obtain ⟨hp, hparent⟩ := lookup_define h hdef
        -- what follows in the list does not change what the id leads to
        obtain ⟨ops, ho⟩ := install_eq_run c'' ds
        have hc : c' = c''.run ops := by simpa only [hi'] using ho
        rw [hc]
        exact ⟨p, hw.lookup_run ops hp, hparent.trans (h.map_id_of_lookup hq)⟩
      · exact ih hw hi' hm

theorem Reachable.wellFormed (h : c.Reachable) : c.WellFormed := by
  obtain ⟨ops, ho⟩ := h
  rw [ho]
  exact (wellFormed_empty _).run ops

theorem reachable_run (serial : Nat) (ops : List Operation) : (run { serial } ops).Reachable :=
  ⟨ops, by rw [((wellFormed_empty serial).extends_run ops).serial]⟩

theorem reachable_install (serial : Nat) (ds : List Declaration) :
    (install { serial } ds).1.Reachable := by
  obtain ⟨ops, ho⟩ := install_eq_run { serial } ds
  rw [ho]
  exact reachable_run serial ops

/-- A catalog of two permissions, one of them of an owner with a dot. -/
def jobs : Catalog :=
  run { serial := 0 } [.register "job" "Read" none [], .register "job.team" "Build" none []]

theorem reachable_jobs : jobs.Reachable := reachable_run 0 _

/-- The list of all permissions, the groups and the ids tell the same story. -/
structure Coherent (c : Catalog) : Prop where
  ids_nodup : (c.all.map Permission.id).Nodup
  id_parts : ∀ p ∈ c.all, p.id = p.owner ++ "." ++ p.name ∧ p.owner ≠ "" ∧
    ':' ∉ p.owner.toList ∧ IsIdentifier p.name
  lookup_iff : ∀ s p, c.lookup s = some p ↔ p ∈ c.all ∧ p.id = s
  owners_ascending : (c.groups.map Group.owner).Pairwise (· < ·)
  group_iff : ∀ owner g, c.group? owner = some g ↔ g ∈ c.groups ∧ g.owner = owner
  group_lists : ∀ g ∈ c.groups, g.permissions = c.all.filter fun p => p.owner == g.owner
  grouped : ∀ p ∈ c.all, ∃ g ∈ c.groups, g.owner = p.owner
  /-- The very parent, not one that looks like it, is listed at a smaller position. -/
  parent_before : ∀ (i : Nat) (p q : Permission), c.all[i]? = some p → p.parent? = some q →
    ∃ j, j < i ∧ c.all[j]? = some q
  chain_closed : ∀ p ∈ c.all, p.chainIds.Nodup ∧ ∀ q ∈ p.chain, q ∈ c.all ∧ q.issuer = c.serial

theorem WellFormed.group?_eq_some_iff (h : c.WellFormed) {owner : String} {g : Group} :
    c.group? owner = some g ↔ g ∈ c.groups ∧ g.owner = owner := by
  constructor
  · exact Keyed.mem_of_find?
  · rintro ⟨hg, rfl⟩
    exact Keyed.find?_of_mem h.groups_sorted hg

theorem WellFormed.permissions_eq (h : c.WellFormed) {g : Group} (hg : g ∈ c.groups) :
    g.permissions = c.all.filter fun p => p.owner == g.owner := by
  rw [← h.grouped g.owner, h.group?_eq_some_iff.2 ⟨hg, rfl⟩]
  rfl

theorem WellFormed.exists_group (h : c.WellFormed) (hp : p ∈ c.all) :
    ∃ g ∈ c.groups, g.owner = p.owner := by
  cases hg : c.group? p.owner with
  | some g => exact ⟨g, h.group?_eq_some_iff.1 hg⟩
  | none =>
    have hm : p ∈ c.all.filter fun q => q.owner == p.owner := List.mem_filter.2 ⟨hp, by simp⟩
    rw [← h.grouped, hg] at hm
    cases hm

theorem WellFormed.coherent (h : c.WellFormed) : c.Coherent where
  ids_nodup := h.ids_nodup
  id_parts p hp :=
    have ho := validOwner_iff.1 (h.owner_valid p hp)
    ⟨rfl, ho.1, ho.2, validName_iff.1 (h.name_valid p hp)⟩
  lookup_iff _ _ := h.lookup_eq_some_iff
  owners_ascending := by
    have hs := h.groups_sorted
    simpa only [Keyed.Sorted, Ascending, Text.before, decide_eq_true_eq] using hs
  group_iff _ _ := h.group?_eq_some_iff
  group_lists _ hg := h.permissions_eq hg
  grouped _ hp := h.exists_group hp
  parent_before := h.parent_before
  chain_closed p hp := by
    refine ⟨h.chainIds_nodup hp, ?_⟩
    intro q hq
    have hm := h.chain_mem hp hq
    exact ⟨hm, h.issued q hm⟩

/-- After any run on an empty catalog its views agree, and no later operation changes what an id
leads to, nor the chain of what it leads to. -/
theorem run_coherent (serial : Nat) (ops : List Operation) :
    (run { serial } ops).Coherent ∧
      ∀ (more : List Operation) (s : String) (p : Permission),
        (run { serial } ops).lookup s = some p →
          (run { serial } (ops ++ more)).lookup s = some p := by
  have h := (wellFormed_empty serial).run ops
  refine ⟨h.coherent, ?_⟩
  intro more s p hp
  rw [run_append]
  exact h.lookup_run more hp

end Catalog

end AccessPolicy
