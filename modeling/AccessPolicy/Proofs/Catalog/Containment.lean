import AccessPolicy.Proofs.Catalog.Refusal
import Mathlib.Logic.Relation

/-!
Containment of scopes. A scope holds the scopes that it was declared in, and the way through them tells
scopes apart by their kind alone. As long as every scope is registered in scopes of the same catalog, a
kind stands for one scope there; then containment is a partial order, the one that the declared
containers generate, and no later call changes what has once been answered.
-/
namespace AccessPolicy

namespace Scope

variable {s t u : Scope}

/-- From `s` the declared containers lead to `t`, in any number of steps. -/
def LiesIn : Scope → Scope → Prop := Relation.ReflTransGen fun inner outer => outer ∈ inner.containers

theorem sizeOf_lt_of_mem_containers (h : t ∈ s.containers) : sizeOf t < sizeOf s := by
  cases s with
  | mk k cs =>
    have := List.sizeOf_lt_of_mem (show t ∈ cs from h)
    simp only [mk.sizeOf_spec]
    omega

/-- What passes from all containers of a scope to the scope itself holds of every scope. -/
theorem induction_on_containers {P : Scope → Prop} (h : ∀ s, (∀ t ∈ s.containers, P t) → P s)
    (s : Scope) : P s :=
  h s fun t _ => induction_on_containers h t
termination_by sizeOf s
decreasing_by exact sizeOf_lt_of_mem_containers ‹_›

/-- The way through the containers finds the kinds of the scopes that it can reach. -/
theorem isWithin_iff (s : Scope) (outer : String) :
    s.isWithin outer = true ↔ ∃ t, s.LiesIn t ∧ t.kind = outer := by
  induction s using induction_on_containers with
  | h s ih =>
    rw [isWithin_eq, Bool.or_eq_true, beq_iff_eq, List.any_eq_true]
    constructor
    · rintro (hk | ⟨c, hc, hw⟩)
      · exact ⟨s, .refl, hk⟩
      · obtain ⟨t, ht, hk⟩ := (ih c hc).1 hw
        exact ⟨t, ht.head hc, hk⟩
    · rintro ⟨t, ht, hk⟩
      rcases ht.cases_head with rfl | ⟨c, hc, hct⟩
      · exact .inl hk
      · exact .inr ⟨c, hc, (ih c hc).2 ⟨t, hct, hk⟩⟩

/-- A scope is complete before another one can be declared in it, so no way leads back. -/
theorem LiesIn.eq_or_sizeOf_lt (h : s.LiesIn t) : s = t ∨ sizeOf t < sizeOf s := by
  induction h with
  | refl => exact .inl rfl
  | tail _ hc ih =>
    have hlt := sizeOf_lt_of_mem_containers hc
    rcases ih with rfl | ih
    · exact .inr hlt
    · exact .inr (Nat.lt_trans hlt ih)

theorem LiesIn.antisymm (h : s.LiesIn t) (h' : t.LiesIn s) : s = t := by
  rcases h.eq_or_sizeOf_lt with he | hlt
  · exact he
  · rcases h'.eq_or_sizeOf_lt with he | hlt'
    · exact he.symm
    · omega

end Scope

/-- The containers that the call names, if it registers a scope, are scopes of the catalog. -/
def Operation.RestsOn (c : Catalog) : Operation → Prop
  | .registerScope _ containers => containers ⊆ c.scopes
  | _ => True

namespace Catalog

variable {c c' : Catalog} {s t : Scope} {ops : List Operation}

/-- At every call of the run the containers that it names are scopes that the catalog then has. -/
def Grounded (c : Catalog) : List Operation → Prop
  | [] => True
  | op :: ops => op.RestsOn c ∧ (c.apply op).Grounded ops

/-- A kind stands for one scope, and the containers of a scope are scopes of the catalog too. -/
structure WellScoped (c : Catalog) : Prop where
  kinds_nodup : (c.scopes.map Scope.kind).Nodup
  closed : ∀ s ∈ c.scopes, s.containers ⊆ c.scopes

theorem scopes_enter (h : c.WellFormed) (d : Definition) : (c.enter d).1.scopes = c.scopes := by
  rcases enter_cases h d with ⟨e, he⟩ | ⟨p, -, -, -, he⟩ <;> rw [he]
  rfl

/-- The scope that a call adds, if it is one that registers a scope and goes through. -/
def newScope? (c : Catalog) : Operation → Option Scope
  | .registerScope kind containers => if (c.scope? kind).isSome then none else some (.mk kind containers)
  | _ => none

theorem scopes_apply (h : c.WellFormed) (op : Operation) :
    (c.apply op).scopes = c.scopes ++ (c.newScope? op).toList := by
  cases op with
  | define d => simp [apply, newScope?, scopes_enter h]
  | register owner name parent scopes => simp [apply, newScope?, scopes_enter h]
  | registerGroup owner title =>
    cases hv : validOwner owner <;>
      simp [apply, registerGroup, newScope?, hv, Except.toOption, alterGroup]
  | registerScope kind containers =>
    cases hk : (c.scope? kind).isSome <;>
      simp [apply, registerScope, newScope?, hk, Except.toOption, Except.map]
  | setEnabled id enabled =>
    cases he : c.setEnabled id enabled with
    | error e => simp [apply, newScope?, he, Except.toOption]
    | ok c' => simp [apply, newScope?, he, Except.toOption, (sameListing_setEnabled he).scopes]

theorem newScope?_eq_some_iff {op : Operation} :
    c.newScope? op = some s ↔
      op = .registerScope s.kind s.containers ∧ s.kind ∉ c.scopes.map Scope.kind := by
  have htaken : ∀ kind, (c.scope? kind).isSome = true ↔ kind ∈ c.scopes.map Scope.kind :=
    fun _ => scope?_isSome_iff
  cases op with
  | registerScope kind containers =>
    rw [newScope?, Operation.registerScope.injEq]
    by_cases hk : kind ∈ c.scopes.map Scope.kind
    · rw [if_pos ((htaken kind).2 hk)]
      constructor
      · intro hs
        cases hs
      · rintro ⟨⟨rfl, -⟩, hn⟩
        exact absurd hk hn
    · rw [if_neg (mt (htaken kind).1 hk), Option.some.injEq]
      constructor
      · rintro rfl
        exact ⟨⟨rfl, rfl⟩, hk⟩
      · rintro ⟨⟨rfl, rfl⟩, -⟩
        cases s
        rfl
  | define d => simp [newScope?]
  | register owner name parent scopes => simp [newScope?]
  | registerGroup owner title => simp [newScope?]
  | setEnabled id enabled => simp [newScope?]

theorem wellScoped_empty (serial : Nat) : ({ serial } : Catalog).WellScoped :=
  ⟨List.nodup_nil, fun _ hs => absurd hs List.not_mem_nil⟩

/-- A scope that is declared in scopes of the catalog keeps it well scoped, and any other call does. -/
theorem WellScoped.apply (hs : c.WellScoped) (h : c.WellFormed) {op : Operation} (ho : op.RestsOn c) :
    (c.apply op).WellScoped := by
  have happly := scopes_apply h op
  cases hn : c.newScope? op with
  | none =>
    rw [hn, Option.toList_none, List.append_nil] at happly
    exact ⟨happly ▸ hs.kinds_nodup, happly ▸ hs.closed⟩
  | some s =>
    rw [hn, Option.toList_some] at happly
    obtain ⟨rfl, hfree⟩ := newScope?_eq_some_iff.1 hn
    refine ⟨?_, ?_⟩
    · rw [happly, List.map_append, List.map_singleton, ← List.concat_eq_append]
      exact hs.kinds_nodup.concat hfree
    · intro t ht
      rw [happly] at ht ⊢
      refine List.Subset.trans ?_ (List.subset_append_left _ _)
      rcases List.mem_append.1 ht with ht | ht
      · exact hs.closed t ht
      · obtain rfl := List.mem_singleton.1 ht
        exact ho

theorem WellScoped.run (hs : c.WellScoped) (h : c.WellFormed) (hg : c.Grounded ops) :
    (c.run ops).WellScoped := by
  induction ops generalizing c with
  | nil => exact hs
  | cons op ops ih =>
    exact ih (hs.apply h hg.1) ((step_apply h op).wellFormed h) hg.2

/-- Scopes are only added, behind those that are there. -/
theorem scopes_prefix_run (h : c.WellFormed) (ops : List Operation) :
    c.scopes <+: (c.run ops).scopes := by
  induction ops generalizing c with
  | nil => exact List.prefix_rfl
  | cons op ops ih =>
    have happly : c.scopes <+: (c.apply op).scopes := ⟨_, (scopes_apply h op).symm⟩
    exact happly.trans (ih ((step_apply h op).wellFormed h))

/-- A scope is there from the beginning or because a call registered it with its containers. -/
theorem mem_scopes_run_iff (h : c.WellFormed) (ops : List Operation) :
    s ∈ (c.run ops).scopes ↔
      s ∈ c.scopes ∨ .registerScope s.kind s.containers ∈ c.accepted ops := by
  induction ops generalizing c with
  | nil => simp [accepted]
  | cons op ops ih =>
    have hadds : s ∈ (c.apply op).scopes ↔ s ∈ c.scopes ∨ c.newScope? op = some s := by
      rw [scopes_apply h, List.mem_append, Option.mem_toList]
    have happly := h.apply_eq op
    rw [run_cons, ih ((step_apply h op).wellFormed h), hadds, newScope?_eq_some_iff, accepted]
    cases hop : c.attempt op with
    | error e =>
      rw [hop] at happly
      rw [happly]
      refine or_congr_left (or_iff_left ?_)
      rintro ⟨rfl, hfree⟩
      -- the catalog refuses to register a scope only if it has one of the kind
      cases h.attempt_eq_error_iff.1 hop with
      | scopeTaken hk => exact hfree hk
    | ok c' =>
      rw [hop] at happly
      rw [happly, List.mem_cons, or_assoc]
      refine or_congr_right (or_congr_left ?_)
      constructor
      · exact fun hn => hn.1.symm
      · rintro rfl
        refine ⟨rfl, fun hk => ?_⟩
        rw [h.attempt_eq_error_iff.2 (.scopeTaken hk)] at hop
        cases hop

theorem scope?_run (h : c.WellFormed) (ops : List Operation) {kind : String}
    (hs : c.scope? kind = some s) : (c.run ops).scope? kind = some s := by
  obtain ⟨more, hmore⟩ := scopes_prefix_run h ops
  rw [scope?, ← hmore, List.find?_append, ← scope?, hs]
  rfl

namespace WellScoped

theorem eq_of_kind_eq (hc : c.WellScoped) (hs : s ∈ c.scopes) (ht : t ∈ c.scopes)
    (hk : s.kind = t.kind) : s = t :=
  List.inj_on_of_nodup_map hc.kinds_nodup hs ht hk

theorem scope?_eq_some_iff (hc : c.WellScoped) {kind : String} :
    c.scope? kind = some s ↔ s ∈ c.scopes ∧ s.kind = kind := by
  constructor
  · intro hs
    exact ⟨List.mem_of_find?_eq_some hs, by simpa using List.find?_some hs⟩
  · rintro ⟨hs, rfl⟩
    obtain ⟨t, ht⟩ := Option.isSome_iff_exists.1 (scope?_isSome_iff.2 (List.mem_map_of_mem hs))
    have hkind : t.kind = s.kind := by simpa using List.find?_some ht
    rw [ht, hc.eq_of_kind_eq (List.mem_of_find?_eq_some ht) hs hkind]

theorem mem_of_liesIn (hc : c.WellScoped) (hs : s ∈ c.scopes) (h : s.LiesIn t) : t ∈ c.scopes := by
  induction h with
  | refl => exact hs
  | tail _ hmem ih => exact hc.closed _ ih hmem

/-- Among the scopes of the catalog the kind is as good as the scope itself. -/
theorem isWithin_iff_liesIn (hc : c.WellScoped) (hs : s ∈ c.scopes) (ht : t ∈ c.scopes) :
    s.isWithin t.kind = true ↔ s.LiesIn t := by
  rw [Scope.isWithin_iff]
  constructor
  · rintro ⟨u, hu, hk⟩
    rwa [← hc.eq_of_kind_eq (hc.mem_of_liesIn hs hu) ht hk]
  · exact fun h => ⟨t, h, rfl⟩

theorem isWithin_trans (hc : c.WellScoped) {outer : String} (hs : s ∈ c.scopes) (ht : t ∈ c.scopes)
    (hst : s.isWithin t.kind = true) (hto : t.isWithin outer = true) : s.isWithin outer = true := by
  obtain ⟨u, htu, hk⟩ := (t.isWithin_iff outer).1 hto
  exact (s.isWithin_iff outer).2 ⟨u, ((hc.isWithin_iff_liesIn hs ht).1 hst).trans htu, hk⟩

end WellScoped

/-- Containment orders the scopes of a catalog. -/
structure OrdersScopes (c : Catalog) : Prop where
  scope_iff : ∀ kind s, c.scope? kind = some s ↔ s ∈ c.scopes ∧ s.kind = kind
  /-- Reachability through the declared containers. -/
  within_iff : ∀ s ∈ c.scopes, ∀ t ∈ c.scopes, s.isWithin t.kind = true ↔ s.LiesIn t
  refl : ∀ s ∈ c.scopes, s.isWithin s.kind = true
  trans : ∀ s ∈ c.scopes, ∀ t ∈ c.scopes, ∀ u ∈ c.scopes,
    s.isWithin t.kind = true → t.isWithin u.kind = true → s.isWithin u.kind = true
  antisymm : ∀ s ∈ c.scopes, ∀ t ∈ c.scopes,
    s.isWithin t.kind = true → t.isWithin s.kind = true → s = t
  /-- What applies within a scope applies within every scope around it. -/
  upward : ∀ p : Permission, p.scopes ⊆ c.scopes → ∀ s ∈ c.scopes, ∀ t ∈ c.scopes,
    p.isWithin s.kind = true → s.isWithin t.kind = true → p.isWithin t.kind = true

theorem WellScoped.ordersScopes (hc : c.WellScoped) : c.OrdersScopes where
  scope_iff _ _ := hc.scope?_eq_some_iff
  within_iff _ hs _ ht := hc.isWithin_iff_liesIn hs ht
  refl s _ := s.isWithin_self
  trans _ hs _ ht _ _ := hc.isWithin_trans hs ht
  antisymm _ hs _ ht hst hts :=
    ((hc.isWithin_iff_liesIn hs ht).1 hst).antisymm ((hc.isWithin_iff_liesIn ht hs).1 hts)
  upward p hp s hs t _ hps hst := by
    obtain ⟨own, hown, hw⟩ := List.any_eq_true.1 hps
    exact List.any_eq_true.2 ⟨own, hown, hc.isWithin_trans (hp hown) hs hw hst⟩

/-- Whether the scope of one kind lies within the scope of another, if both are registered. -/
def within? (c : Catalog) (inner outer : String) : Option Bool :=
  (c.scope? inner).bind fun s => (c.scope? outer).map fun t => s.isWithin t.kind

/-- Whether the permission called `id` applies within the scope of a kind, if both are registered. -/
def applies? (c : Catalog) (id outer : String) : Option Bool :=
  (c.lookup id).bind fun p => (c.scope? outer).map fun t => p.isWithin t.kind

/-- No call, whatever it registers, changes an answer that a catalog has given. -/
structure KeepsAnswers (c c' : Catalog) : Prop where
  within : ∀ inner outer b, c.within? inner outer = some b → c'.within? inner outer = some b
  applies : ∀ id outer b, c.applies? id outer = some b → c'.applies? id outer = some b

theorem WellFormed.keepsAnswers_run (h : c.WellFormed) (ops : List Operation) :
    c.KeepsAnswers (c.run ops) where
  within inner outer b hb := by
    obtain ⟨s, hs, hm⟩ := Option.bind_eq_some_iff.1 hb
    obtain ⟨t, ht, rfl⟩ := Option.map_eq_some_iff.1 hm
    simp only [within?, scope?_run h ops hs, scope?_run h ops ht, Option.bind_some, Option.map_some]
  applies id outer b hb := by
    obtain ⟨p, hp, hm⟩ := Option.bind_eq_some_iff.1 hb
    obtain ⟨t, ht, rfl⟩ := Option.map_eq_some_iff.1 hm
    simp only [applies?, h.lookup_run ops hp, scope?_run h ops ht, Option.bind_some, Option.map_some]

/-- In a catalog whose scopes were registered in each other, containment is the partial order that the
containers of the accepted calls generate, and it stays what it is. -/
theorem ordersScopes_run (serial : Nat) (ops : List Operation) (hg : Grounded { serial } ops) :
    (run { serial } ops).OrdersScopes ∧
      (∀ s, s ∈ (run { serial } ops).scopes ↔
        .registerScope s.kind s.containers ∈ accepted { serial } ops) ∧
      ∀ more, (run { serial } ops).KeepsAnswers (run { serial } (ops ++ more)) := by
  have h : ({ serial } : Catalog).WellFormed := wellFormed_empty serial
  refine ⟨((wellScoped_empty serial).run h hg).ordersScopes, ?_, ?_⟩
  · intro s
    rw [mem_scopes_run_iff h ops]
    exact or_iff_right List.not_mem_nil
  · intro more
    rw [run_append]
    exact (h.run ops).keepsAnswers_run more

def site : Scope := .mk "site" []
def folder : Scope := .mk "folder" [site]
def view : Scope := .mk "view" [site]
def job : Scope := .mk "job" [folder, view]

/-- Two ways lead from a job to the site. The view that contains the job is refused. -/
def layout : List Operation :=
  [.registerScope "site" [], .registerScope "folder" [site], .registerScope "view" [site],
    .registerScope "job" [folder, view], .registerScope "view" [job]]

/-- No way leads back, and declaring the site once more, in a job, does not make one. -/
theorem ordersScopes_run_layout : Grounded { serial := 0 } layout ∧ job.LiesIn site ∧
    ¬ site.LiesIn job ∧
    (run { serial := 0 } (layout ++ [.registerScope "site" [job]])).within? "site" "job" =
      some false := by
  have hg : Grounded { serial := 0 } layout := by
    simp [Grounded, layout, Operation.RestsOn, apply, registerScope, scope?, Except.toOption,
      Except.map, site, folder, view, job]
  obtain ⟨horder, -, hkeeps⟩ := ordersScopes_run 0 layout hg
  have hjob := ((horder.scope_iff "job" job).1 rfl).1
  have hsite := ((horder.scope_iff "site" site).1 rfl).1
  have hin : job.isWithin site.kind = true := by decide
  refine ⟨hg, (horder.within_iff job hjob site hsite).1 hin, ?_, ?_⟩
  · intro hback
    have hout := (horder.within_iff site hsite job hjob).2 hback
    have he := congrArg Scope.kind (horder.antisymm job hjob site hsite hin hout)
    exact absurd he (by decide)
  · exact (hkeeps [.registerScope "site" [job]]).within "site" "job" false rfl

-- A job that is declared in the folder of another catalog lies in no site, though folders here do.
example :
    let c := run { serial := 0 } [.registerScope "site" [],
      .registerScope "folder" [.mk "site" []], .registerScope "job" [.mk "folder" []]]
    c.within? "job" "folder" = some true ∧ c.within? "folder" "site" = some true ∧
      c.within? "job" "site" = some false :=
  ⟨rfl, rfl, rfl⟩

end Catalog

end AccessPolicy
