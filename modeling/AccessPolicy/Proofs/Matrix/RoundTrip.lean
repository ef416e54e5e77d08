import AccessPolicy.Proofs.Matrix.Listing

/-!
Matrices that calls put together. A call may grant to any token, also to one whose name is lost when
its line is trimmed or refused. A matrix is read back from its lines if and only if it holds no such
grant, but its lines always tell it from every other matrix.
-/
namespace AccessPolicy

variable {c c' : Catalog} {m m' : Matrix} {g : Grant}

/-- What trimming would take from a line are blanks before the id and behind the token. -/
theorem Grant.statedBy_line_iff (hc : ':' ∉ g.permission.toList) :
    g.StatedBy g.line ↔
      (g.sid ≠ "" ∧ ¬ Text.EndsBlank g.sid) ∧ ¬ Text.StartsBlank g.permission := by
  constructor
  · intro h
    obtain ⟨hs, he⟩ := (trim_line_iff h.sid_ne).1 h.trimmed
    exact ⟨⟨h.sid_ne, he⟩, hs⟩
  · rintro ⟨⟨hne, he⟩, hs⟩
    exact ⟨(trim_line_iff hne).2 ⟨hs, he⟩, hc, hne⟩

namespace Matrix

/-- A call that adds to a matrix. -/
inductive Change where
  | grant (p : Permission) (sid : String)
  | line (text : String)
  | migrateRead (read item : Permission)

/-- The permission that the call grants is listed; a line sees to that itself. -/
def Change.Within (c : Catalog) : Change → Prop
  | grant p _ => p ∈ c.all
  | line _ => True
  | migrateRead _ item => item ∈ c.all

def change (c : Catalog) (m : Matrix) : Change → Matrix
  | .grant p sid => m.grant p sid
  | .line text => addLine c m text
  | .migrateRead read item => m.migrateRead read item

/-- The matrix that a sequence of calls makes of the empty one. -/
def build (c : Catalog) (changes : List Change) : Matrix := changes.foldl (change c) empty

theorem over_empty (c : Catalog) : empty.Over c := by
  intro g hg
  cases hg

/-- A line is taken up under an id that was looked up. -/
theorem lists_of_parseLine (h : c.WellFormed) {line : String} (hp : parseLine c line = some g) :
    c.Lists g.permission := by
  unfold parseLine at hp
  split at hp
  · cases hp
  · split at hp
    · cases hp
    · obtain ⟨p, hl, rfl⟩ := Option.map_eq_some_iff.1 hp
      exact ⟨p, (h.lookup_eq_some_iff.1 hl).1, rfl⟩

theorem Over.change (h : c.WellFormed) (hm : m.Over c) {x : Change} (hx : x.Within c) :
    (change c m x).Over c := by
  intro g hg
  cases x with
  | grant p sid =>
    rcases mem_grants_insert.1 hg with rfl | hg
    · exact ⟨p, hx, rfl⟩
    · exact hm g hg
  | line text =>
    rcases mem_addLine.1 hg with hp | hg
    · exact lists_of_parseLine h hp
    · exact hm g hg
  | migrateRead read item =>
    rcases mem_migrateRead.1 hg with hg | ⟨hid, -⟩
    · exact hm g hg
    · exact ⟨item, hx, hid.symm⟩

theorem over_build (h : c.WellFormed) {changes : List Change} (hw : ∀ x ∈ changes, x.Within c) :
    (build c changes).Over c := by
  have hfold : ∀ m : Matrix, m.Over c → (changes.foldl (Matrix.change c) m).Over c := by
    induction changes with
    | nil => exact fun _ hm => hm
    | cons x changes ih =>
      obtain ⟨hx, hw⟩ := List.forall_mem_cons.1 hw
      exact fun m hm => ih hw _ (hm.change h hx)
  exact hfold empty (over_empty c)

/-- Whatever is read from lines is stated by its own line, so nothing else is ever read back. -/
theorem ofLines_toLines_eq_iff (h : c.WellFormed) (hm : m.Over c) :
    ofLines c m.toLines = m ↔ ∀ g ∈ m.grants, g.StatedBy g.line := by
  constructor
  · intro he g hg
    rw [← he, mem_ofLines_iff h] at hg
    obtain ⟨⟨line, -, hs⟩, -⟩ := hg
    exact hs.line
  · intro hs
    exact ofLines_toLines h fun g hg => ⟨hs g hg, hm g hg⟩

theorem grants_subset_of_toLines_eq (hm : ∀ g ∈ m.grants, ':' ∉ g.permission.toList)
    (hm' : ∀ g ∈ m'.grants, ':' ∉ g.permission.toList) (he : m.toLines = m'.toLines) :
    m.grants ⊆ m'.grants := by
  intro g hg
  have hl : g.line ∈ m'.toLines := he ▸ mem_toLines.2 ⟨g, hg, rfl⟩
  obtain ⟨g', hg', hline⟩ := mem_toLines.1 hl
  rw [Grant.line_injective (hm g hg) (hm' g' hg') hline.symm]
  exact hg'

/-- Ids have no colons, so the lines tell the grants. -/
theorem toLines_eq_iff (h : c.WellFormed) (h' : c'.WellFormed) (hm : m.Over c) (hm' : m'.Over c') :
    m.toLines = m'.toLines ↔ m = m' := by
  constructor
  · intro he
    have hc := hm.colon_notMem h
    have hc' := hm'.colon_notMem h'
    ext g
    exact ⟨fun hg => grants_subset_of_toLines_eq hc hc' he hg,
      fun hg => grants_subset_of_toLines_eq hc' hc he.symm hg⟩
  · exact congrArg toLines

/-- A matrix that calls put together, in whatever order, is read back from its lines if and only if
every token in it has a name that does not end in a blank, and no id in it begins with one. No other
matrix has the same lines. -/
theorem ofLines_toLines_build_iff (hc : c.Reachable) {changes : List Change}
    (hw : ∀ x ∈ changes, x.Within c) :
    (ofLines c (build c changes).toLines = build c changes ↔
        (∀ g ∈ (build c changes).grants, g.sid ≠ "" ∧ ¬ Text.EndsBlank g.sid) ∧
          ∀ g ∈ (build c changes).grants, ¬ Text.StartsBlank g.permission) ∧
      ∀ (c' : Catalog) (changes' : List Change), c'.Reachable → (∀ x ∈ changes', x.Within c') →
        ((build c changes).toLines = (build c' changes').toLines ↔
          build c changes = build c' changes') := by
  have h := hc.wellFormed
  have hm := over_build h hw
  refine ⟨?_, ?_⟩
  · rw [ofLines_toLines_eq_iff h hm, ← forall₂_and]
    exact forall₂_congr fun g hg => Grant.statedBy_line_iff (hm.colon_notMem h g hg)
  · intro c' changes' hc' hw'
    have h' := hc'.wellFormed
    exact toLines_eq_iff h h' hm (over_build h' hw')

/-- The first permission of the catalog of jobs. -/
def readJob : Permission := .root ⟨0, "job", "Read", none, []⟩

/-- The name of the second token ends in a blank, which its line does not keep. -/
def blankBehind : List Change := [.line "job.Read:ann", .grant readJob "bob "]

/-- Reading that matrix back gives the grant to another token, also if the calls came in the other
order. Colons and blanks within a name are kept. -/
theorem ofLines_toLines_build_blankBehind : Catalog.jobs.Reachable ∧
    (∀ x ∈ blankBehind, x.Within Catalog.jobs) ∧
      (∀ x ∈ blankBehind.reverse, x.Within Catalog.jobs) ∧
      ofLines Catalog.jobs (build Catalog.jobs blankBehind).toLines ≠
        build Catalog.jobs blankBehind ∧
      build Catalog.jobs blankBehind = build Catalog.jobs blankBehind.reverse ∧
      ofLines Catalog.jobs (build Catalog.jobs [.grant readJob "ldap: bob"]).toLines =
        build Catalog.jobs [.grant readJob "ldap: bob"] := by
  have hc := Catalog.reachable_jobs
  have hread : readJob ∈ Catalog.jobs.all := List.mem_cons_self
  have hw : ∀ x ∈ blankBehind, x.Within Catalog.jobs := by
    simp [blankBehind, Change.Within, hread]
  have hw' : ∀ x ∈ blankBehind.reverse, x.Within Catalog.jobs := by
    simpa only [List.mem_reverse] using hw
  have hldap : ∀ x ∈ [Change.grant readJob "ldap: bob"], x.Within Catalog.jobs := by
    simp [Change.Within, hread]
  obtain ⟨hiff, hlines⟩ := ofLines_toLines_build_iff hc hw
  refine ⟨hc, hw, hw', ?_, ?_, ?_⟩
  · rw [ne_eq, hiff]
    rintro ⟨hsid, -⟩
    exact absurd (hsid ⟨"job.Read", "bob "⟩ (by decide +kernel)) (by decide)
  · exact (hlines _ _ hc hw').1 (by decide +kernel)
  · obtain ⟨hiff, -⟩ := ofLines_toLines_build_iff hc hldap
    exact hiff.2 (by decide +kernel)

end Matrix

end AccessPolicy
