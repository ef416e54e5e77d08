import AccessPolicy.Proofs.Catalog.Step
import AccessPolicy.Strategy.Table

/-!
What persisted lines grant. A line states a grant if, once trimmed, it is the line of that grant, and
a matrix takes up the stated grants of permissions that the catalog lists. The line of a grant
that was taken up states it again, so nothing changes when a matrix is written down and read back.
-/
namespace AccessPolicy

/-- The trimmed line, cut at its first colon, is the permission and a token that has a name. -/
structure Grant.StatedBy (g : Grant) (line : String) : Prop where
  trimmed : Text.trim line = g.line
  no_colon : ':' ∉ g.permission.toList
  sid_ne : g.sid ≠ ""

def Grant.StatedIn (g : Grant) (lines : List String) : Prop := ∃ line ∈ lines, g.StatedBy line

variable {c : Catalog} {m : Matrix} {g : Grant}

theorem Catalog.SameListing.lists_iff {c' : Catalog} (h : c.SameListing c') {id : String} :
    c'.Lists id ↔ c.Lists id := by
  rw [Lists, Lists, h.all]

theorem Catalog.WellFormed.lists_builtin (h : c.WellFormed) (hb : c.hasBuiltins = true)
    (b : Builtin) : c.Lists b.id := by
  obtain ⟨p, hp⟩ := exists_lookup_builtin hb b
  exact ⟨p, h.lookup_eq_some_iff.1 hp⟩

namespace Grant

theorem toList_line (g : Grant) : g.line.toList = g.permission.toList ++ ':' :: g.sid.toList := by
  simp [line]

/-- A line states at most one grant, whose parts stand on the two sides of its first colon. -/
theorem statedBy_iff {line : String} :
    g.StatedBy line ↔
      Text.cutAtFirst ':' (Text.trim line) = some (g.permission, g.sid) ∧ g.sid ≠ "" := by
  rw [Text.cutAtFirst_eq_some_iff, ← toList_line, String.toList_inj]
  constructor
  · rintro ⟨ht, hc, hs⟩
    exact ⟨⟨ht, hc⟩, hs⟩
  · rintro ⟨⟨ht, hc⟩, hs⟩
    exact ⟨ht, hc, hs⟩

instance (line : String) : Decidable (g.StatedBy line) := decidable_of_iff _ statedBy_iff.symm

instance (lines : List String) : Decidable (g.StatedIn lines) :=
  inferInstanceAs (Decidable (∃ line ∈ lines, g.StatedBy line))

theorem StatedBy.unique {line : String} {g' : Grant} (h : g.StatedBy line) (h' : g'.StatedBy line) :
    g = g' := by
  have he := (statedBy_iff.1 h).1
  rw [(statedBy_iff.1 h').1, Option.some.injEq, Prod.mk.injEq] at he
  obtain ⟨id, sid⟩ := g
  obtain ⟨rfl, rfl⟩ := he
  rfl

/-- A grant that some line states is stated by its own line. -/
theorem StatedBy.line {line : String} (h : g.StatedBy line) : g.StatedBy g.line where
  trimmed := by rw [← h.trimmed, Text.trim_trim]
  no_colon := h.no_colon
  sid_ne := h.sid_ne

/-- A line is trimmed if its id does not begin with a blank and its token does not end in one. -/
theorem trim_line_iff (h : g.sid ≠ "") :
    Text.trim g.line = g.line ↔ ¬ Text.StartsBlank g.permission ∧ ¬ Text.EndsBlank g.sid := by
  obtain ⟨x, hx⟩ : ∃ x, g.sid.toList.getLast? = some x := by
    cases hl : g.sid.toList.getLast? with
    | none => exact absurd (String.toList_eq_nil_iff.1 (List.getLast?_eq_none_iff.1 hl)) h
    | some x => exact ⟨x, rfl⟩
  rw [Text.trim_eq_self_iff, Text.Trimmed, toList_line, Text.not_startsBlank_iff,
    Text.not_endsBlank_iff, List.getLast?_append, List.getLast?_cons, hx]
  refine and_congr_left fun _ => ?_
  -- a line without an id begins with the colon
  cases g.permission.toList with
  | nil =>
    have hcolon : Text.isBlank ':' = false := by decide
    simp [hcolon]
  | cons y rest => rfl

/-- The permission may be replaced by another that does not begin with a blank. -/
theorem StatedBy.of_permission {line id : String} (h : g.StatedBy line) (hc : ':' ∉ id.toList)
    (hb : ¬ Text.StartsBlank id) : StatedBy ⟨id, g.sid⟩ (Grant.line ⟨id, g.sid⟩) where
  trimmed := by
    have hend := ((trim_line_iff h.sid_ne).1 h.line.trimmed).2
    exact (trim_line_iff (g := ⟨id, g.sid⟩) h.sid_ne).2 ⟨hb, hend⟩
  no_colon := hc
  sid_ne := h.sid_ne

end Grant

namespace Matrix

theorem parseLine_eq_some_iff (h : c.WellFormed) {line : String} :
    parseLine c (Text.trim line) = some g ↔ g.StatedBy line ∧ c.Lists g.permission := by
  rw [Grant.statedBy_iff]
  constructor
  · intro hp
    unfold parseLine at hp
    cases hcut : Text.cutAtFirst ':' (Text.trim line) with
    | none => simp [hcut] at hp
    | some parts =>
      obtain ⟨id, sid⟩ := parts
      by_cases hs : sid.isEmpty = true
      · simp [hcut, hs] at hp
      · simp only [hcut, if_neg hs, Option.map_eq_some_iff] at hp
        obtain ⟨p, hl, rfl⟩ := hp
        obtain ⟨hp, rfl⟩ := h.lookup_eq_some_iff.1 hl
        exact ⟨⟨rfl, by simpa using hs⟩, p, hp, rfl⟩
  · rintro ⟨⟨hcut, hs⟩, p, hp, hid⟩
    have he : g.sid.isEmpty = false := by simpa using hs
    simp [parseLine, hcut, he, h.lookup_eq_some_iff.2 ⟨hp, hid⟩, hid]

theorem mem_addLine {line : String} :
    g ∈ (addLine c m line).grants ↔ parseLine c line = some g ∨ g ∈ m.grants := by
  unfold addLine
  cases parseLine c line with
  | none => simp
  | some g' => simp [eq_comm]

theorem mem_ofLines {lines : List String} :
    g ∈ (ofLines c lines).grants ↔ ∃ line ∈ lines, parseLine c (Text.trim line) = some g := by
  have hfold : ∀ m : Matrix,
      g ∈ (lines.foldl (fun m line => addLine c m (Text.trim line)) m).grants ↔
        g ∈ m.grants ∨ ∃ line ∈ lines, parseLine c (Text.trim line) = some g := by
    induction lines with
    | nil => simp
    | cons line lines ih =>
      intro m
      rw [List.foldl_cons, ih, mem_addLine, or_assoc, or_left_comm]
      simp only [List.mem_cons, exists_eq_or_imp]
  rw [ofLines, hfold, grants_empty]
  simp only [List.not_mem_nil, false_or]

/-- A matrix holds what the lines state of the permissions that are listed. -/
theorem mem_ofLines_iff (h : c.WellFormed) {lines : List String} :
    g ∈ (ofLines c lines).grants ↔ g.StatedIn lines ∧ c.Lists g.permission := by
  simp only [mem_ofLines, parseLine_eq_some_iff h, Grant.StatedIn]
  constructor
  · rintro ⟨line, hm, hs, hl⟩
    exact ⟨⟨line, hm, hs⟩, hl⟩
  · rintro ⟨⟨line, hm, hs⟩, hl⟩
    exact ⟨line, hm, hs, hl⟩

theorem mem_holders {id sid : String} : sid ∈ m.holders id ↔ ⟨id, sid⟩ ∈ m.grants := by
  simp only [holders, List.mem_map, List.mem_filter, beq_iff_eq]
  constructor
  · rintro ⟨g, ⟨hg, rfl⟩, rfl⟩
    exact hg
  · exact fun hg => ⟨_, ⟨hg, rfl⟩, rfl⟩

theorem mem_migrateRead {read item : Permission} :
    g ∈ (m.migrateRead read item).grants ↔
      g ∈ m.grants ∨ g.permission = item.id ∧ ⟨read.id, g.sid⟩ ∈ m.grants := by
  have hfold : ∀ (sids : List String) (n : Matrix),
      g ∈ (sids.foldl (fun n sid => n.grant item sid) n).grants ↔
        g ∈ n.grants ∨ g.permission = item.id ∧ g.sid ∈ sids := by
    intro sids
    induction sids with
    | nil => simp
    | cons sid sids ih =>
      intro n
      obtain ⟨id, s⟩ := g
      rw [List.foldl_cons, ih, grant, mem_grants_insert, Grant.mk.injEq, or_assoc, or_left_comm,
        ← and_or_left, List.mem_cons]
  rw [migrateRead, hfold, mem_holders]

theorem mem_toLines {line : String} : line ∈ m.toLines ↔ ∃ g ∈ m.grants, g.line = line := by
  simp [toLines]

/-- A matrix is read back as it was, if the line of each grant states that grant. -/
theorem ofLines_toLines (h : c.WellFormed)
    (hm : ∀ g ∈ m.grants, g.StatedBy g.line ∧ c.Lists g.permission) : ofLines c m.toLines = m := by
  ext g
  rw [mem_ofLines]
  constructor
  · rintro ⟨line, hl, hp⟩
    obtain ⟨g', hg', rfl⟩ := mem_toLines.1 hl
    rw [(parseLine_eq_some_iff h).2 (hm g' hg')] at hp
    exact Option.some.inj hp ▸ hg'
  · intro hg
    exact ⟨g.line, mem_toLines.2 ⟨g, hg, rfl⟩, (parseLine_eq_some_iff h).2 (hm g hg)⟩

theorem ofLines_toLines_ofLines (h : c.WellFormed) (lines : List String) :
    ofLines c (ofLines c lines).toLines = ofLines c lines := by
  refine ofLines_toLines h ?_
  intro g hg
  obtain ⟨⟨line, -, hs⟩, hl⟩ := (mem_ofLines_iff h).1 hg
  exact ⟨hs.line, hl⟩

end Matrix

/-- What the section of the root policy grants: what its lines state, and with the migration every
right to read the root counts for the objects too. -/
def AuthorizationSettings.Grants (a : AuthorizationSettings) (g : Grant) : Prop :=
  g.StatedIn a.grants ∨
    a.migrateLegacyRead = true ∧ g.permission = Builtin.itemRead.id ∧
      Grant.StatedIn ⟨Builtin.read.id, g.sid⟩ a.grants

namespace Matrix

theorem mem_ofSettings_iff (h : c.WellFormed) (hr : c.Lists Builtin.read.id)
    {a : AuthorizationSettings} :
    g ∈ (ofSettings a c).grants ↔ a.Grants g ∧ c.Lists g.permission := by
  obtain ⟨read, hr', hri⟩ := hr
  have hread := h.lookup_eq_some_iff.2 ⟨hr', hri⟩
  unfold ofSettings AuthorizationSettings.Grants
  cases hm : a.migrateLegacyRead with
  | false => simp [mem_ofLines_iff h]
  | true =>
    cases hi : c.lookup Builtin.itemRead.id with
    | none =>
      -- the migration is left out, and what it would grant is not listed
      have hnone : ¬ c.Lists Builtin.itemRead.id := by
        rintro ⟨p, hp, hid⟩
        rw [h.lookup_eq_some_iff.2 ⟨hp, hid⟩] at hi
        cases hi
      simp only [hread, if_true, mem_ofLines_iff h]
      constructor
      · exact fun ⟨hs, hl⟩ => ⟨.inl hs, hl⟩
      · rintro ⟨hs | ⟨-, he, -⟩, hl⟩
        · exact ⟨hs, hl⟩
        · exact absurd (he ▸ hl) hnone
    | some item =>
      obtain ⟨hitem, hid⟩ := h.lookup_eq_some_iff.1 hi
      simp only [hread, if_true, mem_migrateRead, mem_ofLines_iff h, hid, hri]
      constructor
      · rintro (⟨hs, hl⟩ | ⟨he, hs, -⟩)
        · exact ⟨.inl hs, hl⟩
        · exact ⟨.inr ⟨trivial, he, hs⟩, item, hitem, hid.trans he.symm⟩
      · rintro ⟨hs | ⟨-, he, hs⟩, hl⟩
        · exact .inl ⟨hs, hl⟩
        · exact .inr ⟨he, hs, read, hr', hri⟩

theorem ofSettings_of_not_lists (h : c.WellFormed) (hr : ¬ c.Lists Builtin.read.id)
    (a : AuthorizationSettings) : ofSettings a c = ofLines c a.grants := by
  have hread : c.lookup Builtin.read.id = none := by
    rw [Option.eq_none_iff_forall_ne_some]
    intro p hp
    obtain ⟨hm, hi⟩ := h.lookup_eq_some_iff.1 hp
    exact hr ⟨p, hm, hi⟩
  simp [ofSettings, hread]

/-- A migrated grant is stated by its line as well as the others, though it was not read from it. -/
theorem stated_of_mem_ofSettings (h : c.WellFormed) {a : AuthorizationSettings}
    (hg : g ∈ (ofSettings a c).grants) : g.StatedBy g.line ∧ c.Lists g.permission := by
  by_cases hr : c.Lists Builtin.read.id
  · obtain ⟨⟨line, -, hs⟩ | ⟨-, he, line, -, hs⟩, hl⟩ := (mem_ofSettings_iff h hr).1 hg
    · exact ⟨hs.line, hl⟩
    · have hn : ':' ∉ Builtin.itemRead.id.toList := by decide
      have hb : ¬ Text.StartsBlank Builtin.itemRead.id := by decide
      have hm := hs.of_permission hn hb
      rw [← he] at hm
      exact ⟨hm, hl⟩
  · rw [ofSettings_of_not_lists h hr] at hg
    obtain ⟨⟨line, -, hs⟩, hl⟩ := (mem_ofLines_iff h).1 hg
    exact ⟨hs.line, hl⟩

/-- Writing a root matrix down does the migration once and for all. -/
theorem ofLines_toLines_ofSettings (h : c.WellFormed) (a : AuthorizationSettings) :
    ofLines c (ofSettings a c).toLines = ofSettings a c :=
  ofLines_toLines h fun _ => stated_of_mem_ofSettings h

end Matrix

end AccessPolicy
