import AccessPolicy.Proofs.Catalog.Run
import AccessPolicy.Proofs.Matrix.Lines
import AccessPolicy.Text.Bytes

/-!
The listing of a loaded matrix. It consists of those of the lines, once trimmed, that name a listed
permission and a token, each once and in ascending order. So a matrix depends on its lines as on a
set, and a line that grants nothing might as well be left out.
-/
namespace AccessPolicy

variable {c : Catalog} {m : Matrix} {g : Grant} {lines : List String}

/-- The text is the id of a listed permission, a colon and a name, which may hold colons and blanks
but has to hold something. -/
def Catalog.GrantLine (c : Catalog) (t : String) : Prop :=
  ∃ p ∈ c.all, ∃ sid, sid ≠ "" ∧ t = p.id ++ ":" ++ sid

theorem Catalog.grantLine_iff {t : String} :
    c.GrantLine t ↔ ∃ g : Grant, c.Lists g.permission ∧ g.sid ≠ "" ∧ g.line = t := by
  constructor
  · rintro ⟨p, hp, sid, hs, rfl⟩
    exact ⟨⟨p.id, sid⟩, ⟨p, hp, rfl⟩, hs, rfl⟩
  · rintro ⟨⟨_, sid⟩, ⟨p, hp, rfl⟩, hs, rfl⟩
    exact ⟨p, hp, sid, hs, rfl⟩

namespace Grant

/-- The line of a grant tells where its id ends. -/
theorem line_injective {g' : Grant} (hg : ':' ∉ g.permission.toList)
    (hg' : ':' ∉ g'.permission.toList) (h : g.line = g'.line) : g = g' := by
  have hcut := Text.cutAtFirst_eq_some_iff.2 ⟨g.toList_line, hg⟩
  rw [h, Text.cutAtFirst_eq_some_iff.2 ⟨g'.toList_line, hg'⟩, Option.some.injEq,
    Prod.mk.injEq] at hcut
  obtain ⟨id, sid⟩ := g
  obtain ⟨id', sid'⟩ := g'
  obtain ⟨rfl, rfl⟩ := hcut
  rfl

end Grant

namespace Matrix

/-- The grants are those whose lines are given, of the permissions that are listed. -/
theorem mem_ofLines_iff_line (h : c.WellFormed) :
    g ∈ (ofLines c lines).grants ↔
      g.line ∈ lines.map Text.trim ∧ c.Lists g.permission ∧ g.sid ≠ "" := by
  rw [mem_ofLines_iff h, List.mem_map]
  constructor
  · rintro ⟨⟨line, hm, hs⟩, hl⟩
    exact ⟨⟨line, hm, hs.trimmed⟩, hl, hs.sid_ne⟩
  · rintro ⟨⟨line, hm, ht⟩, hl, hs⟩
    obtain ⟨p, hp, hid⟩ := hl
    exact ⟨⟨line, hm, ht, hid ▸ h.colon_notMem_id hp, hs⟩, p, hp, hid⟩

theorem mem_toLines_ofLines (h : c.WellFormed) {t : String} :
    t ∈ (ofLines c lines).toLines ↔ t ∈ lines.map Text.trim ∧ c.GrantLine t := by
  rw [mem_toLines, Catalog.grantLine_iff]
  constructor
  · rintro ⟨g, hg, rfl⟩
    obtain ⟨hm, hl, hs⟩ := (mem_ofLines_iff_line h).1 hg
    exact ⟨hm, g, hl, hs, rfl⟩
  · rintro ⟨hm, g, hl, hs, rfl⟩
    exact ⟨g, (mem_ofLines_iff_line h).2 ⟨hm, hl, hs⟩, rfl⟩

/-- Lists of lines that agree on the lines of grants are loaded as the same matrix. -/
theorem ofLines_congr (h : c.WellFormed) {lines' : List String}
    (hl : ∀ t, c.GrantLine t → (t ∈ lines.map Text.trim ↔ t ∈ lines'.map Text.trim)) :
    ofLines c lines = ofLines c lines' := by
  ext g
  rw [mem_ofLines_iff_line h, mem_ofLines_iff_line h]
  refine and_congr_left ?_
  rintro ⟨hp, hs⟩
  exact hl g.line (Catalog.grantLine_iff.2 ⟨g, hp, hs, rfl⟩)

/-- The listing is in the order of the bytes, so no line comes twice. -/
theorem pairwise_toLines (m : Matrix) :
    m.toLines.Pairwise fun s t => Text.bytes s < Text.bytes t := by
  have h := Ascending.ascending_ofList Text.before_strictTotal (m.grants.map Grant.line)
  exact h.imp Text.before_iff_bytes_lt.1

/-- The matrix grants nothing but listed permissions. -/
def Over (m : Matrix) (c : Catalog) : Prop := ∀ g ∈ m.grants, c.Lists g.permission

theorem Over.colon_notMem (hm : m.Over c) (h : c.WellFormed) :
    ∀ g ∈ m.grants, ':' ∉ g.permission.toList := by
  intro g hg
  obtain ⟨p, hp, hid⟩ := hm g hg
  exact hid ▸ h.colon_notMem_id hp

/-- Every grant has a line of its own in the listing. -/
theorem perm_toLines (h : c.WellFormed) (hm : m.Over c) :
    m.toLines.Perm (m.grants.map Grant.line) := by
  have hc := hm.colon_notMem h
  have hn : (m.grants.map Grant.line).Nodup := by
    refine List.Nodup.map_on ?_ (Ascending.nodup Grant.before_strictTotal m.ascending)
    intro g hg g' hg' he
    exact Grant.line_injective (hc g hg) (hc g' hg') he
  exact Ascending.perm_ofList Text.before_strictTotal hn

theorem length_toLines (h : c.WellFormed) (hm : m.Over c) :
    m.toLines.length = m.size := by
  rw [(perm_toLines h hm).length_eq, List.length_map, size]

/-- Loading lines and listing what was loaded normalises them: left are those that, once trimmed, are
lines of grants, each once and in the order of the bytes, as many as there are grants. Only these
lines make a difference, in whatever order and however often they come, and the listing is loaded as
the same matrix. -/
theorem toLines_ofLines (h : c.Reachable) (lines : List String) :
    (∀ t, t ∈ (ofLines c lines).toLines ↔ t ∈ lines.map Text.trim ∧ c.GrantLine t) ∧
      ((ofLines c lines).toLines.Pairwise fun s t => Text.bytes s < Text.bytes t) ∧
      (ofLines c lines).toLines.length = (ofLines c lines).size ∧
      (∀ lines' : List String,
        (∀ t, c.GrantLine t → (t ∈ lines.map Text.trim ↔ t ∈ lines'.map Text.trim)) →
          ofLines c lines = ofLines c lines') ∧
      ofLines c (ofLines c lines).toLines = ofLines c lines := by
  have hw := h.wellFormed
  refine ⟨?_, ?_, ?_, ?_, ?_⟩
  · intro t
    exact mem_toLines_ofLines hw
  · exact pairwise_toLines _
  · refine length_toLines hw ?_
    intro g hg
    exact ((mem_ofLines_iff_line hw).1 hg).2.1
  · intro lines' hl
    exact ofLines_congr hw hl
  · exact ofLines_toLines_ofLines hw lines

/-- A line to be trimmed and its repetition, a name with a colon and a blank, and lines that are
unknown, malformed or without a name. -/
def mixedLines : List String :=
  ["\tjob.Read:ann ", "job.team.Build: ldap:bob", "ann", "job.Read:ann", "no.Such:ann", "job.Read: "]

theorem toLines_ofLines_mixed :
    Catalog.jobs.Reachable ∧
      (ofLines Catalog.jobs mixedLines).toLines = ["job.Read:ann", "job.team.Build: ldap:bob"] ∧
      (ofLines Catalog.jobs mixedLines).size = 2 ∧
      ofLines Catalog.jobs ["job.Read:ann", "job.team.Build: ldap:bob"] =
        ofLines Catalog.jobs mixedLines := by
  have hr := Catalog.reachable_jobs
  have hl : (ofLines Catalog.jobs mixedLines).toLines =
      ["job.Read:ann", "job.team.Build: ldap:bob"] := by
    decide +kernel
  obtain ⟨-, -, hsize, -, hagain⟩ := toLines_ofLines hr mixedLines
  refine ⟨hr, hl, ?_, ?_⟩
  · rw [← hsize, hl]
    rfl
  · rw [← hagain, hl]

end Matrix

end AccessPolicy
