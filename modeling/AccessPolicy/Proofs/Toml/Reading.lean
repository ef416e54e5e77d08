import AccessPolicy.Proofs.Data.Tree
import AccessPolicy.Toml.Reader

/-!
What the reader of settings files yields. A key is only ever added to a table that does not have it, so
no table of a file that is read names a key twice. One byte order mark is passed, and only in front.
-/
namespace AccessPolicy.Toml

open Value (Tidy TidyEntries)

mutual

/-- No table, down to the first values and arrays, has two entries for one key. -/
def Node.Distinct : Node → Prop
  | .leaf v => v.Tidy
  | .table _ es => (es.map Prod.fst).Nodup ∧ DistinctNodes es
  | .tables _ _ => True

def DistinctNodes : Entries → Prop
  | [] => True
  | (_, n) :: es => n.Distinct ∧ DistinctNodes es

end

theorem distinctNodes_iff {es : Entries} : DistinctNodes es ↔ ∀ e ∈ es, e.2.Distinct := by
  induction es with
  | nil => simp [DistinctNodes]
  | cons e es ih => simp [DistinctNodes, ih]

theorem map_fst_valuesOf (es : Entries) : (valuesOf es).map Prod.fst = es.map Prod.fst := by
  induction es with
  | nil => rfl
  | cons e es ih => simp [valuesOf, ih]

mutual

theorem Node.tidy_toValue : (n : Node) → n.Distinct → n.toValue.Tidy
  | .leaf v, h => by simpa only [Node.toValue, Node.Distinct] using h
  | .table _ es, h => by
    rw [Node.Distinct] at h
    rw [Node.toValue, Tidy, map_fst_valuesOf]
    exact ⟨h.1, tidyEntries_valuesOf es h.2⟩
  | .tables _ _, _ => by simp only [Node.toValue, Tidy]

theorem tidyEntries_valuesOf : (es : Entries) → DistinctNodes es → TidyEntries (valuesOf es)
  | [], _ => by simp only [valuesOf, TidyEntries]
  | (_, n) :: es, h => by
    rw [DistinctNodes] at h
    rw [valuesOf, TidyEntries]
    exact ⟨n.tidy_toValue h.1, tidyEntries_valuesOf es h.2⟩

end

namespace Entries

variable {es es' : Entries} {key : String} {path : List String} {n : Node} {o : Origin} {v : Value}

/-- No table has two entries for one key. -/
def Distinct (es : Entries) : Prop := (Node.table .header es).Distinct

theorem distinct_iff : es.Distinct ↔ (es.map Prod.fst).Nodup ∧ ∀ e ∈ es, e.2.Distinct := by
  rw [Distinct, Node.Distinct, distinctNodes_iff]

theorem distinct_table : (Node.table o es).Distinct ↔ es.Distinct := by
  rw [Distinct, Node.Distinct, Node.Distinct]

theorem distinct_nil : Distinct [] := by simp [distinct_iff]

theorem Distinct.tidy (h : es.Distinct) : (Value.table (valuesOf es)).Tidy := by
  simpa only [Node.toValue] using (Node.table .header es).tidy_toValue h

theorem Distinct.add (h : es.Distinct) (hk : es.lookup key = none) (hn : n.Distinct) :
    (es.add key n).Distinct := by
  rw [distinct_iff] at h ⊢
  have hfree : key ∉ es.map Prod.fst := by
    intro hm
    obtain ⟨e, he, rfl⟩ := List.mem_map.1 hm
    simpa using List.lookup_eq_none_iff.1 hk e he
  constructor
  · rw [Entries.add, List.map_append, List.map_singleton, ← List.concat_eq_append]
    exact h.1.concat hfree
  · exact List.forall_mem_append.2 ⟨h.2, List.forall_mem_singleton.2 hn⟩

theorem Distinct.replace (h : es.Distinct) (hn : n.Distinct) : (es.replace key n).Distinct := by
  rw [distinct_iff] at h ⊢
  have hkeys : (es.replace key n).map Prod.fst = es.map Prod.fst := by
    rw [Entries.replace, List.map_map]
    refine List.map_congr_left fun e _ => ?_
    by_cases he : e.1 = key <;> simp [he]
  refine ⟨hkeys ▸ h.1, ?_⟩
  intro e he
  obtain ⟨d, hd, rfl⟩ := List.mem_map.1 he
  split
  · exact hn
  · exact h.2 d hd

theorem Distinct.of_lookup (h : es.Distinct) (hl : es.lookup key = some n) : n.Distinct := by
  obtain ⟨before, after, he, -⟩ := List.lookup_eq_some_iff.1 hl
  exact (distinct_iff.1 h).2 (key, n) (he ▸ List.mem_append_right _ List.mem_cons_self)

/-- A change that leaves keys distinct may be made at the end of any path. -/
theorem Distinct.descend {dotted : Bool} {change : Origin → Entries → Option Entries}
    (hchange : ∀ o (es es' : Entries), es.Distinct → change o es = some es' → es'.Distinct)
    (h : es.Distinct) (he : es.descend dotted change path o = some es') : es'.Distinct := by
  induction path generalizing o es es' with
  | nil => exact hchange o es es' h he
  | cons key path ih =>
    rw [Entries.descend] at he
    cases hl : es.lookup key with
    | none =>
      rw [hl] at he
      obtain ⟨inner, hi, rfl⟩ := Option.map_eq_some_iff.1 he
      exact h.add hl (distinct_table.2 (ih distinct_nil hi))
    | some n =>
      have hn := h.of_lookup hl
      rw [hl] at he
      cases n with
      | leaf v => cases he
      | table own inner =>
        dsimp only at he
        split at he
        · cases he
        · obtain ⟨inner', hi, rfl⟩ := Option.map_eq_some_iff.1 he
          exact h.replace (distinct_table.2 (ih (distinct_table.1 hn) hi))
      | tables done last =>
        obtain ⟨inner', -, rfl⟩ := Option.map_eq_some_iff.1 he
        exact h.replace (by simp only [Node.Distinct])

theorem Distinct.assign (h : es.Distinct) (hv : v.Tidy) (he : es.assign path key v o = some es') :
    es'.Distinct := by
  refine h.descend (fun o es es' hes hc => ?_) he
  obtain ⟨hfree, hadd⟩ := Option.ite_none_left_eq_some.1 hc
  obtain rfl := Option.some.inj hadd
  rw [Bool.or_eq_true, not_or, Option.not_isSome_iff_eq_none] at hfree
  exact hes.add hfree.2 (by rwa [Node.Distinct])

theorem Distinct.assignAt {header : List String} (h : es.Distinct) (hv : v.Tidy)
    (he : es.assignAt header path key v = some es') : es'.Distinct :=
  h.descend (fun _ _ _ hes hc => hes.assign hv hc) he

theorem Distinct.openTable (h : es.Distinct) (he : es.openTable path key = some es') :
    es'.Distinct := by
  refine h.descend (fun o es es' hes hc => ?_) he
  cases hl : es.lookup key with
  | none =>
    simp only [hl, Option.some.injEq] at hc
    exact hc ▸ hes.add hl distinct_nil
  | some n =>
    have hn := hes.of_lookup hl
    cases n with
    | table own inner =>
      cases own with
      | passed =>
        simp only [hl, Option.some.injEq] at hc
        exact hc ▸ hes.replace (distinct_table.2 (distinct_table.1 hn))
      | dotted => simp [hl] at hc
      | header => simp [hl] at hc
    | leaf v => simp [hl] at hc
    | tables done last => simp [hl] at hc

theorem Distinct.openElement (h : es.Distinct) (he : es.openElement path key = some es') :
    es'.Distinct := by
  refine h.descend (fun o es es' hes hc => ?_) he
  cases hl : es.lookup key with
  | none =>
    simp only [hl, Option.some.injEq] at hc
    exact hc ▸ hes.add hl (by simp only [Node.Distinct])
  | some n =>
    cases n with
    | tables done last =>
      simp only [hl, Option.some.injEq] at hc
      exact hc ▸ hes.replace (by simp only [Node.Distinct])
    | table own inner => simp [hl] at hc
    | leaf v => simp [hl] at hc

end Entries

variable {v : Value}

theorem tidy_of_integer? {i : Int} (h : integer? i = some v) : v.Tidy := by
  unfold integer? at h
  split at h
  · cases h
    simp only [Tidy]
  · cases h

theorem tidy_of_float? {negative : Bool} {cs : List Char} (h : float? negative cs = some v) :
    v.Tidy := by
  simp only [float?, Option.bind_eq_bind, Option.bind_eq_some_iff] at h
  obtain ⟨ds, -, places, -, x, -, h⟩ := h
  split at h
  · cases h
  · cases h
    simp only [Tidy]

theorem tidy_of_number? {token : List Char} (h : number? token = some v) : v.Tidy := by
  have hbased : ∀ {o : Option (List Nat)} {base : Nat},
      (o.bind fun ds => integer? (Text.ofDigits base ds)) = some v → v.Tidy := by
    intro o base ho
    obtain ⟨ds, -, hi⟩ := Option.bind_eq_some_iff.1 ho
    exact tidy_of_integer? hi
  unfold number? at h
  split at h
  · exact hbased h
  · exact hbased h
  · exact hbased h
  · dsimp only at h
    split at h
    · cases h
      simp only [Tidy]
    · split at h
      · cases h
        simp only [Tidy]
      · split at h
        · exact tidy_of_integer? h
        · exact tidy_of_float? h

theorem tidy_of_scalar? {token : List Char} (h : scalar? token = some v) : v.Tidy := by
  revert h
  fun_cases scalar? token with
  | case1 =>
    rintro ⟨⟩
    simp only [Tidy]
  | case2 =>
    rintro ⟨⟩
    simp only [Tidy]
  | case3 _ _ w hw =>
    rintro ⟨⟩
    exact tidy_of_number? hw
  | case4 =>
    intro h
    obtain ⟨t, -, rfl⟩ := Option.map_eq_some_iff.1 h
    simp only [Tidy]

/-- With this much fuel the reader yields tidy values, and keeps the keys of a table in braces
distinct. -/
structure ReadsTidily (fuel : Nat) : Prop where
  value : ∀ {depth cs v rest}, readValue fuel depth cs = some (v, rest) → v.Tidy
  pairs : ∀ {depth es cs es' rest}, readPairs fuel depth es cs = some (es', rest) →
    Entries.Distinct es → Entries.Distinct es'

theorem readValue_tidy {fuel depth : Nat} {cs rest : List Char} (ih : ReadsTidily fuel)
    (h : readValue (fuel + 1) depth cs = some (v, rest)) : v.Tidy := by
  unfold readValue at h
  split at h
  · split at h
    · cases h
    · obtain ⟨r, -, hr⟩ := Option.map_eq_some_iff.1 h
      cases hr
      simp only [Tidy]
  · split at h
    · cases h
    · obtain ⟨r, hpairs, hr⟩ := Option.map_eq_some_iff.1 h
      cases hr
      exact (ih.pairs hpairs Entries.distinct_nil).tidy
  · split at h
    · obtain ⟨r, -, hr⟩ := Option.map_eq_some_iff.1 h
      cases hr
      simp only [Tidy]
    · obtain ⟨w, hw, hr⟩ := Option.map_eq_some_iff.1 h
      cases hr
      exact tidy_of_scalar? hw
  · cases h

theorem readPairs_distinct {fuel depth : Nat} {es es' : Entries} {cs rest : List Char}
    (ih : ReadsTidily fuel) (h : readPairs (fuel + 1) depth es cs = some (es', rest))
    (hes : es.Distinct) : es'.Distinct := by
  unfold readPairs at h
  split at h
  case h_1 => cases h
  case h_2 =>
    cases h
    exact hes
  case h_3 r _ _ =>
    split at h
    case h_1 => cases h
    case h_2 path key r _ =>
      split at h
      case h_1 => cases h
      case h_2 r _ =>
        split at h
        case h_1 => cases h
        case h_2 v r hv =>
          obtain ⟨front, -, hvalue⟩ := Option.bind_eq_some_iff.1 hv
          split at h
          case h_1 added _ hassign _ => exact ih.pairs h (hes.assign (ih.value hvalue) hassign)
          case h_2 added _ hassign _ =>
            cases h
            exact hes.assign (ih.value hvalue) hassign
          case h_3 => cases h

theorem readsTidily (fuel : Nat) : ReadsTidily fuel := by
  induction fuel with
  | zero => exact ⟨fun h => by simp [readValue] at h, fun h => by simp [readPairs] at h⟩
  | succ fuel ih => exact ⟨readValue_tidy ih, readPairs_distinct ih⟩

theorem readPair_distinct {d d' : Document} {cs rest : List Char} (h : readPair d cs = some (d', rest))
    (hd : d.entries.Distinct) : d'.entries.Distinct := by
  unfold readPair at h
  split at h
  · simp only [Option.bind_eq_bind, Option.bind_eq_some_iff] at h
    obtain ⟨r, hvalue, entries, hassign, _, -, hr⟩ := h
    cases hr
    exact hd.assignAt ((readsTidily _).value hvalue) hassign
  · cases h

theorem readHeader_distinct {d d' : Document} {cs rest : List Char}
    (h : readHeader d cs = some (d', rest)) (hd : d.entries.Distinct) : d'.entries.Distinct := by
  unfold readHeader at h
  split at h
  · split at h
    · simp only [Option.bind_eq_bind, Option.bind_eq_some_iff] at h
      obtain ⟨entries, hopen, _, -, hr⟩ := h
      cases hr
      exact hd.openElement hopen
    · cases h
  · split at h
    · simp only [Option.bind_eq_bind, Option.bind_eq_some_iff] at h
      obtain ⟨entries, hopen, _, -, hr⟩ := h
      cases hr
      exact hd.openTable hopen
    · cases h

theorem readDocument_distinct {fuel : Nat} {d d' : Document} {cs : List Char}
    (h : readDocument fuel d cs = some d') (hd : d.entries.Distinct) : d'.entries.Distinct := by
  induction fuel generalizing d cs with
  | zero => simp [readDocument] at h
  | succ fuel ih =>
    unfold readDocument at h
    split at h
    · cases h
    · cases h
      exact hd
    · obtain ⟨r, hheader, hrest⟩ := Option.bind_eq_some_iff.1 h
      exact ih hrest (readHeader_distinct hheader hd)
    · obtain ⟨r, hpair, hrest⟩ := Option.bind_eq_some_iff.1 h
      exact ih hrest (readPair_distinct hpair hd)

/-- A file that is read names no key of a table twice. -/
theorem tidy_of_read {text : String} {es : List (String × Value)} (h : read text = some es) :
    (Value.table es).Tidy := by
  obtain ⟨d, hd, rfl⟩ := Option.map_eq_some_iff.1 h
  exact (readDocument_distinct hd Entries.distinct_nil).tidy

theorem passGap_mark (fuel : Nat) (cs : List Char) :
    passGap (fuel + 1) ('\ufeff' :: cs) = some ('\ufeff' :: cs) := by
  simp [passGap, passComment, passLineEnd?, isSpace]

theorem readKey_mark (cs : List Char) : readKey ('\ufeff' :: cs) = none := by
  have hpart : isKeyPart '\ufeff' = false := by decide
  simp [readKey, nestLimit, readNames, readSimpleKey, readInline?, isSpace, hpart]

/-- One mark in front is passed, a second one is no part of a line. -/
theorem readDocument_mark (fuel : Nat) (d : Document) (cs : List Char) :
    readDocument fuel d ('\ufeff' :: cs) = none := by
  cases fuel with
  | zero => rfl
  | succ fuel =>
    rw [readDocument, List.length_cons, passGap_mark]
    simp [readPair, readKey_mark]

end AccessPolicy.Toml
