import ApiAtlas.Proofs.Resolution
import ApiAtlas.Proofs.Traversal
import Mathlib.Data.List.Nodup
import Mathlib.Data.List.Perm.Subperm
import Mathlib.Data.List.ProdSigma
import Mathlib.Data.Set.Lattice
import Mathlib.Order.CompletePartialOrder

/-!
# Alternatives that hold others

An object that fits an alternative with few wire names may fit one with more of them too. A notice
says so for each ordered pair of alternatives of which the first has only wire names of the second,
and not all of them. The program compares sorted lists and their lengths; here the names are a set,
found by following embedded records, and the notices are shown to be the pairs of positions whose
sets are strictly ordered, one notice each and in the order of the positions.
-/

namespace ApiAtlas.Union

variable {c : Catalog} {u : Union}

/-! ## Wire names as a set -/

/-- The wire names of a record, with those of the records that it embeds, however deep. -/
def reachedNames (c : Catalog) (d : Definition) : Set String :=
  {key | ∃ f, c.HasField d f ∧ f.isWire = true ∧ f.wireName = key}

theorem setOf_mem_wireNames (hplain : c.PlainAliases) {d : Definition}
    (hd : c.record? d.name = some d) : {key | key ∈ wireNames c d.name} = reachedNames c d := by
  ext key
  exact mem_wireNames_iff hplain hd key

/-- Between lists without repetitions, having fewer names decides which inclusion is strict. -/
theorem isStrictSubset_iff {small large : List String} (hsmall : small.Nodup)
    (hlarge : large.Nodup) :
    isStrictSubset small large = true ↔ {key | key ∈ small} ⊂ {key | key ∈ large} := by
  have hbool : isStrictSubset small large = true ↔
      small.length < large.length ∧ small ⊆ large := by
    simp [isStrictSubset, List.subset_def]
  rw [hbool]
  constructor
  · intro ⟨hlength, hsubset⟩
    refine ⟨hsubset, fun hback ↦ ?_⟩
    have hle : large.length ≤ small.length := (List.subperm_of_subset hlarge hback).length_le
    omega
  · intro ⟨hsubset, hback⟩
    have hperm : small.Subperm large := List.subperm_of_subset hsmall hsubset
    refine ⟨lt_of_not_ge fun hle ↦ hback fun key ↦ ?_, hsubset⟩
    exact (hperm.perm_of_length_le hle).mem_iff.2

theorem isStrictSubset_wireNames_iff (hplain : c.PlainAliases) {d e : Definition}
    (hd : c.record? d.name = some d) (he : c.record? e.name = some e) :
    isStrictSubset (wireNames c d.name) (wireNames c e.name) = true ↔
      reachedNames c d ⊂ reachedNames c e := by
  have hnodup (name : String) : (wireNames c name).Nodup := (Keyed.pairwise_sortNames _).nodup
  rw [isStrictSubset_iff (hnodup _) (hnodup _), setOf_mem_wireNames hplain hd,
    setOf_mem_wireNames hplain he]

/-! ## Alternatives with their positions -/

/-- A record together with the position of an alternative. -/
structure Placed where
  position : Nat
  record : Definition

/-- The alternative at the position names the record. -/
def Placed.StandsIn (c : Catalog) (u : Union) (p : Placed) : Prop :=
  ∃ a, u.alternatives[p.position]? = some a ∧ NamesRecord c a p.record

/-- The alternatives that name records, with their positions. -/
def placed (c : Catalog) (u : Union) : List Placed :=
  u.alternatives.zipIdx.filterMap fun entry ↦
    ((alternativeName? entry.1).bind c.record?).map (Placed.mk entry.2)

theorem mem_placed_iff {p : Placed} : p ∈ u.placed c ↔ p.StandsIn c u := by
  simp only [placed, List.mem_filterMap, Prod.exists, List.mem_zipIdx_iff_getElem?,
    Option.map_eq_some_iff, record_eq_some_iff]
  constructor
  · rintro ⟨a, i, ha, d, hd, rfl⟩
    exact ⟨a, ha, hd⟩
  · rintro ⟨a, ha, hd⟩
    exact ⟨a, p.position, ha, p.record, hd, rfl⟩

theorem pairwise_placed (c : Catalog) (u : Union) :
    (u.placed c).Pairwise fun p q ↦ p.position < q.position := by
  rw [placed, List.pairwise_filterMap]
  have hpositions : u.alternatives.zipIdx.Pairwise fun x y ↦ x.2 < y.2 := by
    rw [← List.pairwise_map (f := Prod.snd), List.zipIdx_map_snd]
    exact List.pairwise_lt_range'
  apply hpositions.imp
  intro x y hlt p hp q hq
  obtain ⟨d, -, rfl⟩ := Option.map_eq_some_iff.1 hp
  obtain ⟨e, -, rfl⟩ := Option.map_eq_some_iff.1 hq
  exact hlt

theorem fieldSets_eq_map_placed (c : Catalog) (u : Union) :
    u.fieldSets c = (u.placed c).map fun p ↦ (p.record.name, wireNames c p.record.name) := by
  unfold fieldSets placed
  rw [List.filterMap_filterMap, List.map_filterMap]
  conv_lhs => rw [← List.zipIdx_map_fst 0 u.alternatives]
  rw [List.filterMap_map]
  apply List.filterMap_congr
  rintro ⟨a, i⟩ _
  cases hname : alternativeName? a with
  | none => simp [hname]
  | some name =>
    cases hrecord : c.record? name with
    | none => simp [hname, hrecord]
    | some d =>
      have hd : d.name = name := Catalog.name_of_type? (Catalog.record?_eq_some.1 hrecord).1
      simp [hname, hrecord, hd]

/-! ## Pairs of alternatives -/

/-- The ordered pairs of records among the alternatives of which a notice is given. -/
def subsetPairs (c : Catalog) (u : Union) : List (Placed × Placed) :=
  (u.placed c ×ˢ u.placed c).filter fun pair ↦
    isStrictSubset (wireNames c pair.1.record.name) (wireNames c pair.2.record.name)

theorem subsetNotices_eq_map (c : Catalog) (label : String) (u : Union) :
    u.subsetNotices c label = (u.subsetPairs c).map fun pair ↦
      .subsetAlternative label pair.1.record.name pair.2.record.name := by
  unfold subsetNotices subsetPairs
  rw [fieldSets_eq_map_placed, List.flatMap_map, SProd.sprod, List.instSProd]
  simp only [List.product, List.filter_flatMap, List.map_flatMap, List.filter_map, List.map_map,
    List.filterMap_map]
  apply List.flatMap_congr
  intro p _
  rw [← List.filterMap_eq_map, List.filterMap_filter]
  rfl

theorem mem_subsetPairs_iff (hplain : c.PlainAliases) {p q : Placed} :
    (p, q) ∈ u.subsetPairs c ↔
      p.StandsIn c u ∧ q.StandsIn c u ∧ reachedNames c p.record ⊂ reachedNames c q.record := by
  rw [subsetPairs, List.mem_filter, List.mem_product, mem_placed_iff, mem_placed_iff, and_assoc]
  apply and_congr_right
  intro ⟨_, _, hp⟩
  apply and_congr_right
  intro ⟨_, _, hq⟩
  exact isStrictSubset_wireNames_iff hplain hp.record?_eq hq.record?_eq

/-- One pair of positions comes before another. -/
def Precedes (x y : Placed × Placed) : Prop :=
  Prod.Lex (· < ·) (· < ·) (x.1.position, x.2.position) (y.1.position, y.2.position)

theorem pairwise_subsetPairs (c : Catalog) (u : Union) : (u.subsetPairs c).Pairwise Precedes := by
  apply List.Pairwise.filter
  rw [SProd.sprod, List.instSProd]
  simp only [List.product]
  rw [List.pairwise_flatMap]
  constructor
  · intro p _
    rw [List.pairwise_map]
    exact (pairwise_placed c u).imp fun hlt ↦ .right _ hlt
  · apply (pairwise_placed c u).imp
    intro p q hlt x hx y hy
    obtain ⟨_, _, rfl⟩ := List.mem_map.1 hx
    obtain ⟨_, _, rfl⟩ := List.mem_map.1 hy
    exact .left _ _ hlt

theorem mem_subsetNotices_iff (hplain : c.PlainAliases) {label small large : String} :
    .subsetAlternative label small large ∈ u.subsetNotices c label ↔
      ∃ p q : Placed, p.StandsIn c u ∧ q.StandsIn c u ∧ p.record.name = small ∧
        q.record.name = large ∧ reachedNames c p.record ⊂ reachedNames c q.record := by
  rw [subsetNotices_eq_map, List.mem_map, Prod.exists]
  simp only [mem_subsetPairs_iff hplain, Notice.subsetAlternative.injEq, true_and]
  grind

/-- A name stands for one record, wherever it is an alternative. -/
theorem Placed.StandsIn.record_eq {p q : Placed} (hp : p.StandsIn c u) (hq : q.StandsIn c u)
    (h : p.record.name = q.record.name) : p.record = q.record := by
  obtain ⟨_, _, hp⟩ := hp
  obtain ⟨_, _, hq⟩ := hq
  have hknown := hp.known
  rw [h] at hknown
  exact Option.some.inj (hknown.symm.trans hq.known)

theorem subsetNotices_antisymm (hplain : c.PlainAliases) {label small large : String}
    (h : .subsetAlternative label small large ∈ u.subsetNotices c label) :
    .subsetAlternative label large small ∉ u.subsetNotices c label := by
  intro hback
  obtain ⟨p, q, hp, hq, hsmall, hlarge, hsubset⟩ := (mem_subsetNotices_iff hplain).1 h
  obtain ⟨q', p', hq', hp', hlarge', hsmall', hback⟩ := (mem_subsetNotices_iff hplain).1 hback
  rw [hq'.record_eq hq (hlarge'.trans hlarge.symm), hp'.record_eq hp (hsmall'.trans hsmall.symm)]
    at hback
  exact hsubset.asymm hback

/-- Where aliases carry no fields, the notices about a union are exactly those of the ordered pairs
of alternatives that name records of which the first reaches a strict subset of the wire names that
the second reaches, one notice for each pair and in the order of the positions. No two alternatives
are reported in both directions, and the discriminator has no part in it. -/
theorem subset_notices_of_reached_names (c : Catalog) (hplain : c.PlainAliases) (label : String)
    (u : Union) :
    (∃ pairs : List (Placed × Placed),
      u.subsetNotices c label = pairs.map (fun pair ↦
        .subsetAlternative label pair.1.record.name pair.2.record.name) ∧
      pairs.Pairwise Precedes ∧
      ∀ p q, (p, q) ∈ pairs ↔
        p.StandsIn c u ∧ q.StandsIn c u ∧ reachedNames c p.record ⊂ reachedNames c q.record) ∧
    (∀ small large, .subsetAlternative label small large ∈ u.subsetNotices c label →
      .subsetAlternative label large small ∉ u.subsetNotices c label) ∧
    ∀ discriminator isExplicit,
      { u with discriminator := discriminator, isExplicit := isExplicit }.subsetNotices c label =
        u.subsetNotices c label := by
  refine ⟨⟨u.subsetPairs c, subsetNotices_eq_map c label u, pairwise_subsetPairs c u, ?_⟩, ?_, ?_⟩
  · intro p q
    exact mem_subsetPairs_iff hplain
  · intro small large
    exact subsetNotices_antisymm hplain
  · intro discriminator isExplicit
    rfl

/-! ## A record inside another one -/

/-- A record that embeds itself. -/
def entry : Definition where
  name := "Entry"
  fields := [.plain "id" (.named "String")]
  embedded := [.named "Entry"]

/-- A record that embeds the first one. -/
def cardEntry : Definition where
  name := "CardEntry"
  fields := [.plain "number" (.named "String")]
  embedded := [.generic "Box" [.named "Entry"]]

/-- The two records and an alias. -/
def entries : Catalog where
  types := [entry, cardEntry,
    { name := "Note", kind := .simple, aliased := some (.named "String") }]

/-- A union in which one record stands in a slot, the other in a wrapper and in a list. -/
def journal : Union where
  arity := 4
  alternatives := [.generic "Box" [.named "CardEntry"], .named "Note", .optional (.named "Entry"),
    .sequence (.named "CardEntry")]

theorem eq_entry_of_path {d : Definition}
    (h : Relation.ReflTransGen entries.Embeds entry d) : d = entry := by
  induction h with
  | refl => rfl
  | tail _ hstep ih =>
    subst ih
    obtain ⟨name, hname, hrecord⟩ := hstep
    have hnames : entry.embeddedNames = ["Entry"] := by decide
    rw [hnames, List.mem_singleton] at hname
    subst hname
    exact (Option.some.inj hrecord).symm

theorem reachedNames_entry_ssubset :
    reachedNames entries entry ⊂ reachedNames entries cardEntry := by
  have hembeds : entries.Embeds cardEntry entry := ⟨"Entry", by decide, rfl⟩
  constructor
  · intro key ⟨f, ⟨e, hpath, hf⟩, hwire, hkey⟩
    exact ⟨f, ⟨e, .head hembeds hpath, hf⟩, hwire, hkey⟩
  · intro hback
    have hnumber : "number" ∈ reachedNames entries cardEntry :=
      ⟨_, ⟨cardEntry, .refl, List.mem_cons_self⟩, rfl, rfl⟩
    obtain ⟨f, ⟨e, hpath, hf⟩, -, hkey⟩ := hback hnumber
    rw [eq_entry_of_path hpath, entry, List.mem_singleton] at hf
    simp [hf, Field.plain] at hkey

theorem subset_notices_of_journal :
    entries.PlainAliases ∧
      .subsetAlternative "Journal" "Entry" "CardEntry" ∈ journal.subsetNotices entries "Journal" ∧
      .subsetAlternative "Journal" "CardEntry" "Entry" ∉
        journal.subsetNotices entries "Journal" := by
  have hplain : entries.PlainAliases := by
    simp [Catalog.PlainAliases, entries, entry, cardEntry, Definition.isRecord]
  obtain ⟨⟨pairs, hpairs, -, hmem⟩, hback, -⟩ :=
    subset_notices_of_reached_names entries hplain "Journal" journal
  have hentry : (⟨2, entry⟩ : Placed).StandsIn entries journal :=
    ⟨_, rfl, .slot (.bare _) (.bare _), rfl, rfl⟩
  have hcard : (⟨0, cardEntry⟩ : Placed).StandsIn entries journal :=
    ⟨_, rfl, .direct (.layer (by decide) (.bare _)), rfl, rfl⟩
  have hpair := (hmem _ _).2 ⟨hentry, hcard, reachedNames_entry_ssubset⟩
  have hnotice : .subsetAlternative "Journal" "Entry" "CardEntry" ∈
      journal.subsetNotices entries "Journal" := by
    rw [hpairs]
    exact List.mem_map_of_mem hpair
  exact ⟨hplain, hnotice, hback _ _ hnotice⟩

end ApiAtlas.Union
