import Mathlib.Data.List.Permutation
import ScopeHints.Proofs.Hint.StableSort

/-! Which hints are shown, and in what order, is settled by the candidates as a set: candidates of
different names never tie. A limit only cuts the list off, and a longer query only leaves out hints
that it does not match. -/
namespace ScopeHints

section Keys
variable {offset : Int} {a b : HintToken}

theorem value_eq_of_identifierKey {scope : Option Scope}
    (h : identifierKey scope offset a = identifierKey scope offset b) : a.value = b.value := by
  obtain ⟨-, hrest⟩ := Prod.mk.inj (toLex.injective h)
  exact (Prod.mk.inj (toLex.injective hrest)).2

theorem value_eq_of_propertyKey {path : Option String} {counts : Table String Int}
    (h : propertyKey path counts offset a = propertyKey path counts offset b) :
    a.value = b.value := by
  obtain ⟨-, hrest⟩ := Prod.mk.inj (toLex.injective h)
  obtain ⟨-, hrest⟩ := Prod.mk.inj (toLex.injective hrest)
  exact (Prod.mk.inj (toLex.injective hrest)).2

end Keys

namespace Ranking
variable {ranking : Ranking} {offset : Int}

theorem value_eq_of_isLE {a b : HintToken} (hab : (ranking.comparator offset a b).isLE = true)
    (hba : (ranking.comparator offset b a).isLE = true) : a.value = b.value := by
  cases ranking with
  | identifiers scope =>
    rw [(by_identifiers scope offset).isLE_iff] at hab hba
    exact value_eq_of_identifierKey (le_antisymm hab hba)
  | properties path counts =>
    rw [(by_properties path counts offset).isLE_iff] at hab hba
    exact value_eq_of_propertyKey (le_antisymm hab hba)

theorem mergeSort_eq_of_perm {l m : List HintToken} (hperm : l.Perm m)
    (hvalues : (l.map (·.value)).Nodup) :
    (l.mergeSort fun a b => (ranking.comparator offset a b).isLE) =
      m.mergeSort fun a b => (ranking.comparator offset a b).isLE := by
  have hsorted : (l.mergeSort fun a b => (ranking.comparator offset a b).isLE).Perm
      (m.mergeSort fun a b => (ranking.comparator offset a b).isLE) :=
    (List.mergeSort_perm l _).trans (hperm.trans (List.mergeSort_perm m _).symm)
  refine List.Perm.eq_of_pairwise ?_ (ranking.sorted_mergeSort offset l)
    (ranking.sorted_mergeSort offset m) hsorted
  intro a b ha hb hab hba
  have hal : a ∈ l := List.mem_mergeSort.1 ha
  have hbl : b ∈ l := hperm.mem_iff.2 (List.mem_mergeSort.1 hb)
  exact List.inj_on_of_nodup_map hvalues hal hbl (value_eq_of_isLE hab hba)

end Ranking

theorem take_keepFirst {α : Type} {k m : Int} (hk : 0 ≤ k) (hkm : k ≤ m) (l : List α) :
    (keepFirst m l).take k.toNat = keepFirst k l := by
  have hmin : min k.toNat m.toNat = k.toNat := by omega
  rw [keepFirst, keepFirst, if_neg (by omega), if_neg (by omega), List.take_take, hmin]

/-- Candidates that share no name are ranked alike in whatever order they come, and a smaller limit
shows the first hints of a larger one. -/
theorem rankHints_selection (ranking : Ranking) (offset : Int) (query : String) :
    (∀ candidates others : List HintToken, candidates.Perm others →
      (candidates.map (·.value)).Nodup → ∀ limit,
        rankHints candidates ranking offset query limit =
          rankHints others ranking offset query limit) ∧
    ∀ (candidates : List HintToken) (k m : Int), 0 ≤ k → k ≤ m →
      rankHints candidates ranking offset query k =
        (rankHints candidates ranking offset query m).take k.toNat := by
  constructor
  · intro candidates others hperm hvalues limit
    have hmatching : ((candidates.filter fun t => t.matchesQuery query).map (·.value)).Nodup :=
      hvalues.sublist (List.filter_sublist.map _)
    rw [rankHints, rankHints, Ranking.mergeSort_eq_of_perm (hperm.filter _) hmatching]
  · intro candidates k m hk hkm
    exact (take_keepFirst hk hkm _).symm

def mixedProperties : List HintToken :=
  [{ value := "beta", positions := [4, 20], kind := .property, path := some "other.js" },
    { value := "gamma", positions := [18], kind := .property, path := some "main.js" },
    { value := "bar", positions := [40], kind := .property, path := some "main.js" },
    { value := "bud", positions := [], kind := .property, path := some "other.js" }]

def mixedRanking : Ranking := .properties (some "main.js") (Table.empty.insert "bud" 2)

theorem rankHints_selection_mixed :
    (∀ limit, rankHints mixedProperties mixedRanking 18 "b" limit =
      rankHints mixedProperties.reverse mixedRanking 18 "b" limit) ∧
    (rankHints mixedProperties mixedRanking 18 "b" 2).map (·.value) = ["bud", "bar"] ∧
    rankHints mixedProperties mixedRanking 18 "b" 1 =
      (rankHints mixedProperties mixedRanking 18 "b" 2).take 1 := by
  obtain ⟨horder, hlimit⟩ := rankHints_selection mixedRanking 18 "b"
  have hvalues : (mixedProperties.map (·.value)).Nodup := by decide
  have hshown : (rankHints mixedProperties mixedRanking 18 "b" 2).map (·.value) =
      ["bud", "bar"] := by cbv
  exact ⟨horder _ _ (List.reverse_perm mixedProperties).symm hvalues, hshown,
    hlimit mixedProperties 1 2 (by decide) (by decide)⟩

/-! ### Longer queries -/

theorem HintToken.matchesQuery_of_prefix {query longer : String} (h : query.toList <+: longer.toList)
    (t : HintToken) :
    (decide (longer.toList <+: t.value.toList) && t.matchesQuery query) = t.matchesQuery longer := by
  have hlonger : t.matchesQuery longer = decide (longer.toList <+: t.value.toList) := by
    rw [matchesQuery, Bool.eq_iff_iff, List.isPrefixOf_iff_prefix, decide_eq_true_iff]
  rw [hlonger, Bool.and_eq_left_iff_imp, decide_eq_true_iff, matchesQuery,
    List.isPrefixOf_iff_prefix]
  exact h.trans

theorem Ranking.filter_mergeSort (ranking : Ranking) (offset : Int) (p : HintToken → Bool)
    (l : List HintToken) :
    (l.mergeSort fun a b => (ranking.comparator offset a b).isLE).filter p =
      (l.filter p).mergeSort fun a b => (ranking.comparator offset a b).isLE :=
  (ranking.sorts_mergeSort offset (l.filter p)).unique ((ranking.sorts_mergeSort offset l).filter p)

/-- What is left of the first items are the first ones of what is left. -/
theorem filter_keepFirst_prefix {α : Type} {limit : Int} (h : 0 ≤ limit) (p : α → Bool)
    (l : List α) : (keepFirst limit l).filter p <+: keepFirst limit (l.filter p) := by
  rw [keepFirst, keepFirst, if_neg (by omega), if_neg (by omega), List.prefix_take_iff]
  refine ⟨(List.take_prefix _ l).filter p, ?_⟩
  exact (List.length_filter_le p _).trans (List.length_take_le _ l)

/-- When more is typed, the hints that still match stand first, in the order in which they stood. -/
theorem rankHints_narrowed (candidates : List HintToken) (ranking : Ranking) (offset : Int)
    {query longer : String} (hquery : query.toList <+: longer.toList) {limit : Int}
    (hlimit : 0 ≤ limit) :
    ((rankHints candidates ranking offset query limit).filter fun t =>
        decide (longer.toList <+: t.value.toList)) <+:
      rankHints candidates ranking offset longer limit := by
  have hmatching : (candidates.filter fun t => t.matchesQuery longer) =
      (candidates.filter fun t => t.matchesQuery query).filter fun t =>
        decide (longer.toList <+: t.value.toList) := by
    rw [List.filter_filter]
    exact List.filter_congr fun t _ => (HintToken.matchesQuery_of_prefix hquery t).symm
  rw [rankHints, rankHints, hmatching, ← ranking.filter_mergeSort offset
    fun t => decide (longer.toList <+: t.value.toList)]
  exact filter_keepFirst_prefix hlimit _ _

theorem rankHints_narrowed_mixed :
    let candidates := { value := "baz", positions := [60], kind := .property } :: mixedProperties
    (rankHints candidates mixedRanking 18 "b" 2).map (·.value) = ["bud", "bar"] ∧
    (rankHints candidates mixedRanking 18 "ba" 2).map (·.value) = ["bar", "baz"] ∧
    ((rankHints candidates mixedRanking 18 "b" 2).filter fun t =>
        decide ("ba".toList <+: t.value.toList)) <+:
      rankHints candidates mixedRanking 18 "ba" 2 := by
  intro candidates
  have hshort : (rankHints candidates mixedRanking 18 "b" 2).map (·.value) = ["bud", "bar"] := by
    cbv
  have hlong : (rankHints candidates mixedRanking 18 "ba" 2).map (·.value) = ["bar", "baz"] := by
    cbv
  exact ⟨hshort, hlong,
    rankHints_narrowed candidates mixedRanking 18 (by decide) (by decide)⟩

end ScopeHints
