import ScopeHints.Hint.Ranking

/-! Every ranking is an order of the candidates, so that sorting by it puts them in this order. -/
namespace ScopeHints

section AbsentLast
variable {α : Type} [Ord α]

theorem compareAbsentLast_swap [Std.OrientedOrd α] (a b : Option α) :
    compareAbsentLast a b = (compareAbsentLast b a).swap := by
  cases a with
  | none => cases b <;> rfl
  | some x =>
    cases b with
    | none => rfl
    | some y =>
      change compare x y = (compare y x).swap
      exact Std.OrientedOrd.eq_swap

theorem compareAbsentLast_trans [Std.TransOrd α] {a b c : Option α}
    (hab : (compareAbsentLast a b).isLE = true) (hbc : (compareAbsentLast b c).isLE = true) :
    (compareAbsentLast a c).isLE = true := by
  cases a with
  | none =>
    cases b with
    | none => exact hbc
    | some y => cases hab
  | some x =>
    cases c with
    | none => rfl
    | some z =>
      cases b with
      | none => cases hbc
      | some y =>
        change (compare x z).isLE = true
        exact Std.TransOrd.isLE_trans hab hbc

theorem present_of_isLE_compareAbsentLast {a b : Option α}
    (h : (compareAbsentLast a b).isLE = true) {y : α} (hb : b = some y) :
    ∃ x, a = some x ∧ (compare x y).isLE = true := by
  subst hb
  cases a with
  | none => cases h
  | some x => exact ⟨x, rfl, h⟩

end AbsentLast

namespace Comparator

theorem transCmp_key {α : Type} [Ord α] [Std.TransOrd α] (key : HintToken → Option α) :
    Std.TransCmp fun a b => compareAbsentLast (key a) (key b) :=
  { eq_swap := compareAbsentLast_swap _ _, isLE_trans := compareAbsentLast_trans }

theorem transCmp_byName : Std.TransCmp byName :=
  { eq_swap := Std.OrientedOrd.eq_swap, isLE_trans := Std.TransOrd.isLE_trans }

theorem lexicographic_cons (first c : Comparator) (rest : List Comparator) :
    lexicographic first (c :: rest) = lexicographic (compareLex first c) rest := rfl

theorem transCmp_lexicographic {first : Comparator} {rest : List Comparator}
    (hfirst : Std.TransCmp first) (hrest : ∀ c ∈ rest, Std.TransCmp c) :
    Std.TransCmp (lexicographic first rest) := by
  induction rest generalizing first with
  | nil => exact hfirst
  | cons c rest ih =>
    have hc : Std.TransCmp c := hrest c List.mem_cons_self
    have hlex : Std.TransCmp (compareLex first c) := inferInstance
    rw [lexicographic_cons]
    exact ih hlex fun d hd => hrest d (List.mem_cons_of_mem c hd)

theorem isLE_first {first : Comparator} {rest : List Comparator} {a b : HintToken}
    (h : (lexicographic first rest a b).isLE = true) : (first a b).isLE = true := by
  induction rest generalizing first with
  | nil => exact h
  | cons c rest ih =>
    rw [lexicographic_cons] at h
    have hlex : (compareLex first c a b).isLE = true := ih h
    unfold compareLex at hlex
    revert hlex
    cases first a b <;> simp

end Comparator

namespace Ranking

theorem transCmp_comparator (r : Ranking) (offset : Int) : Std.TransCmp (r.comparator offset) := by
  cases r with
  | identifiers scope =>
    refine Comparator.transCmp_lexicographic (Comparator.transCmp_key _) ?_
    simp only [List.forall_mem_cons]
    exact ⟨Comparator.transCmp_key _, Comparator.transCmp_byName, by simp⟩
  | properties path counts =>
    refine Comparator.transCmp_lexicographic (Comparator.transCmp_key _) ?_
    simp only [List.forall_mem_cons]
    exact ⟨Comparator.transCmp_key _, Comparator.transCmp_key _, Comparator.transCmp_byName, by simp⟩

theorem sorted_mergeSort (ranking : Ranking) (offset : Int) (l : List HintToken) :
    (l.mergeSort fun a b => (ranking.comparator offset a b).isLE).Pairwise fun a b =>
      (ranking.comparator offset a b).isLE = true := by
  have htrans := ranking.transCmp_comparator offset
  refine List.pairwise_mergeSort ?_ ?_ l
  · intro a b c hab hbc
    exact Std.TransCmp.isLE_trans hab hbc
  · intro a b
    have hswap : ranking.comparator offset a b = (ranking.comparator offset b a).swap :=
      Std.OrientedCmp.eq_swap
    rw [hswap]
    cases ranking.comparator offset b a <;> rfl

end Ranking

theorem keepFirst_sublist {α : Type} (limit : Int) (l : List α) : (keepFirst limit l).Sublist l := by
  unfold keepFirst
  split <;> exact List.take_sublist _ _

theorem mem_of_mem_rankHints {candidates : List HintToken} {ranking : Ranking} {offset : Int}
    {query : String} {limit : Int} {t : HintToken}
    (h : t ∈ rankHints candidates ranking offset query limit) : t ∈ candidates := by
  have hsorted := List.mem_mergeSort.1 ((keepFirst_sublist _ _).subset h)
  exact (List.mem_filter.1 hsorted).1

/-- Ranked candidates stand in the order of the ranking. -/
theorem rankHints_sorted (candidates : List HintToken) (ranking : Ranking) (offset : Int)
    (query : String) (limit : Int) :
    (rankHints candidates ranking offset query limit).Pairwise fun a b =>
      (ranking.comparator offset a b).isLE = true :=
  (ranking.sorted_mergeSort offset _).sublist (keepFirst_sublist _ _)

/-- In a ranking of identifiers no name that the scope cannot see stands before one that it can see,
and the names that it can see stand in the order of their distance. -/
theorem rankHints_identifiers (candidates : List HintToken) (scope : Scope) (offset : Int)
    (query : String) (limit : Int) :
    (rankHints candidates (.identifiers (some scope)) offset query limit).Pairwise fun a b =>
      ∀ j, scope.depthOf? b.value = some j → ∃ i, scope.depthOf? a.value = some i ∧ i ≤ j := by
  refine (rankHints_sorted candidates (.identifiers (some scope)) offset query limit).imp ?_
  intro a b hab j hj
  obtain ⟨i, hi, hle⟩ := present_of_isLE_compareAbsentLast (Comparator.isLE_first hab) hj
  exact ⟨i, hi, Nat.isLE_compare.1 hle⟩

end ScopeHints
