import Mathlib.Data.List.DropRight
import Mathlib.Data.Prod.Lex
import Mathlib.Data.String.Basic
import Mathlib.Order.Lattice.Nat
import Mathlib.Order.WithBot
import ScopeHints.Proofs.Hint.Ranking

/-! A ranking is a key: the hints for a query are the candidates that match it, sorted by the key,
with candidates of one key in the order in which they came. -/
namespace ScopeHints

/-! ### Stable sorting -/

section StablySorted
variable {α κ : Type} [LinearOrder κ] {key : α → κ}

/-- The items of a list in the order of their keys. Items of one key stand as they stood in the
list. -/
structure StablySorted (key : α → κ) (l sorted : List α) : Prop where
  perm : sorted.Perm l
  ascending : sorted.Pairwise fun a b => key a ≤ key b
  stable : ∀ k, (sorted.filter fun a => key a = k) = l.filter fun a => key a = k

theorem key_head_le {a b : α} {l : List α} (h : (a :: l).Pairwise fun a b => key a ≤ key b)
    (hb : b ∈ a :: l) : key a ≤ key b := by
  obtain rfl | hb := List.mem_cons.1 hb
  · exact le_refl _
  · exact (List.pairwise_cons.1 h).1 b hb

theorem mem_of_filter_eq {l m : List α}
    (h : ∀ k, (l.filter fun a => key a = k) = m.filter fun a => key a = k) {a : α} (ha : a ∈ l) :
    a ∈ m := by
  have hmem : a ∈ l.filter fun b => key b = key a := List.mem_filter.2 ⟨ha, by simp⟩
  rw [h] at hmem
  exact (List.mem_filter.1 hmem).1

theorem eq_of_ascending {l m : List α} (hl : l.Pairwise fun a b => key a ≤ key b)
    (hm : m.Pairwise fun a b => key a ≤ key b)
    (h : ∀ k, (l.filter fun a => key a = k) = m.filter fun a => key a = k) : l = m := by
  induction l generalizing m with
  | nil =>
    cases m with
    | nil => rfl
    | cons b m => cases mem_of_filter_eq (fun k => (h k).symm) (List.mem_cons_self (a := b))
  | cons a l ih =>
    cases m with
    | nil => cases mem_of_filter_eq h (List.mem_cons_self (a := a))
    | cons b m =>
      -- Both heads have the least key, and so they are the first items of that key.
      have hab : key a ≤ key b :=
        key_head_le hl (mem_of_filter_eq (fun k => (h k).symm) List.mem_cons_self)
      have hba : key b ≤ key a := key_head_le hm (mem_of_filter_eq h List.mem_cons_self)
      have hkey : key b = key a := le_antisymm hba hab
      have hfirst := h (key a)
      rw [List.filter_cons_of_pos (by simp),
        List.filter_cons_of_pos (by simpa using hkey)] at hfirst
      obtain ⟨rfl, -⟩ := List.cons.inj hfirst
      refine congrArg (a :: ·) (ih (List.pairwise_cons.1 hl).2 (List.pairwise_cons.1 hm).2 ?_)
      intro k
      have hk := h k
      by_cases hak : key a = k
      · rw [List.filter_cons_of_pos (by simpa using hak),
          List.filter_cons_of_pos (by simpa using hak)] at hk
        exact (List.cons.inj hk).2
      · rwa [List.filter_cons_of_neg (by simpa using hak),
          List.filter_cons_of_neg (by simpa using hak)] at hk

theorem StablySorted.unique {l sorted other : List α} (h : StablySorted key l sorted)
    (h' : StablySorted key l other) : other = sorted :=
  eq_of_ascending h'.ascending h.ascending fun k => (h'.stable k).trans (h.stable k).symm

theorem StablySorted.filter {l sorted : List α} (h : StablySorted key l sorted) (p : α → Bool) :
    StablySorted key (l.filter p) (sorted.filter p) := by
  refine ⟨h.perm.filter p, h.ascending.sublist List.filter_sublist, ?_⟩
  intro k
  rw [List.filter_comm, h.stable k, List.filter_comm]

theorem mergeSort_stablySorted {le : α → α → Bool} (hle : ∀ a b, le a b = true ↔ key a ≤ key b)
    (l : List α) : StablySorted key l (l.mergeSort le) := by
  have htrans : ∀ a b c, le a b = true → le b c = true → le a c = true := by
    intro a b c hab hbc
    rw [hle] at hab hbc ⊢
    exact hab.trans hbc
  have htotal : ∀ a b, (le a b || le b a) = true := by
    intro a b
    rw [Bool.or_eq_true, hle, hle]
    exact le_total _ _
  have hperm := List.mergeSort_perm l le
  refine ⟨hperm, (List.pairwise_mergeSort htrans htotal l).imp fun h => (hle _ _).1 h, ?_⟩
  intro k
  have hequal : (l.filter fun a => key a = k).Pairwise fun a b => le a b = true := by
    refine List.pairwise_of_forall_mem_list ?_
    intro a ha b hb
    have hak : key a = k := by simpa using (List.mem_filter.1 ha).2
    have hbk : key b = k := by simpa using (List.mem_filter.1 hb).2
    rw [hle, hak, hbk]
  -- A sublist that is in order already is a sublist of the sorted list.
  have hsub := (List.sublist_mergeSort htrans htotal hequal List.filter_sublist).filter
    fun a => decide (key a = k)
  rw [List.filter_filter] at hsub
  simp only [Bool.and_self] at hsub
  exact (hsub.eq_of_length (hperm.filter _).length_eq.symm).symm

end StablySorted

/-! ### Keys -/

def absentLast {α : Type} : Option α → WithTop α
  | none => ⊤
  | some a => a

section Keys
variable {κ μ : Type} [LinearOrder κ] [LinearOrder μ]

def Comparator.By (c : Comparator) (key : HintToken → κ) : Prop :=
  ∀ a b, c a b = compare (key a) (key b)

theorem compare_strictMono {f : κ → μ} (hf : StrictMono f) (a b : κ) :
    compare (f a) (f b) = compare a b := by
  rw [← cmp_eq_compare, ← cmp_eq_compare, hf.cmp_map_eq]

theorem compareAbsentLast_eq (a b : Option κ) :
    compareAbsentLast a b = compare (absentLast a) (absentLast b) := by
  cases a with
  | none =>
    cases b with
    | none => exact (compare_eq_iff_eq.2 rfl).symm
    | some b => exact (compare_gt_iff_gt.2 (WithTop.coe_lt_top b)).symm
  | some a =>
    cases b with
    | none => exact (compare_lt_iff_lt.2 (WithTop.coe_lt_top a)).symm
    | some b => exact (compare_strictMono WithTop.coe_strictMono a b).symm

theorem compare_toLex (a b : κ) (c d : μ) :
    compare (toLex (a, c)) (toLex (b, d)) = (compare a b).then (compare c d) := by
  rw [Prod.Lex.compare_def]
  rfl

theorem Comparator.By.isLE_iff {c : Comparator} {key : HintToken → κ} (h : c.By key)
    (a b : HintToken) : (c a b).isLE = true ↔ key a ≤ key b := by
  rw [h, Ordering.isLE_iff_ne_gt]
  exact compare_gt_iff_gt.not.trans not_lt

end Keys

namespace HintToken

/-- The least distance of an occurrence; without one it is beyond all distances. -/
def nearness (t : HintToken) (offset : Int) : WithTop ℕ :=
  (t.positions.map fun p => WithTop.some (p - offset).natAbs).foldr min ⊤

theorem absentLast_min? (l : List ℕ) :
    absentLast l.min? = (l.map WithTop.some).foldr min ⊤ := by
  induction l with
  | nil => rfl
  | cons n l ih =>
    rw [List.map_cons, List.foldr_cons, ← ih, List.min?_cons]
    cases l.min? with
    | none => exact (min_eq_left le_top).symm
    | some m => exact WithTop.coe_min n m

theorem absentLast_distance? (t : HintToken) (offset : Int) :
    absentLast (t.distance? offset) = t.nearness offset := by
  rw [distance?, absentLast_min?, List.map_map]
  rfl

end HintToken

namespace Comparator

theorem by_byName : byName.By HintToken.value := fun _ _ => rfl

theorem by_byPosition (offset : Int) : (byPosition offset).By fun t => t.nearness offset := by
  intro a b
  rw [byPosition, compareAbsentLast_eq, HintToken.absentLast_distance?,
    HintToken.absentLast_distance?]

def depthKey (scope : Option Scope) (t : HintToken) : WithTop ℕ :=
  absentLast (scope.bind fun s => s.depthOf? t.value)

/-- How often a candidate is counted, the larger counts first. -/
def countKey (counts : Table String Int) (t : HintToken) : WithTop ℤᵒᵈ :=
  absentLast ((counts.get? t.value).map OrderDual.toDual)

theorem by_byScope (scope : Option Scope) : (byScope scope).By (depthKey scope) :=
  fun _ _ => compareAbsentLast_eq _ _

theorem by_byPath (path : Option String) : (byPath path).By fun t => decide (t.path ≠ path) := by
  intro a b
  unfold byPath
  by_cases ha : a.path = path <;> by_cases hb : b.path = path <;> simp [ha, hb] <;> rfl

theorem by_byAssociation (counts : Table String Int) :
    (byAssociation counts).By (countKey counts) := by
  have hneg : StrictMono fun n : ℤᵒᵈ => -(OrderDual.ofDual n) := fun _ _ h => Int.neg_lt_neg h
  intro a b
  simp only [byAssociation, countKey]
  rw [← compareAbsentLast_eq]
  cases counts.get? a.value with
  | none => cases counts.get? b.value <;> rfl
  | some m =>
    cases counts.get? b.value with
    | none => rfl
    | some n => exact compare_strictMono hneg (OrderDual.toDual m) (OrderDual.toDual n)

end Comparator

/-! ### The keys of the rankings -/

/-- The candidates that the scope sees from the nearest declaration on, then the nearest ones, then
by name. -/
def identifierKey (scope : Option Scope) (offset : Int) (t : HintToken) :
    WithTop ℕ ×ₗ WithTop ℕ ×ₗ String :=
  toLex (Comparator.depthKey scope t, toLex (t.nearness offset, t.value))

/-- The most often counted candidates, then those of the file, then the nearest ones, then by
name. -/
def propertyKey (path : Option String) (counts : Table String Int) (offset : Int) (t : HintToken) :
    WithTop ℤᵒᵈ ×ₗ Bool ×ₗ WithTop ℕ ×ₗ String :=
  toLex (Comparator.countKey counts t,
    toLex (decide (t.path ≠ path), toLex (t.nearness offset, t.value)))

namespace Ranking

def Sorts (r : Ranking) (offset : Int) (l sorted : List HintToken) : Prop :=
  match r with
  | identifiers scope => StablySorted (identifierKey scope offset) l sorted
  | properties path counts => StablySorted (propertyKey path counts offset) l sorted

theorem by_identifiers (scope : Option Scope) (offset : Int) :
    ((identifiers scope).comparator offset).By (identifierKey scope offset) := by
  intro a b
  have hdepth := Comparator.by_byScope scope a b
  have hnear := Comparator.by_byPosition offset a b
  have hname := Comparator.by_byName a b
  rw [identifierKey, identifierKey, compare_toLex, compare_toLex, ← hdepth, ← hnear, ← hname,
    ← Ordering.then_assoc]
  rfl

theorem by_properties (path : Option String) (counts : Table String Int) (offset : Int) :
    ((properties path counts).comparator offset).By (propertyKey path counts offset) := by
  intro a b
  have hcount := Comparator.by_byAssociation counts a b
  have hpath := Comparator.by_byPath path a b
  have hnear := Comparator.by_byPosition offset a b
  have hname := Comparator.by_byName a b
  rw [propertyKey, propertyKey, compare_toLex, compare_toLex, compare_toLex, ← hcount, ← hpath,
    ← hnear, ← hname, ← Ordering.then_assoc, ← Ordering.then_assoc]
  rfl

theorem sorts_mergeSort (r : Ranking) (offset : Int) (l : List HintToken) :
    r.Sorts offset l (l.mergeSort fun a b => (r.comparator offset a b).isLE) := by
  cases r with
  | identifiers scope => exact mergeSort_stablySorted (by_identifiers scope offset).isLE_iff l
  | properties path counts =>
    exact mergeSort_stablySorted (by_properties path counts offset).isLE_iff l

theorem Sorts.unique {r : Ranking} {offset : Int} {l sorted other : List HintToken}
    (h : r.Sorts offset l sorted) (h' : r.Sorts offset l other) : other = sorted := by
  cases r with
  | identifiers scope => exact StablySorted.unique h h'
  | properties path counts => exact StablySorted.unique h h'

theorem Sorts.filter {r : Ranking} {offset : Int} {l sorted : List HintToken}
    (h : r.Sorts offset l sorted) (p : HintToken → Bool) :
    r.Sorts offset (l.filter p) (sorted.filter p) := by
  cases r with
  | identifiers scope => exact StablySorted.filter h p
  | properties path counts => exact StablySorted.filter h p

end Ranking

/-- The hints are the first ones of the candidates that begin with the query, in the one order that
the key of the ranking and the order of the candidates leave. The comparison behind it is a total
preorder. -/
theorem rankHints_eq_stablySorted (candidates : List HintToken) (ranking : Ranking) (offset : Int)
    (query : String) (limit : Int) :
    (∃ sorted,
      (∀ l, ranking.Sorts offset
        (candidates.filter fun t => decide (query.toList <+: t.value.toList)) l ↔ l = sorted) ∧
      rankHints candidates ranking offset query limit =
        if limit < 0 then sorted.rdrop limit.natAbs else sorted.take limit.toNat) ∧
    (∀ a b, ranking.comparator offset a b = (ranking.comparator offset b a).swap) ∧
    ∀ a b c, (ranking.comparator offset a b).isLE = true →
      (ranking.comparator offset b c).isLE = true →
        (ranking.comparator offset a c).isLE = true := by
  have hcmp := ranking.transCmp_comparator offset
  refine ⟨?_, fun a b => Std.OrientedCmp.eq_swap, fun a b c => Std.TransCmp.isLE_trans⟩
  have hmatching : (candidates.filter fun t => t.matchesQuery query) =
      candidates.filter fun t => decide (query.toList <+: t.value.toList) := by
    refine List.filter_congr fun t _ => ?_
    rw [HintToken.matchesQuery, Bool.eq_iff_iff, List.isPrefixOf_iff_prefix, decide_eq_true_iff]
  have hsorts := ranking.sorts_mergeSort offset
    (candidates.filter fun t => decide (query.toList <+: t.value.toList))
  refine ⟨_, fun l => ⟨fun h => hsorts.unique h, ?_⟩, ?_⟩
  · rintro rfl
    exact hsorts
  · rw [rankHints, hmatching]
    rfl

end ScopeHints
