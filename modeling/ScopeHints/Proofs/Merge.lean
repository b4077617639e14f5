import Mathlib.Algebra.BigOperators.Group.List.Basic
import Mathlib.Algebra.Ring.Int.Defs
import ScopeHints.Proofs.Association
import ScopeHints.Proofs.Token

/-! The files of one directory put together. Counts are added up, so that the order of the files
plays no part. Of property tokens the first one with a name stays, so that the order decides. -/
namespace ScopeHints

/-! ### Sums of counts -/

def countIn (tables : List AssociationCounts) (a : Association) : Option Int :=
  if tables.any fun t => t.contains a then some (tables.map fun t => (t.get? a).getD 0).sum
  else none

theorem countIn_perm {l m : List AssociationCounts} (h : l.Perm m) : countIn l = countIn m := by
  funext a
  simp only [countIn, h.any_eq, (h.map fun t => (t.get? a).getD 0).sum_eq]

section Counts
variable {total counts : AssociationCounts}

theorem countIn_singleton (a : Association) : countIn [total] a = total.get? a := by
  cases hget : total.get? a with
  | none => simp [countIn, Table.contains, hget]
  | some n => simp [countIn, Table.contains, hget]

theorem contains_addCounts (hn : counts.keys.Nodup) (a : Association) :
    (addCounts total counts).contains a = (total.contains a || counts.contains a) := by
  simp only [Table.contains, get?_addCounts hn]
  cases counts.get? a <;> simp

theorem getD_addCounts (hn : counts.keys.Nodup) (a : Association) :
    ((addCounts total counts).get? a).getD 0 =
      (total.get? a).getD 0 + (counts.get? a).getD 0 := by
  rw [get?_addCounts hn]
  cases counts.get? a <;> simp

theorem nodup_keys_addCounts (h : total.keys.Nodup) : (addCounts total counts).keys.Nodup := by
  obtain ⟨entries⟩ := counts
  simp only [addCounts]
  induction entries generalizing total with
  | nil => exact h
  | cons e entries ih => exact ih (Table.nodup_keys_insert h _ _)

theorem countIn_addCounts (hn : counts.keys.Nodup) (tables : List AssociationCounts)
    (a : Association) :
    countIn (addCounts total counts :: tables) a = countIn (total :: counts :: tables) a := by
  simp only [countIn, List.any_cons, contains_addCounts hn, Bool.or_assoc, List.map_cons,
    List.sum_cons, getD_addCounts hn, Int.add_assoc]

theorem get?_foldl_addCounts {tables : List AssociationCounts}
    (hn : ∀ t ∈ tables, t.keys.Nodup) (a : Association) :
    (tables.foldl addCounts total).get? a = countIn (total :: tables) a := by
  induction tables generalizing total with
  | nil => exact (countIn_singleton a).symm
  | cons t tables ih =>
    rw [List.foldl_cons, ih fun u hu => hn u (List.mem_cons_of_mem t hu),
      countIn_addCounts (hn t List.mem_cons_self)]

theorem nodup_keys_foldl_addCounts (h : total.keys.Nodup) (tables : List AssociationCounts) :
    (tables.foldl addCounts total).keys.Nodup := by
  induction tables generalizing total with
  | nil => exact h
  | cons t tables ih => exact ih (nodup_keys_addCounts h)

theorem get?_mergeAssociations {current : AssociationCounts} {siblings : List AssociationCounts}
    (hn : ∀ t ∈ current :: siblings, t.keys.Nodup) (a : Association) :
    (mergeAssociations current siblings).get? a = countIn (current :: siblings) a := by
  have hget : (Table.empty : AssociationCounts).get? a = none := rfl
  have hcontains : (Table.empty : AssociationCounts).contains a = false := rfl
  rw [mergeAssociations, get?_foldl_addCounts hn, countIn, List.any_cons, hcontains,
    Bool.false_or, List.map_cons, List.sum_cons, hget, Option.getD_none, Int.zero_add, countIn]

end Counts

/-! ### The first token with each name -/

/-- Of the tokens of a list the first one with each value, in the order in which the values first
stand in it. -/
structure FirstOfEach (tokens kept : List HintToken) : Prop where
  values : FirstMet (tokens.map (·.value)) (kept.map (·.value))
  first : ∀ token ∈ kept, tokens.find? (·.value = token.value) = some token

theorem firstOfEach_distinctTokens (tokens : List HintToken) :
    FirstOfEach tokens (distinctTokens tokens) := by
  refine ⟨firstMet_distinctTokens tokens, ?_⟩
  intro token htoken
  have hmem : token ∈ (distinctTokens tokens).filter (·.value = token.value) :=
    List.mem_filter.2 ⟨htoken, by simp⟩
  rw [filter_distinctTokens] at hmem
  exact Option.mem_toList.1 hmem

def mergeAll : List (List HintToken) → List HintToken
  | [] => []
  | current :: siblings => mergeProperties current siblings

theorem mergeAll_eq (lists : List (List HintToken)) :
    mergeAll lists = distinctTokens lists.flatten := by
  cases lists with
  | nil => rfl
  | cons current siblings => rfl

theorem distinctTokens_flatten (lists : List (List HintToken)) :
    distinctTokens (lists.map distinctTokens).flatten = distinctTokens lists.flatten := by
  induction lists with
  | nil => rfl
  | cons tokens lists ih =>
    have hmet := firstMet_distinctTokens tokens
    simp only [List.map_cons, List.flatten_cons, distinctTokens_append, ih,
      distinctTokens_of_nodup hmet.nodup, hmet.mem]

theorem mergeAll_groups (groups : List (List (List HintToken))) :
    mergeAll (groups.map mergeAll) = mergeAll groups.flatten := by
  have hgroups : groups.map mergeAll = (groups.map List.flatten).map distinctTokens := by
    rw [List.map_map]
    exact List.map_congr_left fun group _ => mergeAll_eq group
  rw [mergeAll_eq, mergeAll_eq, hgroups, distinctTokens_flatten, List.flatten_flatten]

/-! ### The files of a directory -/

/-- The counts of the files of a directory are their sums, with an entry for each association that
some file has, in whatever order the files are taken. The property tokens are the first ones of
each name, and lists that are put together in consecutive groups first come to the same. -/
theorem merge_files {current : AssociationCounts} {siblings : List AssociationCounts}
    (hn : ∀ t ∈ current :: siblings, t.keys.Nodup)
    (tokens : List HintToken) (others : List (List HintToken)) :
    (mergeAssociations current siblings).keys.Nodup ∧
      (∀ object property,
        (mergeAssociations current siblings).get? (object, property) =
            countIn (current :: siblings) (object, property) ∧
          ((mergeAssociations current siblings).ofObject object).get? property =
            countIn (current :: siblings) (object, property)) ∧
      (∀ first rest, (first :: rest).Perm (current :: siblings) →
        (mergeAssociations first rest).get? = (mergeAssociations current siblings).get?) ∧
      FirstOfEach (tokens :: others).flatten (mergeProperties tokens others) ∧
      ∀ groups : List (List (List HintToken)), groups.flatten = tokens :: others →
        mergeAll (groups.map mergeAll) = mergeProperties tokens others := by
  refine ⟨?_, ?_, ?_, ?_, ?_⟩
  · have hempty : (Table.empty : AssociationCounts).keys.Nodup := List.nodup_nil
    exact nodup_keys_foldl_addCounts hempty _
  · intro object property
    rw [get?_ofObject, get?_mergeAssociations hn]
    exact ⟨rfl, rfl⟩
  · intro first rest hperm
    have hrest : ∀ t ∈ first :: rest, t.keys.Nodup := fun t ht => hn t (hperm.mem_iff.1 ht)
    funext a
    rw [get?_mergeAssociations hn, get?_mergeAssociations hrest, countIn_perm hperm]
  · exact firstOfEach_distinctTokens _
  · intro groups hgroups
    rw [mergeAll_groups, hgroups]
    rfl

theorem merge_files_overlapping :
    let current : AssociationCounts := ⟨[(("menu", "open"), 2), (("row", "id"), 1)]⟩
    let second : AssociationCounts := ⟨[(("row", "id"), 3)]⟩
    let third : AssociationCounts := ⟨[(("row", "size"), 1), (("menu", "open"), 1)]⟩
    let token (name path : String) : HintToken :=
      { value := name, kind := .property, path := some path }
    let mine := [token "open" "a", token "id" "a"]
    let next := [token "size" "b", token "id" "b"]
    let last := [token "open" "c", token "size" "c"]
    (mergeAssociations current [second, third]).get? ("menu", "open") = some 3 ∧
      ((mergeAssociations current [second, third]).ofObject "row").get? "id" = some 4 ∧
      (mergeAssociations third [current, second]).get? =
        (mergeAssociations current [second, third]).get? ∧
      mergeProperties mine [next, last] = mine ++ [token "size" "b"] ∧
      mergeAll [mergeAll [mine], mergeAll [next, last]] = mergeProperties mine [next, last] := by
  intro current second third token mine next last
  have hn : ∀ t ∈ [current, second, third], t.keys.Nodup := by decide
  obtain ⟨-, hsums, hperm, -, hgroups⟩ := merge_files hn mine [next, last]
  refine ⟨(hsums "menu" "open").1, (hsums "row" "id").2, ?_, by decide,
    hgroups [[mine], [next, last]] rfl⟩
  refine hperm third [current, second] ?_
  exact (List.perm_append_comm : ([third] ++ [current, second]).Perm _)

end ScopeHints
