import Mathlib.Data.List.Induction
import ScopeHints.Proofs.Table
import ScopeHints.Token

/-! What gathering occurrences into tokens keeps: one token for each name, with all its positions in
rising order. Of tokens with one value the first one stays. Both keep the order in which the names
are first met. -/
namespace ScopeHints

/-! ### Names in the order in which they are first met -/

/-- The names of a list, each of them once, in the order in which they first stand in it. -/
structure FirstMet (met names : List String) : Prop where
  mem : ∀ name, name ∈ names ↔ name ∈ met
  order : names.Pairwise fun a b => met.idxOf a < met.idxOf b

section FirstMet
variable {met names : List String}

theorem firstMet_nil : FirstMet [] [] := ⟨fun _ => Iff.rfl, .nil⟩

theorem FirstMet.nodup (h : FirstMet met names) : names.Nodup :=
  h.order.imp fun hab he => Nat.ne_of_lt hab (congrArg met.idxOf he)

theorem FirstMet.concat (h : FirstMet met names) (name : String) :
    FirstMet (met ++ [name]) (if name ∈ names then names else names ++ [name]) := by
  have hkept : names.Pairwise fun a b => (met ++ [name]).idxOf a < (met ++ [name]).idxOf b := by
    refine h.order.imp_of_mem ?_
    intro a b ha hb hab
    rwa [List.idxOf_append_of_mem ((h.mem a).1 ha), List.idxOf_append_of_mem ((h.mem b).1 hb)]
  split
  · rename_i hname
    refine ⟨?_, hkept⟩
    intro other
    rw [List.mem_append, List.mem_singleton, h.mem]
    refine ⟨.inl, ?_⟩
    rintro (hother | rfl)
    · exact hother
    · exact (h.mem other).1 hname
  · rename_i hname
    refine ⟨fun other => by simp [h.mem], List.pairwise_append.2 ⟨hkept, by simp, ?_⟩⟩
    intro a ha b hb
    obtain rfl := List.mem_singleton.1 hb
    have hlast : (met ++ [b]).idxOf b = met.length := by
      rw [List.idxOf_append_of_notMem fun hb => hname ((h.mem b).2 hb)]
      simp
    rw [hlast, List.idxOf_append_of_mem ((h.mem a).1 ha)]
    exact List.idxOf_lt_length_of_mem ((h.mem a).1 ha)

end FirstMet

/-! ### Positions by name -/

def positionsIn (items : List (String × Int)) (name : String) : List Int :=
  (items.filter fun e => e.1 = name).map Prod.snd

theorem mem_positionsIn {items : List (String × Int)} {name : String} {pos : Int} :
    pos ∈ positionsIn items name ↔ (name, pos) ∈ items := by
  simp [positionsIn]

theorem positionsIn_append (l m : List (String × Int)) (name : String) :
    positionsIn (l ++ m) name = positionsIn l name ++ positionsIn m name := by
  simp [positionsIn]

namespace Collector

def gather (items : List (String × Int)) : Collector :=
  items.foldl (fun t (name, pos) => add t name pos) Table.empty

theorem gather_append (items : List (String × Int)) (e : String × Int) :
    gather (items ++ [e]) = add (gather items) e.1 e.2 := by
  simp [gather]

theorem firstMet_gather (items : List (String × Int)) :
    FirstMet (items.map Prod.fst) (gather items).keys := by
  induction items using List.reverseRecOn with
  | nil => exact firstMet_nil
  | append_singleton items e ih =>
    rw [gather_append, add, Table.keys_insert, List.map_append]
    exact ih.concat e.1

theorem nodup_keys_gather (items : List (String × Int)) : (gather items).keys.Nodup :=
  (firstMet_gather items).nodup

theorem mem_keys_gather (items : List (String × Int)) (name : String) :
    name ∈ (gather items).keys ↔ name ∈ items.map Prod.fst :=
  (firstMet_gather items).mem name

theorem getD_get?_gather (items : List (String × Int)) (name : String) :
    ((gather items).get? name).getD [] = positionsIn items name := by
  induction items using List.reverseRecOn with
  | nil => rfl
  | append_singleton items e ih =>
    rw [gather_append, add, Table.get?_insert, positionsIn_append]
    split
    · rename_i he
      subst he
      rw [← ih]
      simp [positionsIn]
    · rename_i he
      rw [ih]
      simp [positionsIn, he]

end Collector

section Collected
variable {items : List (String × Int)} {kind : HintKind} {path : Option String}

theorem map_value_collectTokens :
    (collectTokens items kind path).map (·.value) = (Collector.gather items).keys := by
  simp [collectTokens, Collector.tokens, Collector.gather, Table.keys, Function.comp_def]

theorem nodup_collectTokens : ((collectTokens items kind path).map (·.value)).Nodup := by
  rw [map_value_collectTokens]
  exact Collector.nodup_keys_gather items

/-- The tokens of a list are those of its names, each with all positions of the name in order. -/
theorem mem_collectTokens {token : HintToken} :
    token ∈ collectTokens items kind path ↔ token.value ∈ items.map Prod.fst ∧
      token = { value := token.value, positions := (positionsIn items token.value).mergeSort,
                kind, path } := by
  have hnodup := Collector.nodup_keys_gather items
  constructor
  · intro h
    obtain ⟨⟨name, positions⟩, hmem, rfl⟩ := List.mem_map.1 h
    have hget : (Collector.gather items).get? name = some positions := Table.get?_of_mem hnodup hmem
    have hpositions := Collector.getD_get?_gather items name
    rw [hget, Option.getD_some] at hpositions
    refine ⟨(Collector.mem_keys_gather items name).1 (List.mem_map_of_mem hmem), ?_⟩
    rw [hpositions]
  · rintro ⟨hname, htoken⟩
    have hkey := (Collector.mem_keys_gather items token.value).2 hname
    obtain ⟨positions, hget⟩ := Option.isSome_iff_exists.1 (Table.mem_keys_iff.1 hkey)
    have hpositions := Collector.getD_get?_gather items token.value
    rw [hget, Option.getD_some] at hpositions
    refine List.mem_map.2 ⟨(token.value, positions), Table.mem_entries hget, ?_⟩
    rw [htoken, hpositions]

theorem pairwise_mergeSort (l : List Int) : l.mergeSort.Pairwise (· ≤ ·) := by
  have hsorted : l.mergeSort.Pairwise fun a b => decide (a ≤ b) = true := by
    refine List.pairwise_mergeSort ?_ ?_ l
    · intro a b c hab hbc
      rw [decide_eq_true_eq] at hab hbc ⊢
      omega
    · intro a b
      rw [Bool.or_eq_true, decide_eq_true_eq, decide_eq_true_eq]
      omega
  exact hsorted.imp of_decide_eq_true

theorem sorted_positions {token : HintToken} (h : token ∈ collectTokens items kind path) :
    token.positions.Pairwise (· ≤ ·) := by
  obtain ⟨-, htoken⟩ := mem_collectTokens.1 h
  rw [htoken]
  exact pairwise_mergeSort _

theorem mem_of_mem_positions {token : HintToken} (h : token ∈ collectTokens items kind path)
    {pos : Int} (hpos : pos ∈ token.positions) : (token.value, pos) ∈ items := by
  obtain ⟨-, htoken⟩ := mem_collectTokens.1 h
  rw [htoken] at hpos
  exact mem_positionsIn.1 (List.mem_mergeSort.1 hpos)

theorem find?_collectTokens (name : String) :
    (collectTokens items kind path).find? (·.value = name) =
      if name ∈ items.map Prod.fst then
        some { value := name, positions := (positionsIn items name).mergeSort, kind, path }
      else none := by
  cases hfind : (collectTokens items kind path).find? (·.value = name) with
  | some token =>
    have hvalue : token.value = name := by simpa using List.find?_some hfind
    obtain ⟨hname, htoken⟩ := mem_collectTokens.1 (List.mem_of_find?_eq_some hfind)
    rw [hvalue] at hname htoken
    rw [if_pos hname, htoken]
  | none =>
    rw [if_neg]
    intro hname
    have hmem : ({ value := name, positions := (positionsIn items name).mergeSort, kind, path } :
        HintToken) ∈ collectTokens items kind path := mem_collectTokens.2 ⟨hname, rfl⟩
    simpa using List.find?_eq_none.1 hfind _ hmem

end Collected

theorem mergeSort_eq_of_perm {l m : List Int} (h : l.Perm m) : l.mergeSort = m.mergeSort := by
  refine List.Perm.eq_of_pairwise ?_ (pairwise_mergeSort l) (pairwise_mergeSort m) ?_
  · intro a b _ _ hab hba
    omega
  · exact (List.mergeSort_perm l _).trans (h.trans (List.mergeSort_perm m _).symm)

/-! ### One token for each value -/

def firstTokens (tokens : List HintToken) : Table String HintToken :=
  tokens.foldl (fun t token => t.insertNew token.value token) Table.empty

theorem firstTokens_append (tokens : List HintToken) (token : HintToken) :
    firstTokens (tokens ++ [token]) = (firstTokens tokens).insertNew token.value token := by
  simp [firstTokens]

theorem mem_keys_firstTokens (tokens : List HintToken) (name : String) :
    name ∈ (firstTokens tokens).keys ↔ name ∈ tokens.map (·.value) := by
  have hkeys : FirstMet (tokens.map (·.value)) (firstTokens tokens).keys := by
    induction tokens using List.reverseRecOn with
    | nil => exact firstMet_nil
    | append_singleton tokens token ih =>
      rw [firstTokens_append, Table.keys_insertNew, List.map_append]
      exact ih.concat token.value
  exact hkeys.mem name

theorem distinctTokens_concat (tokens : List HintToken) (token : HintToken) :
    distinctTokens (tokens ++ [token]) =
      if token.value ∈ tokens.map (·.value) then distinctTokens tokens
      else distinctTokens tokens ++ [token] := by
  have hkey := mem_keys_firstTokens tokens token.value
  rw [Table.mem_keys_iff] at hkey
  have hdistinct : ∀ l, distinctTokens l = (firstTokens l).values := fun l => rfl
  rw [hdistinct, hdistinct, firstTokens_append, Table.insertNew]
  by_cases h : (firstTokens tokens).contains token.value = true
  · rw [if_pos h, if_pos (hkey.1 h)]
  · rw [if_neg h, if_neg fun hm => h (hkey.2 hm)]
    simp [Table.values]

/-- Of two lists the first one stands, then what the second one adds to it. -/
theorem distinctTokens_append (l m : List HintToken) :
    distinctTokens (l ++ m) =
      distinctTokens l ++ (distinctTokens m).filter fun t => t.value ∉ l.map (·.value) := by
  induction m using List.reverseRecOn with
  | nil =>
    have hnil : distinctTokens [] = [] := rfl
    simp [hnil]
  | append_singleton m token ih =>
    rw [← List.append_assoc, distinctTokens_concat, distinctTokens_concat, ih, List.map_append]
    by_cases hm : token.value ∈ m.map (·.value)
    · rw [if_pos hm, if_pos (List.mem_append_right _ hm)]
    · rw [if_neg hm, List.filter_append, ← List.append_assoc]
      by_cases hl : token.value ∈ l.map (·.value)
      · rw [if_pos (List.mem_append_left _ hl), List.filter_cons_of_neg (by simpa using hl)]
        simp
      · have hnot : token.value ∉ l.map (·.value) ++ m.map (·.value) := by
          rw [List.mem_append, not_or]
          exact ⟨hl, hm⟩
        rw [if_neg hnot, List.filter_cons_of_pos (by simpa using hl)]
        simp

theorem firstMet_distinctTokens (tokens : List HintToken) :
    FirstMet (tokens.map (·.value)) ((distinctTokens tokens).map (·.value)) := by
  induction tokens using List.reverseRecOn with
  | nil => exact firstMet_nil
  | append_singleton tokens token ih =>
    have hvalues : (distinctTokens (tokens ++ [token])).map (·.value) =
        if token.value ∈ (distinctTokens tokens).map (·.value) then
          (distinctTokens tokens).map (·.value)
        else (distinctTokens tokens).map (·.value) ++ [token.value] := by
      rw [distinctTokens_concat, if_congr (ih.mem token.value) rfl rfl]
      split
      · rfl
      · exact List.map_append
    rw [hvalues, List.map_append]
    exact ih.concat token.value

theorem nodup_distinctTokens (tokens : List HintToken) :
    ((distinctTokens tokens).map (·.value)).Nodup ∧
      ∀ name ∈ (distinctTokens tokens).map (·.value), name ∈ tokens.map (·.value) :=
  ⟨(firstMet_distinctTokens tokens).nodup, fun name => ((firstMet_distinctTokens tokens).mem name).1⟩

theorem distinctTokens_of_nodup {tokens : List HintToken} (h : (tokens.map (·.value)).Nodup) :
    distinctTokens tokens = tokens := by
  induction tokens using List.reverseRecOn with
  | nil => rfl
  | append_singleton tokens token ih =>
    rw [List.map_append] at h
    obtain ⟨hl, -, hne⟩ := List.nodup_append.1 h
    have hnot : token.value ∉ tokens.map (·.value) := fun hm => hne _ hm token.value (by simp) rfl
    rw [distinctTokens_concat, if_neg hnot, ih hl]

theorem filter_distinctTokens (tokens : List HintToken) (name : String) :
    (distinctTokens tokens).filter (·.value = name) =
      (tokens.find? (·.value = name)).toList := by
  induction tokens using List.reverseRecOn with
  | nil => rfl
  | append_singleton tokens token ih =>
    have hfirst : name ∈ tokens.map (·.value) ↔ (tokens.find? (·.value = name)).isSome = true := by
      simp [List.find?_isSome, List.mem_map]
    rw [distinctTokens_concat, List.find?_append]
    by_cases hname : token.value = name
    · rw [hname]
      split
      · rename_i hmem
        obtain ⟨first, hfind⟩ := Option.isSome_iff_exists.1 (hfirst.1 hmem)
        rw [ih, hfind]
        rfl
      · rename_i hmem
        have hnone : tokens.find? (·.value = name) = none :=
          Option.not_isSome_iff_eq_none.1 (mt hfirst.2 hmem)
        rw [List.filter_append, ih, hnone]
        simp [hname]
    · have hskip : [token].find? (·.value = name) = none := by simp [hname]
      rw [hskip, Option.or_none, ← ih]
      split
      · rfl
      · simp [hname]

end ScopeHints
