import Mathlib.Data.List.Basic
import ScopeHints.Data.Table

/-! What a table answers after each of its operations. -/
namespace ScopeHints.Table
variable {κ α : Type} [DecidableEq κ]

theorem get?_insert (t : Table κ α) (j k : κ) (a : α) :
    (t.insert k a).get? j = if k = j then some a else t.get? j := by
  by_cases h : k = j
  · subst h
    simp
  · simp [get?_insert_of_ne t h, h]

theorem insertIn_insertIn (k : κ) (a b : α) (l : List (κ × α)) :
    insertIn k b (insertIn k a l) = insertIn k b l := by
  induction l with
  | nil => simp [insertIn]
  | cons e l ih =>
    by_cases hk : e.1 = k
    · simp [insertIn, hk]
    · simp [insertIn, hk, ih]

theorem insert_insert (t : Table κ α) (k : κ) (a b : α) :
    (t.insert k a).insert k b = t.insert k b :=
  congrArg Table.mk (insertIn_insertIn k a b t.entries)

theorem lookupIn_filter_ne (j k : κ) (l : List (κ × α)) :
    lookupIn j (l.filter fun e => e.1 ≠ k) = if k = j then none else lookupIn j l := by
  induction l with
  | nil => simp [lookupIn]
  | cons e l ih =>
    by_cases hk : e.1 = k
    · rw [List.filter_cons_of_neg (by simp [hk]), ih]
      by_cases hj : k = j
      · simp [hj]
      · simp [lookupIn, hk, hj]
    · rw [List.filter_cons_of_pos (by simp [hk]), lookupIn, ih]
      by_cases hj : e.1 = j
      · simp [lookupIn, ← hj, Ne.symm hk]
      · simp [lookupIn, hj]

theorem get?_erase (t : Table κ α) (j k : κ) :
    (t.erase k).get? j = if k = j then none else t.get? j :=
  lookupIn_filter_ne j k t.entries

theorem mem_of_lookupIn {k : κ} {a : α} {l : List (κ × α)} (h : lookupIn k l = some a) :
    (k, a) ∈ l := by
  induction l with
  | nil => simp [lookupIn] at h
  | cons e l ih =>
    by_cases hk : e.1 = k
    · simp only [lookupIn, hk, if_true, Option.some.injEq] at h
      simp [← hk, ← h]
    · simp only [lookupIn, hk, if_false] at h
      exact List.mem_cons_of_mem e (ih h)

theorem mem_entries {t : Table κ α} {k : κ} {a : α} (h : t.get? k = some a) :
    (k, a) ∈ t.entries :=
  mem_of_lookupIn h

theorem mem_keys_iff {t : Table κ α} {k : κ} : k ∈ t.keys ↔ t.contains k = true := by
  obtain ⟨entries⟩ := t
  simp only [keys, contains, get?]
  induction entries with
  | nil => simp [lookupIn]
  | cons e l ih =>
    by_cases hk : e.1 = k
    · simp [lookupIn, hk]
    · simp [lookupIn, hk, Ne.symm hk, ih]

theorem keys_insertIn (k : κ) (a : α) (l : List (κ × α)) :
    (insertIn k a l).map Prod.fst =
      if k ∈ l.map Prod.fst then l.map Prod.fst else l.map Prod.fst ++ [k] := by
  induction l with
  | nil => simp [insertIn]
  | cons e l ih =>
    by_cases hk : e.1 = k
    · simp [insertIn, hk]
    · simp only [insertIn, hk, if_false, List.map_cons, ih, List.mem_cons, Ne.symm hk, false_or]
      split <;> simp

theorem keys_insert (t : Table κ α) (k : κ) (a : α) :
    (t.insert k a).keys = if k ∈ t.keys then t.keys else t.keys ++ [k] :=
  keys_insertIn k a t.entries

theorem keys_insertNew (t : Table κ α) (k : κ) (a : α) :
    (t.insertNew k a).keys = if k ∈ t.keys then t.keys else t.keys ++ [k] := by
  by_cases hk : k ∈ t.keys
  · rw [if_pos hk, insertNew, if_pos (mem_keys_iff.1 hk)]
  · rw [if_neg hk, insertNew, if_neg fun hc => hk (mem_keys_iff.2 hc)]
    simp [keys]

theorem nodup_keys_insert {t : Table κ α} (h : t.keys.Nodup) (k : κ) (a : α) :
    (t.insert k a).keys.Nodup := by
  rw [keys_insert]
  split
  · exact h
  · rename_i hk
    refine List.nodup_append.2 ⟨h, by simp, ?_⟩
    rintro j hj k' hk' rfl
    rw [List.mem_singleton.1 hk'] at hj
    exact hk hj

theorem get?_of_mem {t : Table κ α} (hn : t.keys.Nodup) {k : κ} {a : α} (h : (k, a) ∈ t.entries) :
    t.get? k = some a := by
  obtain ⟨entries⟩ := t
  simp only [keys, get?] at hn h ⊢
  induction entries with
  | nil => cases h
  | cons e l ih =>
    obtain ⟨hne, hnl⟩ := List.nodup_cons.1 hn
    obtain rfl | h := List.mem_cons.1 h
    · simp [lookupIn]
    · have hk : e.1 ≠ k := by
        intro he
        rw [he] at hne
        exact hne (List.mem_map_of_mem h)
      rw [lookupIn, if_neg hk]
      exact ih hnl h

theorem mem_insertIn {k : κ} {a : α} {l : List (κ × α)} {e : κ × α} (h : e ∈ insertIn k a l) :
    e = (k, a) ∨ e ∈ l := by
  induction l with
  | nil => exact .inl (List.mem_singleton.1 h)
  | cons d l ih =>
    unfold insertIn at h
    split at h
    · exact (List.mem_cons.1 h).imp_right (List.mem_cons_of_mem d)
    · obtain rfl | h := List.mem_cons.1 h
      · exact .inr List.mem_cons_self
      · exact (ih h).imp_right (List.mem_cons_of_mem d)

/-- A reading of the entries does not see a new value that reads as the old one did, or a new key
that reads as nothing. -/
theorem filterMap_insertIn {β : Type} (F : κ × α → Option β) {k : κ} {a : α} {l : List (κ × α)}
    (h : F (k, a) = (lookupIn k l).bind fun b => F (k, b)) :
    (insertIn k a l).filterMap F = l.filterMap F := by
  induction l with
  | nil =>
    have hnone : F (k, a) = none := h
    simp [insertIn, hnone]
  | cons d l ih =>
    by_cases hk : d.1 = k
    · simp only [lookupIn, hk, if_true, Option.bind_some] at h
      have hd : F d = F (k, a) := by rw [h, ← hk]
      simp [insertIn, hk, List.filterMap_cons, hd]
    · simp only [lookupIn, hk, if_false] at h
      simp [insertIn, hk, List.filterMap_cons, ih h]

theorem filterMap_erase {β : Type} (F : κ × α → Option β) {k : κ} {t : Table κ α}
    (h : ∀ e ∈ t.entries, e.1 = k → F e = none) :
    (t.erase k).entries.filterMap F = t.entries.filterMap F := by
  rw [erase, List.filterMap_filter]
  apply List.filterMap_congr
  intro e he
  by_cases hk : e.1 = k
  · simp [hk, h e he hk]
  · simp [hk]

theorem countP_insertIn (P : α → Bool) {k : κ} {a b : α} {l : List (κ × α)}
    (h : lookupIn k l = some b) :
    ((insertIn k a l).map Prod.snd).countP P + (P b).toNat =
      (l.map Prod.snd).countP P + (P a).toNat := by
  induction l with
  | nil => simp [lookupIn] at h
  | cons e l ih =>
    by_cases hk : e.1 = k
    · obtain rfl : e.2 = b := by simpa [lookupIn, hk] using h
      simp only [insertIn, hk, if_true, List.map_cons, List.countP_cons]
      cases P a <;> cases P e.2 <;> simp
    · have hrest := ih (by simpa [lookupIn, hk] using h)
      simp only [insertIn, hk, if_false, List.map_cons, List.countP_cons]
      omega

/-- A table without repeated keys is its keys, each with the value stored under it. -/
theorem entries_eq_map {t : Table κ α} (hn : t.keys.Nodup) {F : κ → α}
    (hF : ∀ k a, t.get? k = some a → F k = a) : t.entries = t.keys.map fun k => (k, F k) := by
  have hentry : ∀ e ∈ t.entries, (e.1, F e.1) = e := by
    intro e he
    rw [hF e.1 e.2 (get?_of_mem hn he)]
  rw [keys, List.map_map]
  exact (List.map_id' t.entries ▸ List.map_congr_left hentry).symm

end ScopeHints.Table
