import Mathlib.Algebra.GroupWithZero.Nat
import Mathlib.Data.List.Induction
import ScopeHints.Proofs.Scope.Query
import ScopeHints.Proofs.Table
import ScopeHints.Token.Merge

/-! Counts of associations. What a tree counts is what its records hold, and the counts of several
files put together are the sums of those of each file. -/
namespace ScopeHints

/-- A table holds the numbers of a function, and no entry where the number is zero. -/
def Tallies (counts : AssociationCounts) (n : Association → Nat) : Prop :=
  ∀ a, counts.get? a = if n a = 0 then none else some (n a : Int)

section Tallies
variable {counts total : AssociationCounts} {m n : Association → Nat}

theorem tallies_empty : Tallies Table.empty fun _ => 0 := fun _ => rfl

theorem Tallies.getD (h : Tallies counts n) (a : Association) :
    (counts.get? a).getD 0 = (n a : Int) := by
  rw [h a]
  split
  · rename_i hzero
    rw [hzero]
    rfl
  · rfl

theorem tallies_count (l : List Association) : Tallies (countAssociations Table.empty l) l.count := by
  induction l using List.reverseRecOn with
  | nil => exact fun _ => rfl
  | append_singleton l b ih =>
    intro a
    have hstep : countAssociations Table.empty (l ++ [b]) =
        (countAssociations Table.empty l).insert b
          (((countAssociations Table.empty l).get? b).getD 0 + 1) := by
      simp [countAssociations]
    rw [hstep, Table.get?_insert, ih.getD]
    simp only [List.count_append, List.count_singleton]
    by_cases hb : b = a
    · subst hb
      simp
    · simpa [hb] using ih a

theorem nodup_keys_count (l : List Association) :
    (countAssociations Table.empty l).keys.Nodup := by
  induction l using List.reverseRecOn with
  | nil => exact List.nodup_nil
  | append_singleton l b ih =>
    simp only [countAssociations, List.foldl_append, List.foldl_cons, List.foldl_nil] at ih ⊢
    exact Table.nodup_keys_insert ih _ _

theorem get?_addCounts (hn : counts.keys.Nodup) (total : AssociationCounts) (a : Association) :
    (addCounts total counts).get? a =
      match counts.get? a with
      | none => total.get? a
      | some k => some ((total.get? a).getD 0 + k) := by
  obtain ⟨entries⟩ := counts
  simp only [Table.keys, addCounts, Table.get?] at hn ⊢
  induction entries generalizing total with
  | nil => rfl
  | cons e entries ih =>
    obtain ⟨hnot, hn⟩ := List.nodup_cons.1 hn
    rw [List.foldl_cons, ih _ hn, Table.lookupIn]
    have hget := Table.get?_insert total a e.1 ((total.get? e.1).getD 0 + e.2)
    by_cases he : e.1 = a
    · subst he
      have hnone : Table.lookupIn e.1 entries = none := by
        cases hl : Table.lookupIn e.1 entries with
        | none => rfl
        | some k => exact absurd (List.mem_map_of_mem (Table.mem_of_lookupIn hl)) hnot
      rw [if_pos rfl] at hget
      rw [hnone, if_pos rfl]
      exact hget
    · rw [if_neg he] at hget
      rw [if_neg he]
      have hsame : Table.lookupIn a
          (total.insert e.1 ((Table.lookupIn e.1 total.entries).getD 0 + e.2)).entries =
          Table.lookupIn a total.entries := hget
      rw [hsame]

theorem Tallies.add (h : Tallies total m) (hc : Tallies counts n) (hn : counts.keys.Nodup) :
    Tallies (addCounts total counts) fun a => m a + n a := by
  intro a
  rw [get?_addCounts hn, hc a, h.getD]
  by_cases hzero : n a = 0
  · simp only [hzero, if_true, Nat.add_zero]
    exact h a
  · have hsum : ¬ m a + n a = 0 := by omega
    rw [if_neg hzero, if_neg hsum]
    simp

/-- The counts of several files add up to the sum of the numbers of each. -/
theorem Tallies.sum {β : Type} {counts : β → AssociationCounts} {n : β → Association → Nat}
    (l : List β) (hc : ∀ b ∈ l, Tallies (counts b) (n b) ∧ (counts b).keys.Nodup)
    (h : Tallies total m) :
    Tallies ((l.map counts).foldl addCounts total) fun a => m a + (l.map fun b => n b a).sum := by
  induction l generalizing total m with
  | nil => simpa using h
  | cons b l ih =>
    obtain ⟨hb, hn⟩ := hc b List.mem_cons_self
    have hrest := ih (fun c hmem => hc c (List.mem_cons_of_mem b hmem)) (h.add hb hn)
    simpa [Nat.add_assoc] using hrest

end Tallies

theorem get?_ofObject (counts : AssociationCounts) (object property : String) :
    (counts.ofObject object).get? property = counts.get? (object, property) := by
  obtain ⟨entries⟩ := counts
  simp only [AssociationCounts.ofObject, Table.get?]
  induction entries with
  | nil => rfl
  | cons e entries ih =>
    obtain ⟨⟨o, p⟩, n⟩ := e
    by_cases ho : o = object
    · by_cases hp : p = property
      · simp [Table.lookupIn, ho, hp]
      · simp [Table.lookupIn, ho, hp, ih]
    · simp [Table.lookupIn, ho, ih]

namespace ScopeTree
variable {tree : ScopeTree}

def associations (tree : ScopeTree) : List Association :=
  tree.records.toList.flatMap (·.associations)

theorem tallies_associationCounts (hw : tree.Wired) :
    Tallies tree.associationCounts tree.associations.count := by
  have hcount : (tree.scopes.flatMap fun s => s.record.associations).count =
      tree.associations.count := by
    funext a
    exact (flatMap_scopes_perm hw (·.associations)).count_eq a
  rw [← hcount]
  exact tallies_count _

theorem nodup_keys_associationCounts (tree : ScopeTree) : tree.associationCounts.keys.Nodup :=
  nodup_keys_count _

end ScopeTree

end ScopeHints
