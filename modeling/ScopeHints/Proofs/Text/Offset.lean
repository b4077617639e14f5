import ScopeHints.ParseTree.Source

/-! Byte offsets of a text fall on characters of it, in order. -/
namespace ScopeHints

namespace Text

/-- The part of an offset table that belongs to a text whose first character is number `k`. -/
def byteOwners (k : Nat) (text : List Char) : List Nat :=
  (text.zipIdx k).flatMap fun (c, i) => List.replicate c.utf8Size i

theorem byteOwners_cons (k : Nat) (c : Char) (text : List Char) :
    byteOwners k (c :: text) = List.replicate c.utf8Size k ++ byteOwners (k + 1) text := by
  simp [byteOwners]

theorem length_byteOwners (k : Nat) (text : List Char) :
    (byteOwners k text).length = byteLength text := by
  induction text generalizing k with
  | nil => rfl
  | cons c text ih => simp [byteOwners_cons, byteLength, ih]

theorem mem_byteOwners {k x : Nat} {text : List Char} (h : x ∈ byteOwners k text) :
    k ≤ x ∧ x < k + text.length := by
  induction text generalizing k with
  | nil => simp [byteOwners] at h
  | cons c text ih =>
    rw [byteOwners_cons] at h
    obtain h | h := List.mem_append.1 h
    · have hx := List.eq_of_mem_replicate h
      simp [hx]
    · have hx := ih h
      simp only [List.length_cons]
      omega

theorem byteOwners_sorted (k : Nat) (text : List Char) :
    (byteOwners k text).Pairwise (· ≤ ·) := by
  induction text generalizing k with
  | nil => simp [byteOwners]
  | cons c text ih =>
    rw [byteOwners_cons, List.pairwise_append]
    refine ⟨List.pairwise_replicate.2 (.inr (Nat.le_refl k)), ih (k + 1), ?_⟩
    intro x hx y hy
    have hxk := List.eq_of_mem_replicate hx
    have hyk := mem_byteOwners hy
    omega

theorem length_offsetTable (text : List Char) : (offsetTable text).length = byteLength text + 1 := by
  have h := length_byteOwners 0 text
  simp only [offsetTable, List.length_append, List.length_singleton]
  exact congrArg (· + 1) h

theorem mem_offsetTable {text : List Char} {x : Nat} (h : x ∈ offsetTable text) :
    x ≤ text.length := by
  obtain h | h := List.mem_append.1 h
  · have hx := mem_byteOwners (k := 0) h
    omega
  · exact Nat.le_of_eq (List.mem_singleton.1 h)

theorem offsetTable_sorted (text : List Char) : (offsetTable text).Pairwise (· ≤ ·) := by
  unfold offsetTable
  refine List.pairwise_append.2 ⟨byteOwners_sorted 0 text, List.pairwise_singleton _ _, ?_⟩
  intro x hx y hy
  have hxk := mem_byteOwners (k := 0) hx
  rw [List.mem_singleton.1 hy]
  omega

theorem byteLength_of_isAscii {text : List Char} (h : isAscii text = true) :
    byteLength text = text.length := by
  induction text with
  | nil => rfl
  | cons c text ih =>
    obtain ⟨hc, ht⟩ : c.toNat < 128 ∧ isAscii text = true := by
      simpa [isAscii] using h
    have hsize : c.utf8Size = 1 := by
      rw [Char.utf8Size_eq_one_iff]
      exact UInt32.le_iff_toNat_le.2 (Nat.le_of_lt_succ hc)
    rw [byteLength, hsize, ih ht, List.length_cons, Nat.add_comm]

namespace OffsetMap

/-- Every byte offset of a text falls on a character of it, or on its end. -/
theorem toChar?_of_le {text : List Char} {byte : Nat} (h : byte ≤ byteLength text) :
    ∃ c, (ofText text).toChar? byte = some c ∧ c ≤ text.length := by
  unfold ofText
  split
  · rename_i ha
    rw [byteLength_of_isAscii ha] at h
    exact ⟨byte, rfl, h⟩
  · have hlt : byte < (offsetTable text).length := by
      rw [length_offsetTable]
      omega
    refine ⟨(offsetTable text)[byte], ?_, mem_offsetTable (List.getElem_mem hlt)⟩
    simp [toChar?, hlt]

theorem toChar?_mono {text : List Char} {a b x y : Nat} (hab : a ≤ b)
    (hx : (ofText text).toChar? a = some x) (hy : (ofText text).toChar? b = some y) : x ≤ y := by
  by_cases ha : isAscii text = true
  · rw [ofText, if_pos ha, toChar?, Option.some.injEq] at hx hy
    omega
  · rw [ofText, if_neg ha, toChar?, List.getElem?_toArray] at hx hy
    obtain hlt | rfl := Nat.lt_or_eq_of_le hab
    · obtain ⟨ha, rfl⟩ := List.getElem?_eq_some_iff.1 hx
      obtain ⟨hb, rfl⟩ := List.getElem?_eq_some_iff.1 hy
      exact List.pairwise_iff_getElem.1 (offsetTable_sorted text) a b ha hb hlt
    · rw [hx, Option.some.injEq] at hy
      omega

end OffsetMap

end Text

end ScopeHints
