import ScopeHints.Proofs.Text.Offset

/-! Byte offsets between the characters of a text. There the conversion to character offsets is
exact, and a slice of bytes is a slice of characters. -/
namespace ScopeHints

namespace Text

theorem takeBytes_take (text : List Char) (k : Nat) :
    takeBytes text (byteLength (text.take k)) = text.take k := by
  induction text generalizing k with
  | nil => simp [takeBytes]
  | cons c text ih =>
    cases k with
    | zero => simp [takeBytes, byteLength]
    | succ k =>
      have hne : c.utf8Size ≠ 0 := Nat.ne_of_gt c.utf8Size_pos
      simp [takeBytes, byteLength, hne, ih]

theorem byteSlice_take (text : List Char) (i j : Nat) :
    byteSlice text (byteLength (text.take i)) (byteLength (text.take j)) =
      (text.take j).drop i := by
  induction text generalizing i j with
  | nil => simp [byteSlice]
  | cons c text ih =>
    cases i with
    | zero =>
      have h := takeBytes_take (c :: text) j
      simpa [byteSlice, byteLength] using h
    | succ i =>
      have hne : c.utf8Size ≠ 0 := Nat.ne_of_gt c.utf8Size_pos
      cases j with
      | zero =>
        have h := ih i 0
        simpa [byteSlice, byteLength, hne] using h
      | succ j => simp [byteSlice, byteLength, hne, ih]

theorem getElem?_byteOwners (m : Nat) (text : List Char) {k : Nat} (hk : k ≤ text.length) :
    (byteOwners m text ++ [m + text.length])[byteLength (text.take k)]? = some (m + k) := by
  induction text generalizing m k with
  | nil =>
    obtain rfl : k = 0 := by simpa using hk
    rfl
  | cons c text ih =>
    have hpos := c.utf8Size_pos
    rw [byteOwners_cons, List.append_assoc]
    cases k with
    | zero =>
      rw [List.getElem?_append_left (by simp [byteLength, hpos])]
      simp [byteLength, hpos]
    | succ k =>
      have h := ih (m + 1) (k := k) (by simpa using hk)
      rw [List.getElem?_append_right (by simp [byteLength])]
      simp only [List.take_succ_cons, byteLength, List.length_replicate, Nat.add_sub_cancel_left,
        List.length_cons]
      rw [show m + (text.length + 1) = m + 1 + text.length by omega,
        show m + (k + 1) = m + 1 + k by omega]
      exact h

theorem isAscii_take {text : List Char} (h : isAscii text = true) (k : Nat) :
    isAscii (text.take k) = true := by
  simp only [isAscii, List.all_eq_true] at h ⊢
  exact fun c hc => h c (List.mem_of_mem_take hc)

namespace OffsetMap

theorem toChar?_take {text : List Char} {k : Nat} (hk : k ≤ text.length) :
    (ofText text).toChar? (byteLength (text.take k)) = some k := by
  unfold ofText
  split
  · rename_i ha
    rw [byteLength_of_isAscii (isAscii_take ha k), List.length_take, Nat.min_eq_left hk]
    rfl
  · have h := getElem?_byteOwners 0 text hk
    simpa [toChar?, offsetTable, byteOwners] using h

end OffsetMap

/-- The byte offset is that of the character with a number, or the end of the text. -/
def IsBoundary (text : List Char) (byte : Nat) : Prop :=
  ∃ k, k ≤ text.length ∧ byteLength (text.take k) = byte

theorem byteLength_take_mono (text : List Char) {i j : Nat} (hij : i ≤ j) :
    byteLength (text.take i) ≤ byteLength (text.take j) := by
  induction text generalizing i j with
  | nil => simp
  | cons c text ih =>
    cases i with
    | zero => simp [byteLength]
    | succ i =>
      cases j with
      | zero => omega
      | succ j =>
        have h := ih (i := i) (j := j) (by omega)
        simp only [List.take_succ_cons, byteLength]
        omega

/-- The characters of a text from an offset on begin with a name. -/
def SpelledAt (text : List Char) (name : String) (position : Int) : Prop :=
  ∃ before after, text = before ++ name.toList ++ after ∧ (before.length : Int) = position

theorem spelledAt_slice {text : List Char} {i j : Nat} (hi : i ≤ text.length) :
    SpelledAt text (String.ofList ((text.take j).drop i)) i := by
  obtain hij | hji := Nat.le_total i j
  · refine ⟨text.take i, text.drop j, ?_, by simp [hi]⟩
    have hcut : (text.take j).take i = text.take i := by rw [List.take_take, Nat.min_eq_left hij]
    rw [String.toList_ofList, ← hcut, List.take_append_drop, List.take_append_drop]
  · refine ⟨text.take i, text.drop i, ?_, by simp [hi]⟩
    have hnil : (text.take j).drop i = [] := by
      apply List.drop_eq_nil_of_le
      rw [List.length_take]
      omega
    simp [hnil]

end Text

def Node.OnBoundaries (text : List Char) (n : Node) : Prop :=
  Text.IsBoundary text n.firstByte ∧ Text.IsBoundary text n.endByte

namespace Source

/-- A node on boundaries starts where its text is spelled. -/
theorem spelledAt_of_onBoundaries {text : String} {n : Node} (h : n.OnBoundaries text.toList) :
    ∃ pos : Nat, (ofText text).startOf? n = some pos ∧
      Text.SpelledAt text.toList ((ofText text).textOf n) pos := by
  obtain ⟨⟨i, hi, hfirst⟩, ⟨j, hj, hend⟩⟩ := h
  refine ⟨i, ?_, ?_⟩
  · rw [startOf?, ← hfirst]
    exact Text.OffsetMap.toChar?_take hi
  · rw [textOf, ← hfirst, ← hend]
    have hslice : Text.byteSlice (ofText text).chars (Text.byteLength (text.toList.take i))
        (Text.byteLength (text.toList.take j)) = (text.toList.take j).drop i :=
      Text.byteSlice_take text.toList i j
    rw [hslice]
    exact Text.spelledAt_slice hi

end Source

end ScopeHints
