import ScopeHints.Proofs.Text.Boundary
import ScopeHints.Proofs.Text.Lines

/-! Rows. The line feeds before a byte are those before the character that the byte belongs to, and
blanking the line with the next number makes this character a space. -/
namespace ScopeHints.Text

/-! ### The row of a byte -/

theorem rowOf_zero (text : List Char) : rowOf text 0 = 0 := by
  cases text <;> simp [rowOf]

/-- A byte that belongs to a character stands behind as many line feeds as the character. -/
theorem rowOf_of_owner {m i byte : Nat} {text : List Char}
    (h : (byteOwners m text ++ [m + text.length])[byte]? = some (m + i)) :
    rowOf text byte = (text.take i).count '\n' := by
  induction text generalizing m i byte with
  | nil => simp [rowOf]
  | cons c text ih =>
    rw [byteOwners_cons, List.append_assoc] at h
    by_cases hbyte : byte < c.utf8Size
    · -- a byte of the first character; if it is not the first one, the character is no line feed
      rw [List.getElem?_append_left (by simpa using hbyte),
        List.getElem?_replicate_of_lt hbyte] at h
      obtain rfl : i = 0 := by simpa using h
      rw [rowOf]
      split
      · rfl
      · have hsize : ('\n').utf8Size = 1 := by decide
        have hc : c ≠ '\n' := by
          rintro rfl
          omega
        rw [if_neg hc, Nat.sub_eq_zero_of_le (Nat.le_of_lt hbyte), rowOf_zero]
        rfl
    · have hpos := c.utf8Size_pos
      have hlength : m + (c :: text).length = m + 1 + text.length := by
        rw [List.length_cons]
        omega
      rw [List.getElem?_append_right (by simpa using hbyte), List.length_replicate, hlength] at h
      obtain ⟨j, hj⟩ : ∃ j, m + i = m + 1 + j := by
        obtain hmem | hmem := List.mem_append.1 (List.mem_of_getElem? h)
        · have := mem_byteOwners hmem
          exact ⟨i - 1, by omega⟩
        · have := List.mem_singleton.1 hmem
          exact ⟨i - 1, by omega⟩
      obtain rfl : i = j + 1 := by omega
      rw [hj] at h
      rw [rowOf, if_neg (by omega), ih h, List.take_succ_cons, List.count_cons, Nat.add_comm]
      simp

theorem rowOf_eq_count {text : List Char} {byte i : Nat} (hbyte : byte ≤ byteLength text)
    (h : (OffsetMap.ofText text).toChar? byte = some i) :
    rowOf text byte = (text.take i).count '\n' := by
  refine rowOf_of_owner (m := 0) ?_
  by_cases ha : isAscii text = true
  · rw [OffsetMap.ofText, if_pos ha, OffsetMap.toChar?, Option.some.injEq] at h
    subst h
    rw [byteLength_of_isAscii ha] at hbyte
    have howner := getElem?_byteOwners 0 text hbyte
    rwa [byteLength_of_isAscii (isAscii_take ha byte), List.length_take,
      Nat.min_eq_left hbyte] at howner
  · rw [OffsetMap.ofText, if_neg ha, OffsetMap.toChar?, List.getElem?_toArray] at h
    simpa [offsetTable, byteOwners] using h

/-! ### The line of a character -/

/-- From an offset on its line has carriage returns only. -/
def InFinalReturns (text : List Char) (i : Nat) : Prop :=
  ∀ c ∈ (text.drop i).takeWhile fun c => c ≠ '\n', c = '\r'

instance (text : List Char) (i : Nat) : Decidable (InFinalReturns text i) :=
  inferInstanceAs (Decidable (∀ c ∈ _, _))

theorem getElem?_blanked {line : List Char} {i : Nat} (h : ∃ c ∈ line.drop i, c ≠ '\r') :
    (blanked line)[i]? = some ' ' := by
  obtain ⟨c, hc, hne⟩ := h
  have hlt : i < (lineBody line).length := by
    by_contra hge
    have hdrop : line.drop i = (lineEnd line).drop (i - (lineBody line).length) := by
      conv_lhs => rw [← lineBody_append_lineEnd line]
      rw [List.drop_append, List.drop_eq_nil_of_le (Nat.le_of_not_lt hge), List.nil_append]
    rw [hdrop] at hc
    exact hne (eq_return_of_mem_lineEnd (List.mem_of_mem_drop hc))
  rw [blanked_eq, List.getElem?_append_left (by simpa using hlt), List.getElem?_replicate_of_lt hlt]

theorem count_take_eq_zero {l : List Char} (h : '\n' ∉ l) (i : Nat) : (l.take i).count '\n' = 0 :=
  List.count_eq_zero.2 fun hmem => h (List.mem_of_mem_take hmem)

section FirstLine
variable {l rest : List Char} {i : Nat}

theorem count_take_first (h : '\n' ∉ l) (hi : i ≤ l.length) :
    ((l ++ '\n' :: rest).take i).count '\n' = 0 := by
  rw [List.take_append_of_le_length hi, count_take_eq_zero h]

theorem mem_drop_of_mem_takeWhile (h : '\n' ∉ l) (hi : i ≤ l.length) {c : Char}
    (hc : c ∈ ((l ++ '\n' :: rest).drop i).takeWhile fun c => c ≠ '\n') : c ∈ l.drop i := by
  have hl : ∀ a ∈ l.drop i, decide (a ≠ '\n') = true := by
    intro a ha
    rw [decide_eq_true_iff]
    rintro rfl
    exact h (List.mem_of_mem_drop ha)
  rw [List.drop_append_of_le_length hi, List.takeWhile_append_of_pos hl,
    List.takeWhile_cons_of_neg (by simp), List.append_nil] at hc
  exact hc

/-! Behind the line feed of the first line. -/

theorem getElem?_later (l rest : List Char) (i : Nat) :
    (l ++ '\n' :: rest)[l.length + 1 + i]? = rest[i]? := by
  rw [List.getElem?_append_right (by omega), Nat.add_assoc, Nat.add_sub_cancel_left, Nat.add_comm,
    List.getElem?_cons_succ]

theorem drop_later (l rest : List Char) (i : Nat) :
    (l ++ '\n' :: rest).drop (l.length + 1 + i) = rest.drop i := by
  rw [Nat.add_assoc, List.drop_length_add_append, Nat.add_comm, List.drop_succ_cons]

theorem count_take_later (h : '\n' ∉ l) (rest : List Char) (i : Nat) :
    ((l ++ '\n' :: rest).take (l.length + 1 + i)).count '\n' = (rest.take i).count '\n' + 1 := by
  rw [Nat.add_assoc, List.take_length_add_append, Nat.add_comm 1 i, List.take_succ_cons,
    List.count_append, List.count_eq_zero.2 h, List.count_cons_self, Nat.zero_add]

end FirstLine

/-- Blanking the line with as many lines before it as line feeds stand before a character takes this
character, unless it is a line feed itself or one of the final carriage returns of its line. -/
theorem getElem?_unlines_modify {ls : List (List Char)} (hls : ∀ l ∈ ls, '\n' ∉ l) {i : Nat}
    {c : Char} (hc : (unlines ls)[i]? = some c) (hnewline : c ≠ '\n')
    (hreturns : ¬ InFinalReturns (unlines ls) i) :
    (unlines (ls.modify (((unlines ls).take i).count '\n') blanked))[i]? = some ' ' := by
  induction ls generalizing i with
  | nil => cases hc
  | cons l ls ih =>
    obtain ⟨hl, hls⟩ := List.forall_mem_cons.1 hls
    obtain ⟨d, hd, hne⟩ : ∃ d ∈ ((unlines (l :: ls)).drop i).takeWhile (fun c => c ≠ '\n'),
        d ≠ '\r' := by
      simpa [InFinalReturns] using hreturns
    by_cases hlast : ls = []
    · subst hlast
      have hline : unlines [l] = l := rfl
      rw [hline] at hd ⊢
      rw [count_take_eq_zero hl, List.modify_zero_cons]
      exact getElem?_blanked ⟨d, (List.takeWhile_prefix _).subset hd, hne⟩
    · rw [unlines_cons hlast] at hc hreturns hd ⊢
      obtain hlt | rfl | hgt := Nat.lt_trichotomy i l.length
      · -- the character stands in the first line
        have hle : i ≤ l.length := Nat.le_of_lt hlt
        rw [count_take_first hl hle, List.modify_zero_cons, unlines_cons hlast,
          List.getElem?_append_left (by rw [length_blanked]; exact hlt)]
        exact getElem?_blanked ⟨d, mem_drop_of_mem_takeWhile hl hle hd, hne⟩
      · rw [List.getElem?_append_right (Nat.le_refl _), Nat.sub_self] at hc
        exact absurd (Option.some.inj hc).symm hnewline
      · -- the character stands in a later line, behind one line feed more
        obtain ⟨j, rfl⟩ : ∃ j, i = l.length + 1 + j := ⟨i - (l.length + 1), by omega⟩
        have hmodify : ls.modify (((unlines ls).take j).count '\n') blanked ≠ [] := by
          simpa using hlast
        rw [getElem?_later] at hc
        rw [InFinalReturns, drop_later] at hreturns
        rw [count_take_later hl, List.modify_succ_cons, unlines_cons hmodify, getElem?_later]
        exact ih hls hc hreturns

theorem getElem?_blankLine {text : List Char} {i : Nat} {c : Char} (hc : text[i]? = some c)
    (hnewline : c ≠ '\n') (hreturns : ¬ InFinalReturns text i) :
    (blankLine text ((text.take i).count '\n' + 1 : Nat))[i]? = some ' ' := by
  have hlines : ∀ l ∈ lines text, '\n' ∉ l := fun l hl => newline_not_mem hl
  rw [← unlines_lines text] at hc hreturns
  have h := getElem?_unlines_modify hlines hc hnewline hreturns
  rw [unlines_lines] at h
  rw [blankLine_succ]
  exact h

end ScopeHints.Text
