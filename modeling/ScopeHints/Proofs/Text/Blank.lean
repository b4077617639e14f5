import Mathlib.Data.List.TakeWhile
import ScopeHints.Text.Blank
import ScopeHints.Text.Word

/-! White space around a text: stripping takes off what stands at both ends and nothing else. White
space has no part in words. -/
namespace ScopeHints.Text

theorem mem_of_inIntervals {intervals : List (Nat × Nat)} {n : Nat}
    (h : inIntervals intervals n = true) : ∃ i ∈ intervals, i.1 ≤ n ∧ n ≤ i.2 := by
  induction intervals with
  | nil => simp [inIntervals] at h
  | cons i rest ih =>
    rw [inIntervals] at h
    split at h
    · exact absurd h (by simp)
    · rename_i hfirst
      split at h
      · rename_i hlast
        exact ⟨i, List.mem_cons_self, Nat.le_of_not_lt hfirst, hlast⟩
      · obtain ⟨j, hj, hn⟩ := ih h
        exact ⟨j, List.mem_cons_of_mem i hj, hn⟩

/-! ### Characters -/

theorem blankIntervals_apart : ∀ i ∈ blankIntervals, ∀ k < i.2 + 1 - i.1,
    isWordChar (Char.ofNat (i.1 + k)) = false := by
  decide +kernel

theorem isWordChar_of_isBlank {c : Char} (h : isBlank c = true) : isWordChar c = false := by
  obtain ⟨i, hi, hfirst, hlast⟩ := mem_of_inIntervals h
  have hchar := blankIntervals_apart i hi (c.toNat - i.1) (by omega)
  rwa [Nat.add_sub_cancel' hfirst, Char.ofNat_toNat] at hchar

theorem isAlpha_iff {c : Char} :
    c.isAlpha = true ↔ ('A' ≤ c ∧ c ≤ 'Z') ∨ ('a' ≤ c ∧ c ≤ 'z') := by
  change (decide ('A' ≤ c ∧ c ≤ 'Z') || (decide ('a' ≤ c) && decide (c ≤ 'z'))) = true ↔ _
  simp only [Bool.or_eq_true, Bool.and_eq_true, decide_eq_true_eq]

theorem isWordChar_of_isAlpha {c : Char} (h : c.isAlpha = true) : isWordChar c = true := by
  have hascii : c.toNat < 128 := by
    rcases isAlpha_iff.1 h with ⟨-, hlast⟩ | ⟨-, hlast⟩
    · exact Nat.lt_of_le_of_lt (UInt32.le_iff_toNat_le.1 hlast) (by decide)
    · exact Nat.lt_of_le_of_lt (UInt32.le_iff_toNat_le.1 hlast) (by decide)
  simp [isWordChar, hascii, Char.isAlphanum, h]

/-! ### Stripping -/

abbrev Blanks := { cs : List Char // ∀ c ∈ cs, isBlank c = true }

namespace Blanks

theorem notMem (b : Blanks) {c : Char} (h : isBlank c = false) : c ∉ b.1 := by
  intro hc
  simp [b.2 c hc] at h

theorem dropWhile_append (b : Blanks) (cs : List Char) :
    (b.1 ++ cs).dropWhile isBlank = cs.dropWhile isBlank :=
  List.dropWhile_append_of_pos b.2

def reverse (b : Blanks) : Blanks := ⟨b.1.reverse, by simpa using b.2⟩

end Blanks

theorem strip_pad (before after : Blanks) (cs : List Char) :
    strip (before.1 ++ cs ++ after.1) = strip cs := by
  have hbefore : (before.1 ++ cs ++ after.1).dropWhile isBlank
      = (cs ++ after.1).dropWhile isBlank := by
    rw [List.append_assoc, before.dropWhile_append]
  rw [strip, strip, hbefore, List.dropWhile_append]
  cases hcs : (cs.dropWhile isBlank).isEmpty with
  | true =>
    have hafter : after.1.dropWhile isBlank = [] := List.dropWhile_eq_nil_iff.2 after.2
    rw [if_pos rfl, hafter, List.isEmpty_iff.1 hcs]
  | false =>
    rw [if_neg (by simp), List.reverse_append]
    exact congrArg List.reverse (after.reverse.dropWhile_append _)

theorem strip_lead (before : Blanks) (cs : List Char) : strip (before.1 ++ cs) = strip cs := by
  simpa using strip_pad before ⟨[], by simp⟩ cs

theorem strip_eq_self {cs : List Char} (hhead : ∀ c ∈ cs.head?, isBlank c = false)
    (hlast : ∀ c ∈ cs.getLast?, isBlank c = false) : strip cs = cs := by
  have hkept : ∀ l : List Char, (∀ c ∈ l.head?, isBlank c = false) → l.dropWhile isBlank = l := by
    intro l hl
    cases l with
    | nil => rfl
    | cons c l => exact List.dropWhile_cons_of_neg (by simp [hl c rfl])
  rw [strip, hkept cs hhead, hkept cs.reverse (by simpa using hlast), List.reverse_reverse]

theorem exists_pad (cs : List Char) :
    ∃ before after : Blanks, cs = before.1 ++ strip cs ++ after.1 := by
  have htaken : ∀ l : List Char, ∀ c ∈ l.takeWhile isBlank, isBlank c = true :=
    fun _ _ => List.mem_takeWhile_imp
  let kept := (cs.dropWhile isBlank).reverse
  refine ⟨⟨cs.takeWhile isBlank, htaken cs⟩,
    Blanks.reverse ⟨kept.takeWhile isBlank, htaken kept⟩, ?_⟩
  calc cs = cs.takeWhile isBlank ++ kept.reverse := by
        rw [List.reverse_reverse, List.takeWhile_append_dropWhile]
    _ = cs.takeWhile isBlank ++ (kept.takeWhile isBlank ++ kept.dropWhile isBlank).reverse := by
        rw [List.takeWhile_append_dropWhile]
    _ = cs.takeWhile isBlank ++ strip cs ++ (kept.takeWhile isBlank).reverse := by
        rw [List.reverse_append, ← List.append_assoc]
        rfl

end ScopeHints.Text
