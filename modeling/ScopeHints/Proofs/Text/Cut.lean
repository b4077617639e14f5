import ScopeHints.Proofs.Text.Lines

/-! Blanking a line as an edit. A text is cut around the line: what stands before the line and what
stands behind it is kept, and so are the carriage returns at its end. -/
namespace ScopeHints

namespace Text
variable {text before after : List Char} {line : Int}

/-! ### Texts cut around a line -/

/-- A text cut around the line with a number, counted from one: all before the line, the line up to
its final carriage returns, these, and all behind the line. -/
structure Cut (text : List Char) (line : Int) where
  before : List Char
  body : List Char
  returns : List Char
  after : List Char
  text_eq : text = before ++ (body ++ returns) ++ after
  line_eq : line = before.count '\n' + 1
  before_ends : ∀ c ∈ before.getLast?, c = '\n'
  one_line : '\n' ∉ body ++ returns
  body_ends : ∀ c ∈ body.getLast?, c ≠ '\r'
  all_returns : ∀ c ∈ returns, c = '\r'
  after_starts : ∀ c ∈ after.head?, c = '\n'

def Cut.spaced (c : Cut text line) : List Char :=
  c.before ++ (List.replicate c.body.length ' ' ++ c.returns) ++ c.after

theorem exists_lines_before (h : ∀ c ∈ before.getLast?, c = '\n') :
    ∃ ls, ls.length = before.count '\n' ∧ ∀ rest, lines (before ++ rest) = ls ++ lines rest := by
  obtain rfl | ⟨front, c, rfl⟩ := List.eq_nil_or_concat before
  · exact ⟨[], rfl, fun _ => rfl⟩
  · obtain rfl : c = '\n' := h c (by simp)
    refine ⟨lines front, ?_, ?_⟩
    · rw [length_lines, List.concat_eq_append, List.count_append, List.count_singleton_self]
    · intro rest
      rw [List.concat_eq_append, List.append_assoc, List.singleton_append, lines_append]

theorem exists_lines_after (h : ∀ c ∈ after.head?, c = '\n') :
    ∃ ms, ∀ l, '\n' ∉ l → lines (l ++ after) = l :: ms := by
  cases after with
  | nil =>
    refine ⟨[], fun l hl => ?_⟩
    rw [List.append_nil, lines_of_newline_not_mem hl]
  | cons c rest =>
    obtain rfl : c = '\n' := h c (by simp)
    refine ⟨lines rest, fun l hl => ?_⟩
    rw [lines_append, lines_of_newline_not_mem hl, List.singleton_append]

theorem blanked_append {body returns : List Char} (hbody : ∀ c ∈ body.getLast?, c ≠ '\r')
    (hreturns : ∀ c ∈ returns, c = '\r') :
    blanked (body ++ returns) = List.replicate body.length ' ' ++ returns := by
  rw [blanked, lineBody_append hbody hreturns, List.drop_left]

theorem Cut.blankLine_eq (c : Cut text line) : blankLine text line = c.spaced := by
  obtain ⟨ls, hlength, hbefore⟩ := exists_lines_before c.before_ends
  obtain ⟨ms, hafter⟩ := exists_lines_after c.after_starts
  have hlines : ∀ l, '\n' ∉ l → lines (c.before ++ l ++ c.after) = ls ++ l :: ms := by
    intro l hl
    rw [List.append_assoc, hbefore, hafter l hl]
  have htext : lines text = ls ++ (c.body ++ c.returns) :: ms :=
    (congrArg lines c.text_eq).trans (hlines _ c.one_line)
  have hnumber : blankLine text line = unlines ((lines text).modify ls.length blanked) := by
    rw [hlength, ← blankLine_succ]
    exact congrArg (blankLine text) c.line_eq
  calc blankLine text line
      = unlines ((ls ++ (c.body ++ c.returns) :: ms).modify ls.length blanked) := by
        rw [hnumber, htext]
    _ = unlines (ls ++ blanked (c.body ++ c.returns) :: ms) := by
        simp [List.modify_eq_take_cons_drop]
    _ = c.before ++ blanked (c.body ++ c.returns) ++ c.after := by
        rw [← hlines _ (newline_not_mem_blanked c.one_line), unlines_lines]
    _ = c.spaced := by rw [blanked_append c.body_ends c.all_returns, spaced]

theorem exists_line (text : List Char) {k : Nat} (hk : k ≤ text.count '\n') :
    ∃ before l after, text = before ++ l ++ after ∧ before.count '\n' = k ∧
      (∀ c ∈ before.getLast?, c = '\n') ∧ '\n' ∉ l ∧ ∀ c ∈ after.head?, c = '\n' := by
  induction k generalizing text with
  | zero =>
    refine ⟨[], text.takeWhile fun c => c ≠ '\n', text.dropWhile fun c => c ≠ '\n', ?_, rfl,
      by simp, ?_, ?_⟩
    · rw [List.nil_append, List.takeWhile_append_dropWhile]
    · intro hmem
      simpa using List.mem_takeWhile_imp hmem
    · intro c hc
      have hnot := List.head?_dropWhile_not (fun c : Char => decide (c ≠ '\n')) text
      rw [Option.mem_def.1 hc] at hnot
      simpa using hnot
  | succ k ih =>
    have hmem : '\n' ∈ text := List.count_pos_iff.1 (by omega)
    obtain ⟨first, rest, rfl, hfirst⟩ := List.eq_append_cons_of_mem hmem
    rw [List.count_append, List.count_eq_zero.2 hfirst, List.count_cons_self] at hk
    obtain ⟨before, l, after, rfl, hcount, hends, hl, hstarts⟩ := ih rest (by omega)
    refine ⟨first ++ '\n' :: before, l, after, by simp, ?_, ?_, hl, hstarts⟩
    · rw [List.count_append, List.count_eq_zero.2 hfirst, List.count_cons_self, hcount,
        Nat.zero_add]
    · intro c hc
      cases before with
      | nil => simpa [eq_comm] using hc
      | cons d before =>
        rw [List.getLast?_append_of_ne_nil _ (by simp), List.getLast?_cons_cons] at hc
        exact hends c hc

theorem ne_return_of_mem_getLast? {l : List Char} {c : Char} (hc : c ∈ (lineBody l).getLast?) :
    c ≠ '\r' := by
  have hnot := List.head?_dropWhile_not (fun c : Char => decide (c = '\r')) l.reverse
  rw [lineBody, List.getLast?_reverse] at hc
  rw [Option.mem_def.1 hc] at hnot
  simpa using hnot

/-- There is a cut around each line, and there are as many lines as line feeds and one more. -/
theorem exists_cut (hpos : 1 ≤ line) (hle : line ≤ text.count '\n' + 1) :
    Nonempty (Cut text line) := by
  obtain ⟨k, rfl⟩ : ∃ k : Nat, line = (k : Int) + 1 := ⟨(line - 1).toNat, by omega⟩
  obtain ⟨before, l, after, htext, hcount, hends, hl, hstarts⟩ :=
    exists_line text (k := k) (by omega)
  have hsplit := lineBody_append_lineEnd l
  exact ⟨{
    before, after
    body := lineBody l
    returns := lineEnd l
    text_eq := by rw [hsplit, htext]
    line_eq := by rw [hcount]
    before_ends := hends
    one_line := by rwa [hsplit]
    body_ends := fun c => ne_return_of_mem_getLast?
    all_returns := fun c => eq_return_of_mem_lineEnd
    after_starts := hstarts }⟩

theorem blankLine_outside (h : line < 1 ∨ text.count '\n' + 1 < line) :
    blankLine text line = text := by
  rw [blankLine, length_lines, if_neg (by omega)]

/-! ### Blanking twice -/

theorem blankLine_toNat (text : List Char) (line : Int) :
    blankLine text line = blankLine text (line.toNat : Int) := by
  by_cases hline : 0 ≤ line
  · rw [Int.toNat_of_nonneg hline]
  · rw [blankLine_outside (by omega), blankLine_outside (by omega)]

theorem lines_blankLine_toNat (text : List Char) (line : Int) :
    lines (blankLine text line) = blankAll [line.toNat] (lines text) := by
  rw [blankLine_toNat, lines_blankLine]

theorem blankAll_congr {numbers others : List Nat} (h : ∀ n, n ∈ numbers ↔ n ∈ others)
    (ls : List (List Char)) : blankAll numbers ls = blankAll others ls := by
  simp only [blankAll, h]

theorem blankLine_blankLine (text : List Char) (line other : Int) :
    blankLine (blankLine text line) other =
      unlines (blankAll [line.toNat, other.toNat] (lines text)) := by
  rw [← unlines_lines (blankLine _ other), lines_blankLine_toNat, lines_blankLine_toNat,
    blankAll_cons]

theorem blankLine_self (text : List Char) (line : Int) :
    blankLine (blankLine text line) line = blankLine text line := by
  have hnumbers : blankAll [line.toNat, line.toNat] (lines text) =
      blankAll [line.toNat] (lines text) :=
    blankAll_congr (by simp) (lines text)
  rw [blankLine_blankLine, hnumbers, ← lines_blankLine_toNat, unlines_lines]

theorem blankLine_comm (text : List Char) (line other : Int) :
    blankLine (blankLine text line) other = blankLine (blankLine text other) line := by
  rw [blankLine_blankLine, blankLine_blankLine, blankAll_congr]
  intro n
  simp [or_comm]

end Text

structure LineEdit (text : String) (line : Int) : Prop where
  length : (blankLine text line).length = text.length
  newlines : ∀ i : Nat, (blankLine text line).toList[i]? = some '\n' ↔ text.toList[i]? = some '\n'
  edit : ∀ c : Text.Cut text.toList line, (blankLine text line).toList = c.spaced
  inside : 1 ≤ line → line ≤ text.toList.count '\n' + 1 → Nonempty (Text.Cut text.toList line)
  outside : line < 1 ∨ text.toList.count '\n' + 1 < line → blankLine text line = text
  idempotent : blankLine (blankLine text line) line = blankLine text line
  commutes : ∀ other : Int,
    blankLine (blankLine text line) other = blankLine (blankLine text other) line

/-- Blanking a line touches nothing but the line, and blanks lines independently of each other. -/
theorem blankLine_lineEdit (text : String) (line : Int) : LineEdit text line := by
  have htoList := toList_blankLine text line
  refine ⟨?_, ?_, ?_, Text.exists_cut, ?_, ?_, ?_⟩
  · rw [← String.length_toList, htoList, ← String.length_toList,
      (Text.faded_blankLine text.toList line).length_eq]
  · intro i
    rw [htoList]
    exact Text.newlines_of_blankAll (Text.lines_blankLine_toNat text.toList line) i
  · intro c
    rw [htoList, c.blankLine_eq]
  · intro h
    apply String.toList_injective
    rw [htoList, Text.blankLine_outside h]
  · apply String.toList_injective
    simp only [toList_blankLine]
    exact Text.blankLine_self text.toList line
  · intro other
    apply String.toList_injective
    simp only [toList_blankLine]
    exact Text.blankLine_comm text.toList line other

-- A carriage return within the line is blanked, those at its end are not.
example : blankLine "a\rb\r\r\nc" 1 = "   \r\r\nc" := by decide

end ScopeHints
