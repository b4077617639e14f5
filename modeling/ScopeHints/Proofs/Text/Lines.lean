import Mathlib.Data.List.DropRight
import ScopeHints.Proofs.Text.Blanking

/-! The lines of a text, and what blanking one of them changes: the line becomes all spaces before
its final carriage returns, and all other lines stay. -/
namespace ScopeHints.Text

/-! ### Cutting and joining -/

theorem newline_not_mem {text l : List Char} (h : l ∈ lines text) : '\n' ∉ l := by
  induction text generalizing l with
  | nil =>
    obtain rfl := List.mem_singleton.1 h
    exact List.not_mem_nil
  | cons c text ih =>
    unfold lines at h
    split at h
    · obtain rfl | h := List.mem_cons.1 h
      · exact List.not_mem_nil
      · exact ih h
    · rename_i hc
      cases hl : lines text with
      | nil => exact absurd hl (lines_ne_nil text)
      | cons first rest =>
        rw [hl] at h ih
        obtain rfl | h := List.mem_cons.1 h
        · exact List.not_mem_cons_of_ne_of_not_mem (Ne.symm hc) (ih List.mem_cons_self)
        · exact ih (List.mem_cons_of_mem first h)

theorem lines_of_newline_not_mem {l : List Char} (h : '\n' ∉ l) : lines l = [l] := by
  induction l with
  | nil => rfl
  | cons c l ih =>
    obtain ⟨hc, hl⟩ := List.ne_and_not_mem_of_not_mem_cons h
    rw [lines, if_neg (Ne.symm hc), ih hl]

theorem lines_append (front rest : List Char) :
    lines (front ++ '\n' :: rest) = lines front ++ lines rest := by
  induction front with
  | nil => simp [lines]
  | cons c front ih =>
    rw [List.cons_append, lines, lines, ih]
    split
    · rfl
    · cases hl : lines front with
      | nil => exact absurd hl (lines_ne_nil front)
      | cons l ls => rfl

theorem length_lines (text : List Char) : (lines text).length = text.count '\n' + 1 := by
  induction text with
  | nil => rfl
  | cons c text ih =>
    rw [lines]
    split
    · rename_i hc
      rw [List.length_cons, ih, hc, List.count_cons_self]
    · rename_i hc
      rw [List.count_cons_of_ne hc, ← ih]
      cases hl : lines text with
      | nil => exact absurd hl (lines_ne_nil text)
      | cons l ls => rfl

theorem unlines_cons {l : List Char} {ls : List (List Char)} (h : ls ≠ []) :
    unlines (l :: ls) = l ++ '\n' :: unlines ls := by
  cases ls with
  | nil => exact absurd rfl h
  | cons m ms => rfl

theorem lines_unlines {ls : List (List Char)} (hne : ls ≠ []) (h : ∀ l ∈ ls, '\n' ∉ l) :
    lines (unlines ls) = ls := by
  induction ls with
  | nil => exact absurd rfl hne
  | cons l ls ih =>
    obtain ⟨hl, hls⟩ := List.forall_mem_cons.1 h
    cases ls with
    | nil => exact lines_of_newline_not_mem hl
    | cons m ms =>
      rw [unlines_cons (by simp), lines_append, lines_of_newline_not_mem hl, ih (by simp) hls]
      rfl

theorem decide_newline_of_not_mem {l : List Char} (h : '\n' ∉ l) :
    (l.map fun c => decide (c = '\n')) = List.replicate l.length false := by
  rw [List.eq_replicate_iff]
  refine ⟨List.length_map _, ?_⟩
  intro b hb
  obtain ⟨c, hc, rfl⟩ := List.mem_map.1 hb
  exact decide_eq_false fun hn => h (hn ▸ hc)

theorem newlines_unlines {ls ms : List (List Char)}
    (hlength : ls.map List.length = ms.map List.length)
    (hl : ∀ l ∈ ls, '\n' ∉ l) (hm : ∀ m ∈ ms, '\n' ∉ m) :
    ((unlines ls).map fun c => decide (c = '\n')) =
      (unlines ms).map fun c => decide (c = '\n') := by
  induction ls generalizing ms with
  | nil =>
    obtain rfl := List.map_eq_nil_iff.1 hlength.symm
    rfl
  | cons l ls ih =>
    cases ms with
    | nil => cases hlength
    | cons m ms =>
      obtain ⟨hfirst, hrest⟩ := List.cons.inj hlength
      obtain ⟨hl₀, hl₁⟩ := List.forall_mem_cons.1 hl
      obtain ⟨hm₀, hm₁⟩ := List.forall_mem_cons.1 hm
      have hhead : (l.map fun c => decide (c = '\n')) = m.map fun c => decide (c = '\n') := by
        rw [decide_newline_of_not_mem hl₀, decide_newline_of_not_mem hm₀, hfirst]
      have htail := ih hrest hl₁ hm₁
      cases ls with
      | nil =>
        obtain rfl := List.map_eq_nil_iff.1 hrest.symm
        exact hhead
      | cons l' ls =>
        cases ms with
        | nil => cases hrest
        | cons m' ms => simp only [unlines, List.map_append, List.map_cons, hhead, htail]

/-! ### Blanking a line -/

/-- The line has a character other than a space before its final carriage returns. -/
def inked (line : List Char) : Bool := (lineBody line).any fun c => c ≠ ' '

def lineEnd (line : List Char) : List Char := line.rtakeWhile fun c => c = '\r'

theorem lineBody_append_lineEnd (line : List Char) : lineBody line ++ lineEnd line = line :=
  List.rdropWhile_append_rtakeWhile

theorem blanked_eq (line : List Char) :
    blanked line = List.replicate (lineBody line).length ' ' ++ lineEnd line := by
  have hdrop : line.drop (lineBody line).length = lineEnd line := by
    have happend : (lineBody line ++ lineEnd line).drop (lineBody line).length = lineEnd line :=
      List.drop_left
    rwa [lineBody_append_lineEnd] at happend
  rw [blanked, hdrop]

theorem length_blanked (line : List Char) : (blanked line).length = line.length := by
  conv_rhs => rw [← lineBody_append_lineEnd line]
  rw [blanked_eq, List.length_append, List.length_append, List.length_replicate]

theorem lineBody_append {body returns : List Char} (hbody : ∀ c ∈ body.getLast?, c ≠ '\r')
    (hreturns : ∀ c ∈ returns, c = '\r') : lineBody (body ++ returns) = body := by
  have hpos : ∀ c ∈ returns.reverse, decide (c = '\r') = true := by simpa using hreturns
  have hkept : body.reverse.dropWhile (fun c => decide (c = '\r')) = body.reverse := by
    obtain rfl | ⟨init, c, rfl⟩ := List.eq_nil_or_concat body
    · rfl
    · have hc : c ≠ '\r' := hbody c (by simp)
      simp [hc]
  rw [lineBody, List.reverse_append, List.dropWhile_append_of_pos hpos, hkept,
    List.reverse_reverse]

theorem eq_return_of_mem_lineEnd {line : List Char} {c : Char} (hc : c ∈ lineEnd line) : c = '\r' :=
  of_decide_eq_true (List.mem_rtakeWhile_imp (p := fun c => decide (c = '\r')) hc)

theorem lineBody_blanked (line : List Char) :
    lineBody (blanked line) = List.replicate (lineBody line).length ' ' := by
  rw [blanked_eq]
  refine lineBody_append ?_ fun c => eq_return_of_mem_lineEnd
  intro c hc
  rw [List.eq_of_mem_replicate (List.mem_of_getLast? hc)]
  decide

theorem lineEnd_blanked (line : List Char) : lineEnd (blanked line) = lineEnd line := by
  have h := lineBody_append_lineEnd (blanked line)
  rw [lineBody_blanked, blanked_eq line] at h
  rw [blanked_eq line]
  exact List.append_cancel_left h

theorem blanked_blanked (line : List Char) : blanked (blanked line) = blanked line := by
  rw [blanked_eq (blanked line), lineBody_blanked, lineEnd_blanked, List.length_replicate,
    ← blanked_eq]

theorem inked_eq_false_iff {line : List Char} :
    inked line = false ↔ ∀ c ∈ lineBody line, c = ' ' := by
  simp [inked]

theorem inked_blanked (line : List Char) : inked (blanked line) = false := by
  rw [inked_eq_false_iff, lineBody_blanked]
  exact fun c hc => List.eq_of_mem_replicate hc

theorem blanked_ne_iff {line : List Char} : blanked line ≠ line ↔ inked line = true := by
  rw [← not_iff_not, not_not, Bool.not_eq_true, inked_eq_false_iff]
  constructor
  · intro h c hc
    rw [← h, lineBody_blanked] at hc
    exact List.eq_of_mem_replicate hc
  · intro h
    rw [blanked_eq, ← List.eq_replicate_of_mem h, lineBody_append_lineEnd]

theorem newline_not_mem_blanked {line : List Char} (h : '\n' ∉ line) : '\n' ∉ blanked line := by
  rw [blanked_eq]
  intro hmem
  obtain hmem | hmem := List.mem_append.1 hmem
  · have := List.eq_of_mem_replicate hmem
    exact absurd this (by decide)
  · rw [← lineBody_append_lineEnd line] at h
    exact h (List.mem_append_right _ hmem)

/-! ### Blanking lines of a text -/

/-- The lines of which those with the given numbers, counted from one, are blanked. -/
def blankAll (numbers : List Nat) (ls : List (List Char)) : List (List Char) :=
  ls.mapIdx fun i l => if i + 1 ∈ numbers then blanked l else l

theorem getElem?_blankAll (numbers : List Nat) (ls : List (List Char)) (i : Nat) :
    (blankAll numbers ls)[i]? = ls[i]?.map fun l => if i + 1 ∈ numbers then blanked l else l :=
  List.getElem?_mapIdx

theorem blankAll_nil (ls : List (List Char)) : blankAll [] ls = ls := by
  apply List.ext_getElem?
  intro i
  simp [getElem?_blankAll]

theorem blankAll_cons (line : Nat) (numbers : List Nat) (ls : List (List Char)) :
    blankAll numbers (blankAll [line] ls) = blankAll (line :: numbers) ls := by
  apply List.ext_getElem?
  intro i
  rw [getElem?_blankAll, getElem?_blankAll, getElem?_blankAll, Option.map_map]
  refine congrArg (Option.map · _) (funext fun l => ?_)
  by_cases hline : i + 1 = line <;> by_cases hrest : i + 1 ∈ numbers <;>
    simp [hline, hrest, blanked_blanked]

theorem blankLine_succ (text : List Char) (k : Nat) :
    blankLine text (k + 1 : Nat) = unlines ((lines text).modify k blanked) := by
  rw [blankLine]
  split
  · have hk : (((k + 1 : Nat) : Int) - 1).toNat = k := by omega
    rw [hk]
  · have hk : (lines text).length ≤ k := by omega
    rw [List.modify_eq_self hk, unlines_lines]

theorem newline_not_mem_blankAll {numbers : List Nat} {ls : List (List Char)}
    (h : ∀ l ∈ ls, '\n' ∉ l) : ∀ l ∈ blankAll numbers ls, '\n' ∉ l := by
  intro l hl
  obtain ⟨i, hi⟩ := List.getElem?_of_mem hl
  rw [getElem?_blankAll] at hi
  obtain ⟨m, hm, rfl⟩ := Option.map_eq_some_iff.1 hi
  have hnewline := h m (List.mem_of_getElem? hm)
  split
  · exact newline_not_mem_blanked hnewline
  · exact hnewline

theorem lines_blankLine (text : List Char) (line : Nat) :
    lines (blankLine text line) = blankAll [line] (lines text) := by
  cases line with
  | zero =>
    -- No line has the number.
    rw [blankLine, if_neg (by omega)]
    apply List.ext_getElem?
    intro i
    simp [getElem?_blankAll]
  | succ k =>
    have hmodify : (lines text).modify k blanked = blankAll [k + 1] (lines text) := by
      apply List.ext_getElem?
      intro i
      have hindex : k = i ↔ i + 1 = k + 1 := by omega
      rw [List.getElem?_modify, getElem?_blankAll]
      simp only [hindex, List.mem_singleton]
      rfl
    rw [blankLine_succ, hmodify]
    refine lines_unlines ?_ (newline_not_mem_blankAll fun _ => newline_not_mem)
    rw [← hmodify]
    simpa using lines_ne_nil text

theorem inked_of_blankLine_ne {text : List Char} {line : Nat} (h : blankLine text line ≠ text) :
    ∃ l, 1 ≤ line ∧ (lines text)[line - 1]? = some l ∧ inked l = true := by
  by_contra hnone
  refine h ?_
  have hlines : lines (blankLine text line) = lines text := by
    rw [lines_blankLine]
    apply List.ext_getElem?
    intro i
    rw [getElem?_blankAll]
    cases hl : (lines text)[i]? with
    | none => rfl
    | some l =>
      rw [Option.map_some]
      split
      · rename_i hi
        obtain rfl := List.mem_singleton.1 hi
        have hblank : blanked l = l := by
          by_contra hne
          exact hnone ⟨l, by omega, hl, blanked_ne_iff.1 hne⟩
        rw [hblank]
      · rfl
  rw [← unlines_lines (blankLine text line), hlines, unlines_lines]

/-- Blanking to effect leaves one line less with ink. -/
theorem countP_inked_blankLine {text : List Char} {line : Nat} (h : blankLine text line ≠ text) :
    (lines (blankLine text line)).countP inked + 1 = (lines text).countP inked := by
  obtain ⟨l, hpos, hl, hinked⟩ := inked_of_blankLine_ne h
  obtain ⟨hlt, hget⟩ := List.getElem?_eq_some_iff.1 hl
  have hset : lines (blankLine text line) = (lines text).set (line - 1) (blanked l) := by
    rw [lines_blankLine]
    apply List.ext_getElem?
    intro i
    rw [getElem?_blankAll, List.getElem?_set]
    by_cases hi : line - 1 = i
    · subst hi
      have hline : line - 1 + 1 = line := by omega
      simp [hline, hlt, hget]
    · have hne : i + 1 ≠ line := by omega
      simp [hi, hne]
  have hcount : 0 < (lines text).countP inked :=
    List.countP_pos_iff.2 ⟨l, List.mem_of_getElem? hl, hinked⟩
  rw [hset, List.countP_set hlt, hget, hinked, inked_blanked]
  simp only [if_true, Bool.false_eq_true, if_false]
  omega

theorem map_blankAll {α : Type} {f : List Char → α} (hf : ∀ l, f (blanked l) = f l)
    (numbers : List Nat) (ls : List (List Char)) : (blankAll numbers ls).map f = ls.map f := by
  apply List.ext_getElem?
  intro i
  rw [List.getElem?_map, List.getElem?_map, getElem?_blankAll, Option.map_map]
  refine congrArg (Option.map · _) (funext fun l => ?_)
  rw [Function.comp_apply]
  split
  · exact hf l
  · rfl

theorem newlines_of_blankAll {text later : List Char} {numbers : List Nat}
    (h : lines later = blankAll numbers (lines text)) (i : Nat) :
    later[i]? = some '\n' ↔ text[i]? = some '\n' := by
  have hlength : (lines later).map List.length = (lines text).map List.length := by
    rw [h, map_blankAll length_blanked]
  have hnewlines := newlines_unlines hlength (fun _ => newline_not_mem) fun _ => newline_not_mem
  rw [unlines_lines, unlines_lines] at hnewlines
  have hi := congrArg (fun l => l[i]? = some true) hnewlines
  simpa using hi

end ScopeHints.Text
