import Mathlib.Data.List.Forall2
import ScopeHints.Parse.Recovery
import ScopeHints.Proofs.Text.Boundary

/-! Blanking lines puts spaces in place of characters. A name without spaces that the last text of
some attempts spells is therefore spelled at the same place by the first one. -/
namespace ScopeHints

namespace Text

/-- Some characters of a text are spaces in a later one; all others stay at their places. -/
def Faded (text later : List Char) : Prop := List.Forall₂ (fun a b => b = a ∨ b = ' ') text later

theorem Faded.refl (text : List Char) : Faded text text := by
  induction text with
  | nil => exact .nil
  | cons c text ih => exact .cons (.inl rfl) ih

theorem Faded.trans {a b c : List Char} (h : Faded a b) (h' : Faded b c) : Faded a c := by
  induction h generalizing c with
  | nil => exact h'
  | cons hd _ ih =>
    cases h' with
    | cons hd' tl' =>
      refine .cons ?_ (ih tl')
      obtain rfl | rfl := hd'
      · exact hd
      · exact .inr rfl

theorem Faded.append {a b c d : List Char} (h : Faded a b) (h' : Faded c d) :
    Faded (a ++ c) (b ++ d) :=
  List.rel_append h h'

theorem faded_spaces (text : List Char) : Faded text (List.replicate text.length ' ') := by
  induction text with
  | nil => exact .nil
  | cons c text ih => exact .cons (.inr rfl) ih

theorem length_lineBody_le (line : List Char) : (lineBody line).length ≤ line.length := by
  have h := (List.dropWhile_sublist (fun c => decide (c = '\r')) (l := line.reverse)).length_le
  simpa [lineBody] using h

theorem faded_blanked (line : List Char) : Faded line (blanked line) := by
  have h := (faded_spaces (line.take (lineBody line).length)).append
    (Faded.refl (line.drop (lineBody line).length))
  rwa [List.take_append_drop, List.length_take, Nat.min_eq_left (length_lineBody_le line)] at h

theorem lines_ne_nil (text : List Char) : lines text ≠ [] := by
  cases text with
  | nil => simp [lines]
  | cons c text =>
    unfold lines
    split
    · simp
    · split <;> simp

theorem unlines_lines (text : List Char) : unlines (lines text) = text := by
  induction text with
  | nil => rfl
  | cons c text ih =>
    unfold lines
    split
    · rename_i hc
      cases hl : lines text with
      | nil => exact absurd hl (lines_ne_nil text)
      | cons l ls =>
        rw [hl] at ih
        simp [unlines, ih, hc]
    · cases hl : lines text with
      | nil => exact absurd hl (lines_ne_nil text)
      | cons l ls =>
        rw [hl] at ih
        cases ls with
        | nil => simpa [unlines] using ih
        | cons m ms => simpa [unlines] using ih

theorem faded_unlines {ls ms : List (List Char)} (h : List.Forall₂ Faded ls ms) :
    Faded (unlines ls) (unlines ms) := by
  induction h with
  | nil => exact .nil
  | cons hl htl ih =>
    cases htl with
    | nil => simpa [unlines] using hl
    | cons hm htl => exact hl.append (.cons (.inl rfl) ih)

theorem forall₂_modify {f : List Char → List Char} (hf : ∀ l, Faded l (f l)) (ls : List (List Char))
    (k : Nat) : List.Forall₂ Faded ls (ls.modify k f) := by
  induction ls generalizing k with
  | nil => simp
  | cons l ls ih =>
    cases k with
    | zero =>
      rw [List.modify_zero_cons]
      exact .cons (hf l) (List.forall₂_same.2 fun m _ => Faded.refl m)
    | succ k =>
      rw [List.modify_succ_cons]
      exact .cons (Faded.refl l) (ih k)

theorem faded_blankLine (text : List Char) (line : Int) : Faded text (blankLine text line) := by
  unfold blankLine
  split
  · have h := faded_unlines (forall₂_modify faded_blanked (lines text) (line - 1).toNat)
    rwa [unlines_lines] at h
  · exact Faded.refl text

theorem eq_of_faded {text later : List Char} (h : Faded text later) (hs : ' ' ∉ later) :
    text = later := by
  induction h with
  | nil => rfl
  | cons hd _ ih =>
    rw [List.mem_cons, not_or] at hs
    obtain ⟨hne, htl⟩ := hs
    obtain rfl | rfl := hd
    · rw [ih htl]
    · exact absurd rfl hne

theorem SpelledAt.of_faded {text later : List Char} {name : String} {position : Int}
    (h : SpelledAt later name position) (hf : Faded text later) (hn : ' ' ∉ name.toList) :
    SpelledAt text name position := by
  obtain ⟨before, after, rfl, hpos⟩ := h
  have hfront := List.forall₂_take_append _ _ _ hf
  have hlen : (before ++ name.toList).length ≤ text.length := by
    have := hf.length_eq
    simp only [List.length_append] at this ⊢
    omega
  have hname := eq_of_faded (List.forall₂_drop_append _ _ _ hfront) hn
  refine ⟨text.take before.length, text.drop (before ++ name.toList).length, ?_, ?_⟩
  · have hcut := List.take_append_drop before.length (text.take (before ++ name.toList).length)
    rw [hname, List.take_take, Nat.min_eq_left (by simp)] at hcut
    rw [hcut, List.take_append_drop]
  · rw [List.length_append] at hlen
    rw [List.length_take, Nat.min_eq_left (by omega), hpos]

end Text

theorem toList_blankLine (text : String) (line : Int) :
    (blankLine text line).toList = Text.blankLine text.toList line :=
  String.toList_ofList

/-- What all attempts at a parse keep to, as a statement on each text and on the attempts made from
it on. -/
theorem attempts_induction {parser : Parser} {P : Nat → String → Attempts → Prop}
    (last : ∀ budget text a, a.blanked = [] → a.text = text → P budget text a)
    (retry : ∀ budget text root place later, parser text = some root →
      (Source.ofText text).firstError root = .found place → blankLine text place.line ≠ text →
      P budget (blankLine text place.line) later →
      P (budget + 1) text { later with blanked := place.line :: later.blanked })
    (budget : Nat) (text : String) : P budget text (attempts parser budget text) := by
  fun_induction attempts parser budget text with
  | case6 text root hroot src place he budget hne later ih =>
    exact retry budget text root place later hroot he hne ih
  | _ => exact last _ _ _ rfl rfl

theorem attempts_faded (parser : Parser) (budget : Nat) (text : String) :
    Text.Faded text.toList (attempts parser budget text).text.toList := by
  refine attempts_induction (P := fun _ text a => Text.Faded text.toList a.text.toList) ?_ ?_
    budget text
  · intro _ text a _ htext
    rw [htext]
    exact Text.Faded.refl _
  · intro _ text _ place later _ _ _ ih
    have hline : Text.Faded text.toList (blankLine text place.line).toList := by
      rw [toList_blankLine]
      exact Text.faded_blankLine text.toList place.line
    exact hline.trans ih

inductive Ends (parser : Parser) (text : String) : Ending → Prop
  | crashed (h : parser text = none) : Ends parser text .crashed
  | outsideText {root : Node} (h : parser text = some root)
      (he : (Source.ofText text).firstError root = .outsideText) : Ends parser text .outsideText
  | clean {root : Node} (h : parser text = some root)
      (he : (Source.ofText text).firstError root = .clean) :
      Ends parser text (.clean (Source.ofText text) root)
  | exhausted {root : Node} {place : ErrorPlace} (h : parser text = some root)
      (he : (Source.ofText text).firstError root = .found place) :
      Ends parser text (.exhausted place.line)
  | stuck {root : Node} {place : ErrorPlace} (h : parser text = some root)
      (he : (Source.ofText text).firstError root = .found place) : Ends parser text (.stuck place.line)

theorem attempts_ends (parser : Parser) (budget : Nat) (text : String) :
    Ends parser (attempts parser budget text).text (attempts parser budget text).ending := by
  fun_induction attempts parser budget text with
  | case1 budget text h => exact .crashed h
  | case2 budget text root h src he => exact .clean h he
  | case3 budget text root h src he => exact .outsideText h he
  | case4 text root h src place he => exact .exhausted h he
  | case5 text root h src place he budget hstuck => exact .stuck h he
  | case6 text root h src place he budget hne later ih => exact ih

section Ends
variable {parser : Parser} {text : String} {ending : Ending} {root : Node}

theorem Ends.of_clean (h : Ends parser text ending) (hroot : parser text = some root)
    (he : (Source.ofText text).firstError root = .clean) :
    ending = .clean (Source.ofText text) root := by
  cases h with
  | clean hroot' he' =>
    obtain rfl := Option.some.inj (hroot.symm.trans hroot')
    rfl
  | _ => simp_all

theorem Ends.of_found {place : ErrorPlace} (h : Ends parser text ending)
    (hroot : parser text = some root)
    (he : (Source.ofText text).firstError root = .found place) :
    ending = .exhausted place.line ∨ ending = .stuck place.line := by
  cases h <;> simp_all

end Ends

end ScopeHints
