import ScopeHints.Text.Offset

/-! Texts with surrogates. UTF-8 has no form for a surrogate, so that a text with one is no text for
a parser. -/
namespace ScopeHints

/-- A code point of a text: a character, or a surrogate as its place after U+D800. -/
inductive CodePoint where
  | char (c : Char)
  | surrogate (place : Fin 0x800)
  deriving DecidableEq, Repr

namespace CodePoint

def char? : CodePoint → Option Char
  | char c => some c
  | surrogate _ => none

def isSurrogate : CodePoint → Bool
  | char _ => false
  | surrogate _ => true

/-- The text that code points spell; with a surrogate among them they spell none. -/
def text? (points : List CodePoint) : Option String := (points.mapM char?).map String.ofList

def replaced (points : List CodePoint) : String :=
  String.ofList (points.map fun p => p.char?.getD Text.replacement)

theorem mapM_char? (cs : List Char) : (cs.map char).mapM char? = some cs := by
  induction cs with
  | nil => rfl
  | cons c cs ih => simp [List.mapM_cons, char?, ih]

theorem text?_chars (text : String) : text? (text.toList.map char) = some text := by
  rw [text?, mapM_char?, Option.map_some, String.ofList_toList]

theorem chars_injective {s t : String} (h : s.toList.map char = t.toList.map char) : s = t := by
  have htext := congrArg text? h
  rw [text?_chars, text?_chars] at htext
  exact Option.some.inj htext

theorem not_surrogate_chars (cs : List Char) : ¬ ∃ p ∈ cs.map char, p.isSurrogate = true := by
  rintro ⟨p, hp, hsurrogate⟩
  obtain ⟨c, -, rfl⟩ := List.mem_map.1 hp
  cases hsurrogate

theorem text?_of_surrogate {points : List CodePoint} (h : ∃ p ∈ points, p.isSurrogate = true) :
    text? points = none := by
  obtain ⟨p, hp, hsurrogate⟩ := h
  rw [text?, Option.map_eq_none_iff]
  induction points with
  | nil => cases hp
  | cons q points ih =>
    cases q with
    | surrogate place => simp [List.mapM_cons, char?]
    | char c =>
      obtain rfl | hp := List.mem_cons.1 hp
      · cases hsurrogate
      · simp [List.mapM_cons, char?, ih hp]

theorem surrogate_or_chars (points : List CodePoint) :
    (∃ p ∈ points, p.isSurrogate = true) ∨ ∃ text : String, points = text.toList.map char := by
  induction points with
  | nil => exact .inr ⟨"", rfl⟩
  | cons p points ih =>
    cases p with
    | surrogate place => exact .inl ⟨_, List.mem_cons_self, rfl⟩
    | char c =>
      obtain ⟨p, hp, hsurrogate⟩ | ⟨text, rfl⟩ := ih
      · exact .inl ⟨p, List.mem_cons_of_mem _ hp, hsurrogate⟩
      · exact .inr ⟨String.ofList (c :: text.toList), by rw [String.toList_ofList]; rfl⟩

end CodePoint

end ScopeHints
