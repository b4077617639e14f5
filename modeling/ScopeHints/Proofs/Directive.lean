import ScopeHints.Directive
import ScopeHints.Proofs.Text.Blank
import ScopeHints.Proofs.Token

/-! Announcements of global names as they are written: names with or without a note, joined by
commas, with white space wherever it may stand. What is read from one is what was written into it. -/
namespace ScopeHints

namespace Directive
open Text

/-! ### What is written -/

structure Name where
  first : Char
  rest : List Char
  starts : ('A' ≤ first ∧ first ≤ 'Z') ∨ ('a' ≤ first ∧ first ≤ 'z') ∨ first = '_' ∨ first = '$'
  goesOn : ∀ c ∈ rest, isWordChar c = true ∨ c = '$'

def Name.chars (name : Name) : List Char := name.first :: name.rest

/-- What stands behind the colon. The value may hold any character that does not end the entry. -/
structure Note where
  before : Blanks
  value : List Char
  after : Blanks
  inEntry : ',' ∉ value

def Note.Off (n : Note) : Prop :=
  ∃ before after : Blanks, n.value = before.1 ++ "false".toList ++ after.1

def Note.text (n : Note) : List Char := n.before.1 ++ n.value ++ n.after.1

structure Entry where
  before : Blanks
  name : Name
  after : Blanks
  note : Option Note

namespace Entry

def Off (e : Entry) : Prop := ∃ n ∈ e.note, n.Off

def named (e : Entry) : List Char := e.before.1 ++ e.name.chars ++ e.after.1

def text (e : Entry) : List Char :=
  match e.note with
  | none => e.named
  | some n => e.named ++ ':' :: n.text

end Entry

structure Announcement where
  before : Blanks
  gap : Blanks
  plural : Bool
  lead : Blanks
  lead_ne : lead.1 ≠ []
  entries : List Entry
  after : Blanks

namespace Announcement

def word (d : Announcement) : String := if d.plural then "globals" else "global"

def body (d : Announcement) : List Char := d.lead.1 ++ [','].intercalate (d.entries.map Entry.text)

def text (d : Announcement) : String :=
  String.ofList (d.before.1
    ++ '/' :: '*' :: (d.gap.1 ++ (d.word.toList ++ (d.body ++ ['*', '/']))) ++ d.after.1)

end Announcement

/-! ### Names -/

namespace Name
variable (name : Name)

theorem isAlpha_first : name.first.isAlpha = true ∨ name.first = '_' ∨ name.first = '$' := by
  rcases name.starts with h | h | h
  · exact .inl (isAlpha_iff.2 (.inl h))
  · exact .inl (isAlpha_iff.2 (.inr h))
  · exact .inr h

theorem isName_chars : isName name.chars = true := by
  have hrest : (name.rest.all fun c => isWordChar c || c = '$') = true := by
    simpa using name.goesOn
  simpa [chars, isName, hrest, or_assoc] using name.isAlpha_first

theorem mem_chars {c : Char} (hc : c ∈ name.chars) : isWordChar c = true ∨ c = '$' := by
  rcases List.mem_cons.1 hc with rfl | hc
  · rcases name.isAlpha_first with h | h | h
    · exact .inl (isWordChar_of_isAlpha h)
    · exact .inl (by rw [h]; decide)
    · exact .inr h
  · exact name.goesOn c hc

theorem notMem_chars {c : Char} (hword : isWordChar c = false) (hdollar : c ≠ '$') :
    c ∉ name.chars := by
  intro hc
  rcases name.mem_chars hc with h | h
  · simp [hword] at h
  · exact hdollar h

theorem isBlank_of_mem {c : Char} (hc : c ∈ name.chars) : isBlank c = false := by
  cases hblank : isBlank c with
  | false => rfl
  | true =>
    refine absurd hc (name.notMem_chars (isWordChar_of_isBlank hblank) ?_)
    rintro rfl
    exact absurd hblank (by decide)

theorem strip_chars : strip name.chars = name.chars :=
  strip_eq_self (fun _ hc => name.isBlank_of_mem (List.mem_of_mem_head? hc))
    fun _ hc => name.isBlank_of_mem (List.mem_of_mem_getLast? hc)

end Name

/-! ### One entry -/

theorem ne_colon {cs : List Char} (h : ':' ∉ cs) : ∀ c ∈ cs, decide (c ≠ ':') = true :=
  fun _ hc => decide_eq_true fun he => h (he ▸ hc)

theorem entry_of_colon {named : List Char} (h : ':' ∉ named) (value : List Char) :
    entry (named ++ ':' :: value) = (strip named, strip value) := by
  rw [entry, List.takeWhile_append_of_pos (ne_colon h), List.dropWhile_append_of_pos (ne_colon h)]
  simp

theorem entry_of_no_colon {named : List Char} (h : ':' ∉ named) :
    entry named = (strip named, []) := by
  rw [entry, List.takeWhile_eq_self_iff.2 (ne_colon h), List.dropWhile_eq_nil_iff.2 (ne_colon h)]
  rfl

theorem entry_lead (lead : Blanks) (part : List Char) : entry (lead.1 ++ part) = entry part := by
  have hlead := ne_colon (lead.notMem (c := ':') (by decide))
  rw [entry, List.takeWhile_append_of_pos hlead, List.dropWhile_append_of_pos hlead, strip_lead,
    entry]

theorem Note.off_iff (n : Note) : n.Off ↔ strip n.text = "false".toList := by
  rw [Note.text, strip_pad]
  constructor
  · rintro ⟨before, after, h⟩
    rw [h, strip_pad]
    rfl
  · intro h
    obtain ⟨before, after, hvalue⟩ := exists_pad n.value
    exact ⟨before, after, h ▸ hvalue⟩

namespace Entry
variable (e : Entry)

def value : List Char := e.note.elim [] fun n => strip n.text

theorem off_iff : e.Off ↔ e.value = "false".toList := by
  cases h : e.note with
  | none => simp [Off, value, h]
  | some n => simp [Off, value, h, n.off_iff]

instance : Decidable e.Off := decidable_of_iff _ e.off_iff.symm

theorem strip_named : strip e.named = e.name.chars := by
  rw [named, strip_pad, e.name.strip_chars]

theorem notMem_named {c : Char} (hblank : isBlank c = false) (hword : isWordChar c = false)
    (hdollar : c ≠ '$') : c ∉ e.named := by
  simp only [named, List.mem_append, not_or]
  exact ⟨⟨e.before.notMem hblank, e.name.notMem_chars hword hdollar⟩, e.after.notMem hblank⟩

theorem entry_text : entry e.text = (e.name.chars, e.value) := by
  have hcolon : ':' ∉ e.named := e.notMem_named (by decide) (by decide) (by decide)
  cases h : e.note with
  | none => simp only [text, value, h, entry_of_no_colon hcolon, strip_named, Option.elim_none]
  | some n => simp only [text, value, h, entry_of_colon hcolon, strip_named, Option.elim_some]

theorem comma_notMem_text : ',' ∉ e.text := by
  have hnamed : ',' ∉ e.named := e.notMem_named (by decide) (by decide) (by decide)
  cases h : e.note with
  | none => simpa only [text, h] using hnamed
  | some n =>
    have htext : ',' ∉ n.text := by
      simp only [Note.text, List.mem_append, not_or]
      exact ⟨⟨n.before.notMem (by decide), n.inEntry⟩, n.after.notMem (by decide)⟩
    simp only [text, h, List.mem_append, List.mem_cons, not_or]
    exact ⟨hnamed, by decide, htext⟩

end Entry

/-! ### Entries joined by commas -/

theorem cutAtCommas_eq_splitOn (cs : List Char) : cutAtCommas cs = cs.splitOn ',' := by
  induction cs with
  | nil => rfl
  | cons c cs ih =>
    rw [cutAtCommas, List.splitOn_cons_eq_if_modifyHead, ← ih]
    by_cases hc : c = ','
    · simp [hc]
    · have hparts : cutAtCommas cs ≠ [] := ih ▸ List.splitOn_ne_nil ',' cs
      obtain ⟨part, parts, h⟩ := List.exists_cons_of_ne_nil hparts
      simp [hc, h]

theorem cutAtCommas_append {lead : List Char} (h : ',' ∉ lead) (cs : List Char) :
    cutAtCommas (lead ++ cs) = (cutAtCommas cs).modifyHead (lead ++ ·) := by
  induction lead with
  | nil => cases h : cutAtCommas cs <;> simp [h]
  | cons c lead ih =>
    have hc : c ≠ ',' := fun he => h (he ▸ List.mem_cons_self)
    have hparts : cutAtCommas cs ≠ [] := cutAtCommas_eq_splitOn cs ▸ List.splitOn_ne_nil ',' cs
    obtain ⟨part, parts, hcut⟩ := List.exists_cons_of_ne_nil hparts
    have ih := ih fun hmem => h (List.mem_cons_of_mem c hmem)
    rw [hcut] at ih ⊢
    simp [cutAtCommas, hc, ih]

/-- White space in front of a body belongs to its first entry, and there it is taken off. -/
theorem entries_lead (lead : Blanks) (cs : List Char) : entries (lead.1 ++ cs) = entries cs := by
  rw [entries, entries, cutAtCommas_append (lead.notMem (by decide))]
  cases cutAtCommas cs with
  | nil => rfl
  | cons part parts => rw [List.modifyHead_cons, List.map_cons, List.map_cons, entry_lead]

theorem entries_text (es : List Entry) :
    entries ([','].intercalate (es.map Entry.text)) = es.map fun e => (e.name.chars, e.value) := by
  rcases eq_or_ne es [] with rfl | hes
  · rfl
  have hparts : es.map Entry.text ≠ [] := by simpa using hes
  have hcomma : ∀ part ∈ es.map Entry.text, ',' ∉ part := by
    intro part hpart
    obtain ⟨e, -, rfl⟩ := List.mem_map.1 hpart
    exact e.comma_notMem_text
  rw [entries, cutAtCommas_eq_splitOn, List.splitOn_intercalate ',' hcomma hparts, List.map_map]
  have hread : entry ∘ Entry.text = fun e => (e.name.chars, e.value) := funext Entry.entry_text
  rw [hread, List.filter_eq_self]
  intro e he
  obtain ⟨e, -, rfl⟩ := List.mem_map.1 he
  rfl

/-! ### The comment around them -/

theorem after?_append (start cs : List Char) : after? start (start ++ cs) = some cs := by
  induction start with
  | nil => cases cs <;> rfl
  | cons c start ih => rw [List.cons_append, after?, if_pos rfl, ih]

theorem bodyOf?_append (body : List Char) : bodyOf? (body ++ ['*', '/']) = some body := by
  induction body with
  | nil => rfl
  | cons c body ih =>
    have hlong : c :: (body ++ ['*', '/']) ≠ ['*', '/'] := by
      intro h
      have hlength := congrArg List.length h
      simp at hlength
    rw [List.cons_append, bodyOf?, ih, Option.map_some]
    exact fun hc h => hlong (by rw [hc, h])

theorem endsWord_lead {lead : Blanks} (h : lead.1 ≠ []) (cs : List Char) :
    endsWord (lead.1 ++ cs) = true := by
  obtain ⟨c, rest, hlead⟩ := List.exists_cons_of_ne_nil h
  have hc : isBlank c = true := lead.2 c (hlead ▸ List.mem_cons_self)
  simp [endsWord, hlead, isWordChar_of_isBlank hc]

namespace Announcement
variable (d : Announcement)

theorem strip_text : strip d.text.toList
    = '/' :: '*' :: (d.gap.1 ++ (d.word.toList ++ (d.body ++ ['*', '/']))) := by
  have hlast : ('/' :: '*' :: (d.gap.1 ++ (d.word.toList ++ (d.body ++ ['*', '/'])))).getLast?
      = some '/' := by
    simp [List.getLast?_cons, List.getLast?_append]
  rw [text, String.toList_ofList, strip_pad]
  refine strip_eq_self ?_ ?_
  · simp only [List.head?_cons, Option.mem_some_iff, forall_eq']
    decide
  · simp only [hlast, Option.mem_some_iff, forall_eq']
    decide

/-- The first word of the table that a directive starts with, and that ends there, gives its form.
The singular also starts the plural, but there it has not ended. -/
theorem form?_text : form? d.text.toList = some (.names, d.body) := by
  have hended : endsWord (d.body ++ ['*', '/']) = true := by
    rw [body, List.append_assoc]
    exact endsWord_lead d.lead_ne _
  have hgap : (d.gap.1 ++ (d.word.toList ++ (d.body ++ ['*', '/']))).dropWhile isBlank
      = d.word.toList ++ (d.body ++ ['*', '/']) := by
    rw [d.gap.dropWhile_append, word]
    cases d.plural with
    | false => exact List.dropWhile_cons_of_neg (by decide)
    | true => exact List.dropWhile_cons_of_neg (by decide)
  have hword : after? d.word.toList (d.word.toList ++ (d.body ++ ['*', '/']))
      = some (d.body ++ ['*', '/']) := after?_append _ _
  rw [form?, d.strip_text]
  simp only [after?, if_true, Option.bind_eq_bind, Option.bind_some, hgap, words,
    List.findSome?_cons]
  cases hplural : d.plural with
  | false =>
    have hsingular : d.word = "global" := by rw [word, hplural]; rfl
    rw [hsingular] at hword ⊢
    simp only [hword, hended, if_true, bodyOf?_append, Option.bind_some]
  | true =>
    have hs : d.word = "globals" := by rw [word, hplural]; rfl
    have hopen : endsWord ('s' :: (d.body ++ ['*', '/'])) = false := by
      rw [endsWord, List.head?_cons]
      decide
    have hshort : after? "global".toList ("globals".toList ++ (d.body ++ ['*', '/']))
        = some ('s' :: (d.body ++ ['*', '/'])) := after?_append "global".toList _
    rw [hs] at hword ⊢
    simp only [hshort, hword, hopen, hended, if_true, bodyOf?_append, Option.bind_some,
      Bool.false_eq_true, if_false]

end Announcement

/-! ### What is read -/

/-- The names that are announced, each as often as it is written. -/
def Announcement.names (d : Announcement) : List String :=
  (d.entries.filter fun e => ¬ e.Off).map fun e => String.ofList e.name.chars

theorem directiveNames_text (d : Announcement) : directiveNames d.text = d.names := by
  rw [directiveNames, d.form?_text, Announcement.names]
  dsimp only [namesOf]
  rw [Announcement.body, entries_lead, entries_text, List.filter_map, List.map_map]
  have hkept : ∀ e ∈ d.entries, ((fun e => e.2 ≠ "false".toList && isName e.1) ∘
      fun e : Entry => (e.name.chars, e.value)) e = decide (¬ e.Off) := by
    intro e _
    simp only [Function.comp_apply, e.name.isName_chars, e.off_iff, Bool.and_true, ne_eq]
  rw [List.filter_congr hkept]
  rfl

end Directive

/-- The names that the head of a file announces are those of its comments, one comment after
another, and a name counts where it is first met. -/
theorem firstMet_globals (src : Source) (root : Node) :
    FirstMet ((src.headComments root).flatMap directiveNames) (src.globals root) := by
  rw [Source.globals]
  induction (src.headComments root).flatMap directiveNames using List.reverseRecOn with
  | nil => exact firstMet_nil
  | append_singleton met name ih =>
    rw [List.foldl_append, List.foldl_cons, List.foldl_nil]
    simpa only [List.contains_iff_mem] using ih.concat name

/-- Reading gives back the names that were written, in their order and as often as they stand there,
less those that are off; the head of a file announces what its comments announce. -/
theorem announcements_read_back :
    (∀ d : Directive.Announcement, directiveNames d.text = d.names) ∧
    ∀ (src : Source) (root : Node),
      FirstMet ((src.headComments root).flatMap directiveNames) (src.globals root) :=
  ⟨Directive.directiveNames_text, firstMet_globals⟩

/-- A value may hold the end of a comment, since the comment goes on to the last one. -/
example : directiveNames "/* globals define , $: */ , Worker : false, define:off */\n"
    = ["define", "$", "define"] := by
  decide +kernel

end ScopeHints
