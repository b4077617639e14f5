import ScopeHints.Proofs.Workspace.Changes

/-! What an index tells comes from its parser: each file with scopes holds a parse, and each answer
with scopes is what a lookup finds in such a file. -/
namespace ScopeHints

namespace Workspace
variable {ws ws' : Workspace} {parser : Parser} {settings : HintSettings}

def Sourced (parser : Parser) (p : String) (c : Content) : Prop :=
  ∃ text retries parsed, parseText parser text retries = .ok parsed ∧ c = parsed.contentAt p

def Grounded (parser : Parser) (settings : HintSettings) (info : ScopeInfo) : Prop :=
  ∃ (f : FileIndex) (p text : String) (retries : Int) (parsed : ParsedFile) (shares : Shares)
    (offset : Int), parseText parser text retries = .ok parsed ∧ f.content = parsed.contentAt p ∧
      info = infoFrom settings shares f parsed.tree offset

structure Truthful (parser : Parser) (settings : HintSettings) (ws : Workspace) : Prop where
  shelved : ∀ e ∈ ws.files.entries, e.2.path = e.1
  sourced : ∀ p, (ws.file p).outer = none ∨ Sourced parser p (ws.file p).content
  answers : ∀ t info, ws.answers.get? t = some (.info info) →
    info = degradedInfo settings ∨ Grounded parser settings info

theorem keyed_of_shelved (h : ∀ e ∈ ws.files.entries, e.2.path = e.1) (q : String) :
    (ws.file q).path = q := by
  cases hf : ws.files.get? q with
  | none =>
    rw [file, hf]
    rfl
  | some f =>
    rw [file_eq hf]
    exact h (q, f) (Table.mem_entries hf)

theorem truthful_new (parser : Parser) (settings : HintSettings) (workers : Workers) :
    Truthful parser settings { workers } := by
  refine ⟨?_, ?_, ?_⟩
  · intro e he
    cases he
  · intro p
    exact .inl rfl
  · intro t info hi
    cases hi

theorem Sourced.exists_tree {parser : Parser} {p : String} {f : FileIndex} {tree : ScopeTree}
    (h : f.outer = none ∨ Sourced parser p f.content) (ho : f.outer = some tree) :
    ∃ text retries parsed, parseText parser text retries = .ok parsed ∧
      f.content = parsed.contentAt p ∧ tree = parsed.tree := by
  obtain h | ⟨text, retries, parsed, hparse, hcontent⟩ := h
  · rw [h] at ho
    cases ho
  · have houter : f.outer = some parsed.tree := congrArg Content.outer hcontent
    exact ⟨text, retries, parsed, hparse, hcontent, Option.some.inj (ho.symm.trans houter)⟩

theorem content_movedTo (f : FileIndex) (new : String) :
    (f.movedTo new).content =
      { f.content with properties := FileIndex.withPath new f.properties } := by
  unfold FileIndex.movedTo
  split <;> rfl

theorem withPath_withPath (old new : String) (tokens : List HintToken) :
    FileIndex.withPath new (FileIndex.withPath old tokens) = FileIndex.withPath new tokens := by
  simp [FileIndex.withPath]

theorem Sourced.moved {parser : Parser} {old : String} {f : FileIndex} (new : String)
    (h : f.outer = none ∨ Sourced parser old f.content) :
    (f.movedTo new).outer = none ∨ Sourced parser new (f.movedTo new).content := by
  obtain h | ⟨text, retries, parsed, hparse, hcontent⟩ := h
  · exact .inl ((FileIndex.movedTo_outer f new).trans h)
  · refine .inr ⟨text, retries, parsed, hparse, ?_⟩
    have hproperties : f.properties = FileIndex.withPath old parsed.properties :=
      congrArg Content.properties hcontent
    rw [content_movedTo, hcontent, hproperties, withPath_withPath]
    rfl

theorem file_of_insert {q p : String} {g : FileIndex} (h : ws'.files = ws.files.insert q g) :
    ws'.file p = if q = p then g else ws.file p := by
  unfold file
  rw [h, Table.get?_insert]
  split <;> rfl

theorem file_of_move {old new p : String} {g : FileIndex}
    (h : ws'.files = ((ws.files.erase old).erase new).insert new g) :
    ws'.file p = if new = p then g else if old = p then { path := p } else ws.file p := by
  unfold file
  rw [h, Table.get?_insert, Table.get?_erase, Table.get?_erase]
  split
  · rfl
  · split <;> rfl

theorem Truthful.insert {q : String} {g : FileIndex} (ht : Truthful parser settings ws)
    (hfiles : ws'.files = ws.files.insert q g) (hpath : g.path = q)
    (hsourced : g.outer = none ∨ Sourced parser q g.content)
    (hanswers : ∀ t info, ws'.answers.get? t = some (.info info) →
      info = degradedInfo settings ∨ Grounded parser settings info) :
    Truthful parser settings ws' := by
  refine ⟨?_, ?_, hanswers⟩
  · intro e he
    rw [hfiles] at he
    obtain rfl | he := Table.mem_insertIn he
    · exact hpath
    · exact ht.shelved e he
  · intro p
    rw [file_of_insert hfiles]
    split
    · rename_i hp
      subst hp
      exact hsourced
    · exact ht.sourced p

theorem Touch.truthful {q : String} (h : Touch settings q ws ws')
    (ht : Truthful parser settings ws) : Truthful parser settings ws' := by
  have hanswers : ∀ t info, ws'.answers.get? t = some (.info info) →
      info = degradedInfo settings ∨ Grounded parser settings info := by
    intro t info hget
    obtain hget | hdegraded := h.answers t info hget
    · exact ht.answers t info hget
    · exact .inl hdegraded
  obtain hf | hf := h.files
  · refine ⟨by rw [hf]; exact ht.shelved, ?_, hanswers⟩
    intro p
    have hfile : ws'.file p = ws.file p := file_congr (by rw [hf])
    rw [hfile]
    exact ht.sourced p
  · refine ht.insert hf h.path ?_ hanswers
    have houter : (ws'.file q).outer = (ws.file q).outer := congrArg Content.outer h.content
    rw [h.content, houter]
    exact ht.sourced q

theorem Change.truthful {e : FileEvent} (h : Change parser settings ws ws' e)
    (ht : Truthful parser settings ws) : Truthful parser settings ws' := by
  have hquiet : Informs (fun _ => False) ws ws' → ∀ t info, ws'.answers.get? t = some (.info info) →
      info = degradedInfo settings ∨ Grounded parser settings info := by
    intro hi t info hget
    exact ht.answers t info ((hi t info hget).resolve_right id)
  cases h with
  | @look q tree offset h =>
    refine ht.insert h.files h.path (ht.sourced q) ?_
    intro t info hget
    obtain hget | rfl := h.answers t info hget
    · exact ht.answers t info hget
    · obtain ⟨text, retries, parsed, hparse, hcontent, rfl⟩ :=
        Sourced.exists_tree (ht.sourced q) h.outer
      exact .inr ⟨ws.file q, q, text, retries, parsed, ws.around q, offset, hparse, hcontent, rfl⟩
  | @install q text retries parsed hparse hpath hfiles hi =>
    refine ht.insert hfiles hpath (.inr ⟨text, retries, parsed, hparse, ?_⟩) (hquiet hi)
    exact congrArg Standing.content (FileIndex.standing_taking (ws.file q) (.ok parsed) hpath)
  | @move old new f hf hfiles hi =>
    refine ⟨?_, ?_, hquiet hi⟩
    · intro e he
      rw [hfiles] at he
      obtain rfl | he := Table.mem_insertIn he
      · exact FileIndex.movedTo_path f new
      · exact ht.shelved e (List.mem_filter.1 (List.mem_filter.1 he).1).1
    · intro p
      rw [file_of_move hfiles]
      split
      · rename_i hp
        subst hp
        have hold := ht.sourced old
        rw [file_eq hf] at hold
        exact Sourced.moved new hold
      · split
        · exact .inl rfl
        · exact ht.sourced p
  | forget hfiles hi =>
    refine ⟨?_, ?_, hquiet hi⟩
    · intro e he
      rw [hfiles] at he
      cases he
    · intro p
      left
      rw [file, hfiles]
      rfl

theorem Changes.truthful {events : List FileEvent} (h : Changes parser settings ws events ws')
    (ht : Truthful parser settings ws) : Truthful parser settings ws' :=
  h.keeps (fun ht => ht.truthful) (fun _ he => he.truthful) ht

end Workspace

namespace World
open Workspace

theorem run_truthful (w : World) (workers : Workers) (steps : List Step) :
    Truthful w.parser w.settings.hints ((w.fresh workers).run steps).2.workspace :=
  (run_changes steps (w := w.fresh workers) (orderly_new workers)).truthful
    (truthful_new w.parser w.settings.hints workers)

end World

end ScopeHints
