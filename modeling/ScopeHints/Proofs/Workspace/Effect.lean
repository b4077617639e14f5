import ScopeHints.Proofs.Table
import ScopeHints.Proofs.Workspace.Standing

/-! What an operation on one file may do to the rest of the index: the other files stay, the queue
grows at its end by jobs of this file, no answer is withdrawn, and a lookup that no longer waits
has been answered. -/
namespace ScopeHints

namespace Workspace
variable {ws ws' ws'' : Workspace} {p q : String}

def waiting (ws : Workspace) (p : String) : Option Pending := (ws.file p).pending

def standing (ws : Workspace) (p : String) : Standing := (ws.file p).standing

theorem file_put (ws : Workspace) (p q : String) (f : FileIndex) :
    (ws.put p f).file q = if p = q then f else ws.file q := by
  unfold file put
  rw [Table.get?_insert]
  split <;> rfl

@[simp] theorem file_put_self (ws : Workspace) (p : String) (f : FileIndex) :
    (ws.put p f).file p = f := by
  simp [file_put]

theorem get?_put_of_ne (ws : Workspace) (f : FileIndex) (h : q ≠ p) :
    (ws.put p f).files.get? q = ws.files.get? q :=
  Table.get?_insert_of_ne _ (Ne.symm h) f

@[simp] theorem file_log (ws : Workspace) (e : LogEvent) (p : String) :
    (ws.log e).file p = ws.file p := rfl

theorem file_queue (ws : Workspace) (l : List Job) (p : String) :
    ({ ws with queue := l } : Workspace).file p = ws.file p := rfl

theorem file_eq {f : FileIndex} (h : ws.files.get? p = some f) : ws.file p = f := by
  simp [file, h]

theorem file_congr (h : ws'.files.get? p = ws.files.get? p) : ws'.file p = ws.file p := by
  unfold file
  rw [h]

theorem settle_files (ws : Workspace) (t : Nat) (a : Answer) : (ws.settle t a).files = ws.files := by
  unfold settle
  split <;> rfl

@[simp] theorem settle_file (ws : Workspace) (t : Nat) (a : Answer) (p : String) :
    (ws.settle t a).file p = ws.file p := by
  unfold file
  rw [settle_files]

theorem settle_queue (ws : Workspace) (t : Nat) (a : Answer) : (ws.settle t a).queue = ws.queue := by
  unfold settle
  split <;> rfl

theorem settle_workers (ws : Workspace) (t : Nat) (a : Answer) :
    (ws.settle t a).workers = ws.workers := by
  unfold settle
  split <;> rfl

theorem settle_issued (ws : Workspace) (t : Nat) (a : Answer) :
    (ws.settle t a).issued = ws.issued := by
  unfold settle
  split <;> rfl

theorem settle_keeps (ws : Workspace) (t : Nat) (a : Answer) {u : Nat} {b : Answer}
    (h : ws.answers.get? u = some b) : (ws.settle t a).answers.get? u = some b := by
  unfold settle
  split
  · exact h
  · rename_i hn
    have hne : t ≠ u := by
      intro he
      simp [answered, Table.contains, he, h] at hn
    simpa [Table.get?_insert, hne] using h

theorem settle_other (ws : Workspace) {t u : Nat} (a : Answer) (h : t ≠ u) :
    (ws.settle t a).answers.get? u = ws.answers.get? u := by
  unfold settle
  split
  · rfl
  · exact Table.get?_insert_of_ne _ h a

theorem settle_answered (ws : Workspace) (t : Nat) (a : Answer) : (ws.settle t a).answered t = true := by
  unfold settle
  split
  · assumption
  · simp [answered, Table.contains]

/-! ### Effects -/

def AnswersKept (ws ws' : Workspace) : Prop :=
  ∀ t a, ws.answers.get? t = some a → ws'.answers.get? t = some a

theorem AnswersKept.answered {t : Nat} (h : AnswersKept ws ws') (ha : ws.answered t = true) :
    ws'.answered t = true := by
  obtain ⟨a, ha⟩ := Option.isSome_iff_exists.1 ha
  exact Option.isSome_iff_exists.2 ⟨a, h t a ha⟩

/-- The index with `f` as the index of a path, more log lines apart. -/
structure Stored (p : String) (f : FileIndex) (ws ws' : Workspace) : Prop where
  self : ws'.files.get? p = some f
  others : ∀ q, q ≠ p → ws'.files.get? q = ws.files.get? q
  queue : ws'.queue = ws.queue
  issued : ws'.issued = ws.issued
  answers : ws'.answers = ws.answers
  workers : ws'.workers = ws.workers

theorem stored_put (ws : Workspace) (p : String) (f : FileIndex) : Stored p f ws (ws.put p f) :=
  ⟨Table.get?_insert_self _ p f, fun _ h => get?_put_of_ne ws f h, rfl, rfl, rfl, rfl⟩

theorem Stored.log {f : FileIndex} (h : Stored p f ws ws') (e : LogEvent) :
    Stored p f ws (ws'.log e) :=
  ⟨h.self, h.others, h.queue, h.issued, h.answers, h.workers⟩

/-- What an operation on the file at `p` may do besides changing this file. It may hand `new`
jobs to the parser and make lookups for this file wait. -/
structure Effect (p : String) (ws ws' : Workspace) (new : List Job) : Prop where
  others : ∀ q, q ≠ p → ws'.files.get? q = ws.files.get? q
  queue : ws'.queue = ws.queue ++ new
  mine : ∀ job ∈ new, job.path = p
  workers : ws'.workers = ws.workers
  issued : ws.issued ≤ ws'.issued
  answers : AnswersKept ws ws'
  /-- A lookup that waits has waited before or is a new one. -/
  kept : ∀ pd, ws'.waiting p = some pd →
    ws.waiting p = some pd ∨ (ws.issued ≤ pd.ticket ∧ pd.ticket < ws'.issued)
  /-- A lookup that waits no longer has its answer. -/
  closed : ∀ pd, ws.waiting p = some pd →
    ws'.answered pd.ticket = true ∨ ws'.waiting p = some pd
  /-- A new lookup has its answer or waits. -/
  opened : ∀ t, ws.issued ≤ t → t < ws'.issued →
    ws'.answered t = true ∨ ∃ pd, ws'.waiting p = some pd ∧ pd.ticket = t
  /-- Only the lookup that waited for this file, or a new one, is answered. -/
  settled : ∀ t, t < ws.issued → (∀ pd, ws.waiting p = some pd → pd.ticket ≠ t) →
    ws'.answers.get? t = ws.answers.get? t

namespace Effect
variable {new new' : List Job}

theorem file_of_ne (h : Effect p ws ws' new) (hq : q ≠ p) : ws'.file q = ws.file q :=
  file_congr (h.others q hq)

theorem refl (p : String) (ws : Workspace) : Effect p ws ws [] where
  others _ _ := rfl
  queue := by simp
  mine := by simp
  workers := rfl
  issued := Nat.le_refl _
  answers _ _ h := h
  kept _ h := .inl h
  closed _ h := .inr h
  opened t h h' := by omega
  settled _ _ _ := rfl

theorem trans (h : Effect p ws ws' new) (h' : Effect p ws' ws'' new') :
    Effect p ws ws'' (new ++ new') where
  others q hq := (h'.others q hq).trans (h.others q hq)
  queue := by rw [h'.queue, h.queue, List.append_assoc]
  mine job hj := (List.mem_append.1 hj).elim (h.mine job) (h'.mine job)
  workers := h'.workers.trans h.workers
  issued := Nat.le_trans h.issued h'.issued
  answers t a ha := h'.answers t a (h.answers t a ha)
  kept pd hpd := by
    have hi := h.issued
    have hi' := h'.issued
    obtain hw | hw := h'.kept pd hpd
    · obtain hw | hw := h.kept pd hw
      · exact .inl hw
      · exact .inr ⟨hw.1, by omega⟩
    · exact .inr ⟨by omega, hw.2⟩
  closed pd hpd := by
    obtain ha | hw := h.closed pd hpd
    · exact .inl (h'.answers.answered ha)
    · exact h'.closed pd hw
  opened t ht ht' := by
    by_cases hlt : t < ws'.issued
    · obtain ha | ⟨pd, hw, rfl⟩ := h.opened t ht hlt
      · exact .inl (h'.answers.answered ha)
      · obtain ha | hw := h'.closed pd hw
        · exact .inl ha
        · exact .inr ⟨pd, hw, rfl⟩
    · exact h'.opened t (by omega) ht'
  settled t ht hw := by
    have hi := h.issued
    refine (h'.settled t (by omega) ?_).trans (h.settled t ht hw)
    intro pd hpd he
    obtain hpd | hnew := h.kept pd hpd
    · exact hw pd hpd he
    · omega

theorem log (h : Effect p ws ws' new) (e : LogEvent) : Effect p ws (ws'.log e) new :=
  ⟨h.others, h.queue, h.mine, h.workers, h.issued, h.answers, h.kept, h.closed, h.opened, h.settled⟩

theorem of_stored {f : FileIndex} (h : Stored p f ws ws') (hf : f.pending = ws.waiting p) :
    Effect p ws ws' [] := by
  have hw : ws'.waiting p = ws.waiting p := by rw [waiting, file_eq h.self, hf]
  refine ⟨h.others, by simp [h.queue], by simp, h.workers, Nat.le_of_eq h.issued.symm, ?_, ?_, ?_, ?_,
    fun _ _ _ => by rw [h.answers]⟩
  · intro t a ha
    rw [h.answers]
    exact ha
  · intro pd hpd
    exact .inl (hw ▸ hpd)
  · intro pd hpd
    exact .inr (hw.trans hpd)
  · intro t ht ht'
    rw [h.issued] at ht'
    omega

theorem of_settle {f : FileIndex} {pd : Pending} (h : Stored p f ws ws') (hf : f.pending = none)
    (hpd : ws.waiting p = some pd) (a : Answer) : Effect p ws (ws'.settle pd.ticket a) [] := by
  have hw : (ws'.settle pd.ticket a).waiting p = none := by
    rw [waiting, settle_file, file_eq h.self, hf]
  refine ⟨?_, by simp [settle_queue, h.queue], by simp, (settle_workers _ _ _).trans h.workers, ?_,
    ?_, ?_, ?_, ?_, ?_⟩
  · intro q hq
    rw [settle_files]
    exact h.others q hq
  · exact Nat.le_of_eq (by rw [settle_issued, h.issued])
  · intro t b hb
    apply settle_keeps
    rw [h.answers]
    exact hb
  · intro pd' hpd'
    rw [hw] at hpd'
    cases hpd'
  · intro pd' hpd'
    obtain rfl : pd = pd' := Option.some.inj (hpd.symm.trans hpd')
    exact .inl (settle_answered _ _ _)
  · intro t ht ht'
    rw [settle_issued, h.issued] at ht'
    omega
  · intro t _ hw
    rw [settle_other ws' a (hw pd hpd), h.answers]

theorem of_enqueue {f : FileIndex} (h : Stored p f ws ws') (hf : f.pending = ws.waiting p)
    (hnew : ∀ job ∈ new, job.path = p) : Effect p ws { ws' with queue := ws.queue ++ new } new := by
  have he := of_stored h hf
  exact ⟨he.others, rfl, hnew, he.workers, he.issued, he.answers, he.kept, he.closed, he.opened,
    he.settled⟩

end Effect

/-- An operation on the file at `p`, after which the file stands at `s`. -/
structure Turn (p : String) (ws ws' : Workspace) (new : List Job) (s : Standing) : Prop extends
    Effect p ws ws' new where
  standing : ws'.standing p = s
  path : (ws'.file p).path = p

namespace Turn
variable {new new' : List Job} {s s' : Standing} {f : FileIndex}

theorem refl (hk : (ws.file p).path = p) : Turn p ws ws [] (ws.standing p) :=
  ⟨Effect.refl p ws, rfl, hk⟩

theorem trans (h : Turn p ws ws' new s) (h' : Turn p ws' ws'' new' s') :
    Turn p ws ws'' (new ++ new') s' :=
  ⟨h.toEffect.trans h'.toEffect, h'.standing, h'.path⟩

theorem log (h : Turn p ws ws' new s) (e : LogEvent) : Turn p ws (ws'.log e) new s :=
  ⟨h.toEffect.log e, h.standing, h.path⟩

theorem as (h : Turn p ws ws' new s) (hs : s = s') : Turn p ws ws' new s' := hs ▸ h

theorem of_stored (h : Stored p f ws ws') (hf : f.pending = ws.waiting p) (hk : f.path = p) :
    Turn p ws ws' [] f.standing :=
  ⟨Effect.of_stored h hf, congrArg FileIndex.standing (file_eq h.self), by rw [file_eq h.self, hk]⟩

end Turn

end Workspace

end ScopeHints
