import ScopeHints.Proofs.Workspace.Request

/-! The order that every operation of an index keeps. Each file is stored under its own path; an
answer is awaited only if a job for it is queued; a lookup waits only for a first parse that is
awaited; and each lookup that was numbered has its answer or waits for exactly one file. -/
namespace ScopeHints.Workspace
variable {ws ws' ws'' : Workspace} {p q : String}

/-- Every numbered lookup is answered or waits, and no two files share one. -/
structure Tickets (ws : Workspace) : Prop where
  numbered : ∀ p pd, ws.waiting p = some pd → pd.ticket < ws.issued
  single : ∀ p q pd pd', ws.waiting p = some pd → ws.waiting q = some pd' →
    pd.ticket = pd'.ticket → p = q
  settled : ∀ t, t < ws.issued → ws.answered t = true ∨ ∃ p pd, ws.waiting p = some pd ∧ pd.ticket = t

/-- The order of an index, as far as it concerns other files than `p`. -/
structure OrderlyApart (p : String) (ws : Workspace) : Prop where
  keyed : ∀ q, (ws.file q).path = q
  awaited : ∀ q, q ≠ p → (ws.standing q).inFlight = true → ∃ job ∈ ws.queue, job.path = q
  served : ∀ q, q ≠ p → ws.Served q
  tickets : Tickets ws

structure Orderly (ws : Workspace) : Prop where
  keyed : ∀ q, (ws.file q).path = q
  awaited : ∀ q, (ws.standing q).inFlight = true → ∃ job ∈ ws.queue, job.path = q
  served : ∀ q, ws.Served q
  tickets : Tickets ws

theorem Orderly.apart (h : Orderly ws) (p : String) : OrderlyApart p ws :=
  ⟨h.keyed, fun q _ => h.awaited q, fun q _ => h.served q, h.tickets⟩

structure Grows (ws ws' : Workspace) : Prop where
  issued : ws.issued ≤ ws'.issued
  answers : AnswersKept ws ws'

theorem Grows.of_eq (hi : ws'.issued = ws.issued) (ha : ws'.answers = ws.answers) : Grows ws ws' :=
  ⟨Nat.le_of_eq hi.symm, fun _ _ h => ha ▸ h⟩

theorem Grows.refl (ws : Workspace) : Grows ws ws := Grows.of_eq rfl rfl

theorem Grows.trans (h : Grows ws ws') (h' : Grows ws' ws'') : Grows ws ws'' :=
  ⟨Nat.le_trans h.issued h'.issued, fun t a ha => h'.answers t a (h.answers t a ha)⟩

theorem Effect.grows {new : List Job} (h : Effect p ws ws' new) : Grows ws ws' :=
  ⟨h.issued, h.answers⟩

theorem waiting_congr (h : ws'.files = ws.files) : ws'.waiting = ws.waiting := by
  funext q
  exact congrArg FileIndex.pending (file_congr (by rw [h]))

theorem standing_congr (h : ws'.files = ws.files) : ws'.standing = ws.standing := by
  funext q
  exact congrArg FileIndex.standing (file_congr (by rw [h]))

theorem Tickets.congr (h : Tickets ws) (hf : ws'.files = ws.files) (hi : ws'.issued = ws.issued)
    (hg : Grows ws ws') : Tickets ws' := by
  have hw := waiting_congr hf
  refine ⟨?_, ?_, ?_⟩
  · rw [hw, hi]
    exact h.numbered
  · rw [hw]
    exact h.single
  · intro t ht
    rw [hw]
    exact (h.settled t (hi ▸ ht)).imp_left hg.answers.answered

theorem Effect.waiting_of_ne {new : List Job} (h : Effect p ws ws' new) (hq : q ≠ p) :
    ws'.waiting q = ws.waiting q :=
  congrArg FileIndex.pending (h.file_of_ne hq)

theorem Effect.standing_of_ne {new : List Job} (h : Effect p ws ws' new) (hq : q ≠ p) :
    ws'.standing q = ws.standing q :=
  congrArg FileIndex.standing (h.file_of_ne hq)

theorem Effect.tickets {new : List Job} (h : Effect p ws ws' new) (ht : Tickets ws) :
    Tickets ws' := by
  have hother : ∀ q pd pd', q ≠ p → ws'.waiting p = some pd → ws'.waiting q = some pd' →
      pd.ticket ≠ pd'.ticket := by
    intro q pd pd' hq hpd hpd' he
    rw [h.waiting_of_ne hq] at hpd'
    obtain hw | hw := h.kept pd hpd
    · exact hq (ht.single p q pd pd' hw hpd' he).symm
    · have := ht.numbered q pd' hpd'
      omega
  refine ⟨?_, ?_, ?_⟩
  · intro q pd hpd
    have hi := h.issued
    by_cases hq : q = p
    · subst hq
      obtain hw | hw := h.kept pd hpd
      · have := ht.numbered q pd hw
        omega
      · exact hw.2
    · rw [h.waiting_of_ne hq] at hpd
      have := ht.numbered q pd hpd
      omega
  · intro q r pd pd' hpd hpd' he
    by_cases hq : q = p
    · by_cases hr : r = p
      · rw [hq, hr]
      · subst hq
        exact absurd he (hother r pd pd' hr hpd hpd')
    · by_cases hr : r = p
      · subst hr
        exact absurd he.symm (hother q pd' pd hq hpd' hpd)
      · rw [h.waiting_of_ne hq] at hpd
        rw [h.waiting_of_ne hr] at hpd'
        exact ht.single q r pd pd' hpd hpd' he
  · intro t hlt
    by_cases hlt' : t < ws.issued
    · obtain ha | ⟨q, pd, hpd, rfl⟩ := ht.settled t hlt'
      · exact .inl (h.answers.answered ha)
      · by_cases hq : q = p
        · subst hq
          exact (h.closed pd hpd).imp_right fun hw => ⟨q, pd, hw, rfl⟩
        · exact .inr ⟨q, pd, (h.waiting_of_ne hq).trans hpd, rfl⟩
    · exact (h.opened t (by omega) hlt).imp_right fun ⟨pd, hw, he⟩ => ⟨p, pd, hw, he⟩

/-- A turn of one file restores the order if it does so for this file. -/
theorem Turn.orderly {new : List Job} {s : Standing} (h : Turn p ws ws' new s)
    (ho : OrderlyApart p ws) (hs : ws'.Served p)
    (ha : s.inFlight = true → ∃ job ∈ ws'.queue, job.path = p) : Orderly ws' := by
  refine ⟨?_, ?_, ?_, h.tickets ho.tickets⟩
  · intro q
    by_cases hq : q = p
    · subst hq
      exact h.path
    · rw [h.file_of_ne hq]
      exact ho.keyed q
  · intro q hf
    by_cases hq : q = p
    · subst hq
      rw [h.standing] at hf
      exact ha hf
    · rw [h.standing_of_ne hq] at hf
      obtain ⟨job, hj, hjq⟩ := ho.awaited q hq hf
      exact ⟨job, by rw [h.queue]; exact List.mem_append_left _ hj, hjq⟩
  · intro q
    by_cases hq : q = p
    · subst hq
      exact hs
    · intro pd hpd
      rw [h.waiting_of_ne hq] at hpd
      rw [h.standing_of_ne hq]
      exact ho.served q hq pd hpd

theorem Orderly.congr (h : Orderly ws) (hf : ws'.files = ws.files) (hq : ws'.queue = ws.queue)
    (hi : ws'.issued = ws.issued) (hg : Grows ws ws') : Orderly ws' := by
  refine ⟨?_, ?_, ?_, h.tickets.congr hf hi hg⟩
  · intro q
    have hfile : ws'.file q = ws.file q := file_congr (by rw [hf])
    rw [hfile]
    exact h.keyed q
  · rw [standing_congr hf, hq]
    exact h.awaited
  · intro q pd
    rw [waiting_congr hf, standing_congr hf]
    exact h.served q pd

theorem OrderlyApart.complete (h : OrderlyApart p ws)
    (ha : (ws.standing p).inFlight = true → ∃ job ∈ ws.queue, job.path = p) (hs : ws.Served p) :
    Orderly ws := by
  refine ⟨h.keyed, ?_, ?_, h.tickets⟩
  · intro q hf
    by_cases hq : q = p
    · subst hq
      exact ha hf
    · exact h.awaited q hq hf
  · intro q
    by_cases hq : q = p
    · subst hq
      exact hs
    · exact h.served q hq

end ScopeHints.Workspace
