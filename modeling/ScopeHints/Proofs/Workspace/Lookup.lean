import ScopeHints.Proofs.Workspace.Request

/-! Lookups by path. To the standing of its file a lookup is a request; a lookup that has to wait
takes the place of the one before it. -/
namespace ScopeHints.Workspace
variable {ws ws' : Workspace} {p : String}

structure Dismissed (pending : Option Pending) (ws ws' : Workspace) : Prop where
  files : ws'.files = ws.files
  queue : ws'.queue = ws.queue
  issued : ws'.issued = ws.issued
  workers : ws'.workers = ws.workers
  answers : AnswersKept ws ws'
  answered : ∀ pd, pending = some pd → ws'.answered pd.ticket = true

structure Rejected (pending : Option Pending) (ws ws' : Workspace) : Prop extends
    Dismissed pending ws ws' where
  settled : ∀ t, (∀ pd, pending = some pd → pd.ticket ≠ t) → ws'.answers.get? t = ws.answers.get? t

theorem Dismissed.refl {pending : Option Pending}
    (h : ∀ pd, pending = some pd → ws.answered pd.ticket = true) : Dismissed pending ws ws :=
  ⟨rfl, rfl, rfl, rfl, fun _ _ ha => ha, h⟩

theorem reject_rejected (ws : Workspace) (path : String) (pending : Option Pending)
    (reason : Option String) : Rejected pending ws (ws.reject path pending reason) := by
  unfold reject
  split
  · exact ⟨Dismissed.refl (by simp), fun _ _ => rfl⟩
  · rename_i pd
    split
    · rename_i ha
      exact ⟨Dismissed.refl fun pd' h => Option.some.inj h ▸ ha, fun _ _ => rfl⟩
    · refine ⟨⟨settle_files _ _ _, settle_queue _ _ _, settle_issued _ _ _,
        settle_workers _ _ _, fun _ _ => settle_keeps ws pd.ticket _, ?_⟩, ?_⟩
      · exact fun pd' h => Option.some.inj h ▸ settle_answered ws pd.ticket _
      · exact fun t ht => settle_other ws _ (ht pd rfl)

theorem Effect.of_ask {f : FileIndex} {pd : Pending} (h : Rejected (ws.waiting p) ws ws')
    (hf : f.pending = some pd) (ht : pd.ticket = ws'.issued) :
    Effect p ws ({ ws' with issued := ws'.issued + 1 }.put p f) [] := by
  have hw : ({ ws' with issued := ws'.issued + 1 }.put p f).waiting p = some pd := by
    rw [waiting, file_put_self, hf]
  have hi := h.issued
  refine ⟨?_, h.queue.trans (List.append_nil _).symm, by simp, h.workers, ?_, h.answers, ?_,
    ?_, ?_, fun t _ => h.settled t⟩
  · intro q hq
    rw [get?_put_of_ne _ _ hq, h.files]
  · show ws.issued ≤ ws'.issued + 1
    omega
  · intro pd' hpd'
    rw [hw] at hpd'
    obtain rfl := Option.some.inj hpd'
    refine .inr ⟨by omega, ?_⟩
    show pd.ticket < ws'.issued + 1
    omega
  · intro pd' hpd'
    exact .inl (h.answered pd' hpd')
  · intro t hlo hhi
    have hhi : t < ws'.issued + 1 := hhi
    exact .inr ⟨pd, hw, by omega⟩

theorem track_turn (hk : (ws.file p).path = p) : Turn p ws (ws.track p) [] (ws.standing p) :=
  Turn.of_stored (stored_put ws p _) rfl hk

theorem track_served (h : ws.Served p) : (ws.track p).Served p := by
  have hf : (ws.track p).file p = ws.file p := file_put_self ws p _
  intro pd hpd
  rw [waiting, hf] at hpd
  rw [standing, hf]
  exact h pd hpd

/-- The three ways of a lookup: the file is first handed to the parser if its text changed, and
then the kept answer is given, an answer is computed, or the lookup is made to wait. -/
theorem lookup_cases (host : Host) (offset : Int) (hk : (ws.file p).path = p) :
    ∃ ws₁, ws₁ = (if (ws.file p).outerDirty && (ws.file p).outer.isSome then
        (refresh host (ws.track p) p false).2 else ws.track p) ∧ (ws₁.file p).path = p ∧
      ((∃ info, lookup host ws p offset = (.info info, ws₁)) ∨
        (∃ tree, (ws₁.file p).outer = some tree ∧ lookup host ws p offset =
          (.info (compute host.settings.hints ws₁ (ws₁.file p) tree offset).1,
            (compute host.settings.hints ws₁ (ws₁.file p) tree offset).2)) ∨
        ((ws₁.file p).outer = none ∧ ∃ ws₂ f e, Rejected (ws₁.waiting p) ws₁ ws₂ ∧
          f.pending = some ⟨offset, ws₂.issued⟩ ∧ f.standing = ws₁.standing p ∧
          f.path = (ws₁.file p).path ∧ lookup host ws p offset =
            (.pending ws₂.issued, servicePending host.settings.hints
              (refresh host (({ ws₂ with issued := ws₂.issued + 1 }.put p f).log e) p false).2 p))) := by
  have hf : (ws.track p).file p = ws.file p := file_put_self ws p _
  obtain ⟨ws₁, h₁⟩ : ∃ ws₁, ws₁ = (if (ws.file p).outerDirty && (ws.file p).outer.isSome then
      (refresh host (ws.track p) p false).2 else ws.track p) := ⟨_, rfl⟩
  have h₀ := track_turn hk
  have hpath : (ws₁.file p).path = p := by
    rw [h₁]
    split
    · exact (refresh_turn host false h₀.path).path
    · exact h₀.path
  refine ⟨ws₁, h₁, hpath, ?_⟩
  unfold lookup
  dsimp only
  rw [hf, ← h₁]
  split
  · exact .inl ⟨_, rfl⟩
  · split
    · rename_i tree ho
      exact .inr (.inl ⟨tree, ho, rfl⟩)
    · rename_i ho
      exact .inr (.inr ⟨ho, ws₁.reject p (ws₁.waiting p) none, { ws₁.file p with pending := _ }, _,
        reject_rejected _ _ _ _, rfl, rfl, rfl, rfl⟩)

theorem compute_turn (settings : HintSettings) (hk : (ws.file p).path = p) (tree : ScopeTree)
    (offset : Int) : Turn p ws (compute settings ws (ws.file p) tree offset).2 [] (ws.standing p) := by
  obtain ⟨g, hg, hs, hpd, hpath⟩ := stored_compute settings ws (ws.file p) tree offset
  rw [hk] at hg hpath
  have ht := Turn.of_stored hg hpd hpath
  rw [hs] at ht
  exact ht

theorem compute_served (settings : HintSettings) (hk : (ws.file p).path = p) (tree : ScopeTree)
    (offset : Int) (h : ws.Served p) :
    (compute settings ws (ws.file p) tree offset).2.Served p := by
  obtain ⟨g, hg, -, hpd, -⟩ := stored_compute settings ws (ws.file p) tree offset
  rw [hk] at hg
  intro pd hw
  rw [waiting, file_eq hg.self, hpd] at hw
  rw [(compute_turn settings hk tree offset).standing]
  exact h pd hw

theorem ask_turn (host : Host) {f : FileIndex} {pd : Pending} (e : LogEvent)
    (h : Rejected (ws.waiting p) ws ws') (hf : f.pending = some pd) (ht : pd.ticket = ws'.issued)
    (hs : f.standing = ws.standing p) (hk : f.path = p) :
    Turn p ws (servicePending host.settings.hints
        (refresh host (({ ws' with issued := ws'.issued + 1 }.put p f).log e) p false).2 p)
      (host.requestJobs p false (ws.standing p))
      ((ws.standing p).refreshed false (host.readable p)) := by
  have h₁ : Turn p ws (({ ws' with issued := ws'.issued + 1 }.put p f).log e) [] (ws.standing p) := by
    refine ⟨(Effect.of_ask h hf ht).log e, ?_, ?_⟩
    · rw [standing, file_log, file_put_self, hs]
    · rw [file_log, file_put_self, hk]
  have h₂ := refresh_turn host false h₁.path
  rw [h₁.standing] at h₂
  have h₃ := servicePending_turn host.settings.hints h₂.path
  rw [h₂.standing] at h₃
  simpa using (h₁.trans h₂).trans h₃

theorem lookup_turn (host : Host) (offset : Int) (hk : (ws.file p).path = p) :
    Turn p ws (lookup host ws p offset).2 (host.requestJobs p false (ws.standing p))
        ((ws.standing p).refreshed false (host.readable p)) ∨
      Turn p ws (lookup host ws p offset).2 [] (ws.standing p) := by
  have h₀ := track_turn hk
  obtain ⟨ws₁, h₁, -, hcases⟩ := lookup_cases host offset hk
  by_cases hd : ((ws.file p).outerDirty && (ws.file p).outer.isSome) = true
  · -- The file was handed over before its scopes answer; it has some.
    left
    have ht := refresh_turn host false h₀.path
    rw [if_pos hd] at h₁
    rw [h₀.standing, ← h₁] at ht
    replace ht := h₀.trans ht
    obtain ⟨info, h⟩ | ⟨tree, -, h⟩ | ⟨ho, -⟩ := hcases
    · rw [h]
      exact ht
    · rw [h, ← ht.standing]
      simpa using ht.trans (compute_turn _ ht.path tree offset)
    · have hsome : (ws₁.file p).outer = (ws.file p).outer := by
        have hc : (ws₁.standing p).content = (ws.standing p).content := by
          rw [ht.standing, Standing.refreshed_content]
        exact congrArg Content.outer hc
      rw [← hsome, ho] at hd
      simp at hd
  · rw [if_neg hd] at h₁
    have ht : Turn p ws ws₁ [] (ws.standing p) := by rw [h₁]; exact h₀
    obtain ⟨info, h⟩ | ⟨tree, -, h⟩ | ⟨-, ws₂, f, e, hrej, hpd, hs, hpath, h⟩ := hcases
    · rw [h]
      exact .inr ht
    · rw [h, ← ht.standing]
      exact .inr (ht.trans (compute_turn _ ht.path tree offset))
    · left
      have hask := ask_turn host e hrej hpd rfl hs (hpath.trans ht.path)
      rw [h, ← ht.standing]
      exact ht.trans hask

theorem lookup_served (host : Host) (offset : Int) (hk : (ws.file p).path = p) (h : ws.Served p) :
    (lookup host ws p offset).2.Served p := by
  have h₀ := track_turn hk
  have hs₀ := track_served h
  obtain ⟨ws₁, h₁, hk₁, hcases⟩ := lookup_cases host offset hk
  have hs₁ : ws₁.Served p := by
    rw [h₁]
    split
    · exact refresh_served host false h₀.path fun pd hpd => (hs₀ pd hpd).1
    · exact hs₀
  obtain ⟨info, h⟩ | ⟨tree, -, h⟩ | ⟨-, ws₂, f, e, hrej, hpd, hs, hpath, h⟩ := hcases
  · rw [h]
    exact hs₁
  · rw [h]
    exact compute_served _ hk₁ tree offset hs₁
  · rw [h]
    apply servicePending_served
    refine (refresh_turn host false ?_).path
    rw [file_log, file_put_self, hpath, hk₁]

end ScopeHints.Workspace
