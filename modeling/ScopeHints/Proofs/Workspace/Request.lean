import ScopeHints.Proofs.Workspace.Effect

/-! Requests to parse a file and answers to the lookup that waits for it, as turns of this file. -/
namespace ScopeHints.Workspace
variable {ws ws' : Workspace} {p : String}

theorem stored_compute (settings : HintSettings) (ws : Workspace) (f : FileIndex)
    (tree : ScopeTree) (offset : Int) :
    ∃ g, Stored f.path g ws (compute settings ws f tree offset).2 ∧ g.standing = f.standing ∧
      g.pending = f.pending ∧ g.path = f.path :=
  ⟨_, (stored_put ws f.path _).log _, rfl, rfl, rfl⟩

theorem servicePending_of_unasked (settings : HintSettings) (hpd : (ws.file p).pending = none) :
    servicePending settings ws p = ws := by
  simp [servicePending, hpd]

theorem servicePending_of_outer (settings : HintSettings) {pd : Pending} {tree : ScopeTree}
    (hpd : (ws.file p).pending = some pd) (ho : (ws.file p).outer = some tree) :
    servicePending settings ws p =
      (compute settings (ws.put p (ws.file p).relieved) (ws.file p).relieved tree pd.offset).2.settle
        pd.ticket (.info (compute settings (ws.put p (ws.file p).relieved) (ws.file p).relieved tree
          pd.offset).1) := by
  unfold servicePending
  dsimp only
  split
  · rename_i hnone
    cases hpd.symm.trans hnone
  · rename_i pd' hpd'
    obtain rfl := Option.some.inj (hpd.symm.trans hpd')
    split
    · rename_i tree' ho'
      obtain rfl := Option.some.inj (ho.symm.trans ho')
      rfl
    · rename_i hnone
      cases ho.symm.trans hnone

/-- Without scopes the lookup goes on waiting for the first parse, or finds only keywords. -/
theorem servicePending_of_none (settings : HintSettings) {pd : Pending}
    (hpd : (ws.file p).pending = some pd) (ho : (ws.file p).outer = none) :
    servicePending settings ws p =
      if (ws.file p).inFlight then ws
      else (ws.put p (ws.file p).relieved).settle pd.ticket (.info (degradedInfo settings)) := by
  unfold servicePending
  dsimp only
  split
  · rename_i hnone
    cases hpd.symm.trans hnone
  · rename_i pd' hpd'
    obtain rfl := Option.some.inj (hpd.symm.trans hpd')
    split
    · rename_i tree ho'
      cases ho.symm.trans ho'
    · rfl

/-- Answering the lookup that waits for a file either changes nothing, because none waits or the
first parse is awaited, or stores the file without it and settles it. -/
theorem servicePending_cases (settings : HintSettings) (hk : (ws.file p).path = p) :
    (servicePending settings ws p = ws ∧ (ws.waiting p = none ∨
      (ws.standing p).content.outer = none ∧ (ws.standing p).inFlight = true)) ∨
    ∃ pd a f ws', ws.waiting p = some pd ∧ servicePending settings ws p = ws'.settle pd.ticket a ∧
      Stored p f ws ws' ∧ f.standing = ws.standing p ∧ f.pending = none ∧ f.path = p := by
  cases hpd : (ws.file p).pending with
  | none => exact .inl ⟨servicePending_of_unasked settings hpd, .inl hpd⟩
  | some pd =>
    cases ho : (ws.file p).outer with
    | some tree =>
      obtain ⟨g, hg, hs, hnone, hpath⟩ := stored_compute settings
        (ws.put p (ws.file p).relieved) (ws.file p).relieved tree pd.offset
      rw [show (ws.file p).relieved.path = p from hk] at hg
      have hstored : Stored p g ws _ :=
        ⟨hg.self, fun q hq => (hg.others q hq).trans (get?_put_of_ne ws _ hq), hg.queue, hg.issued,
          hg.answers, hg.workers⟩
      exact .inr ⟨pd, _, g, _, hpd, servicePending_of_outer settings hpd ho, hstored, hs, hnone,
        hpath.trans hk⟩
    | none =>
      rw [servicePending_of_none settings hpd ho]
      split
      · rename_i hi
        exact .inl ⟨rfl, .inr ⟨ho, hi⟩⟩
      · exact .inr ⟨pd, _, (ws.file p).relieved, _, hpd, rfl, stored_put ws p _, rfl, rfl, hk⟩

theorem servicePending_turn (settings : HintSettings) (hk : (ws.file p).path = p) :
    Turn p ws (servicePending settings ws p) [] (ws.standing p) := by
  obtain ⟨h, -⟩ | ⟨pd, a, f, ws', hpd, h, hs, hst, hf, hp⟩ := servicePending_cases settings hk
  · rw [h]
    exact Turn.refl hk
  · rw [h]
    refine ⟨Effect.of_settle hs hf hpd a, ?_, ?_⟩
    · rw [standing, settle_file, file_eq hs.self, hst]
    · rw [settle_file, file_eq hs.self, hp]

/-- A lookup waits for a file only while the first parse of it is awaited. -/
def Served (ws : Workspace) (p : String) : Prop :=
  ∀ pd, ws.waiting p = some pd →
    (ws.standing p).content.outer = none ∧ (ws.standing p).inFlight = true

theorem servicePending_served (settings : HintSettings) (hk : (ws.file p).path = p) :
    (servicePending settings ws p).Served p := by
  intro pd hpd
  obtain ⟨h, hn | hw⟩ | ⟨pd', a, f, ws', -, h, hs, -, hf, -⟩ := servicePending_cases settings hk
  · rw [h, hn] at hpd
    cases hpd
  · rw [h]
    exact hw
  · rw [h, waiting, settle_file, file_eq hs.self, hf] at hpd
    cases hpd

/-- Handing over a file either queues its text or, if it has none, answers the lookup that waits. -/
theorem dispatch_cases (host : Host) (ws : Workspace) (p : String) (force : Bool) :
    ∃ ws', Stored p ((ws.file p).handed (host.readable p)) ws ws' ∧
      ((host.readable p = true ∧ dispatch host ws p force =
          { ws' with queue := ws.queue ++ host.jobs p force (ws.standing p) }) ∨
        (host.readable p = false ∧ host.jobs p force (ws.standing p) = [] ∧
          dispatch host ws p force = servicePending host.settings.hints ws' p)) := by
  unfold dispatch Host.readable Host.jobs
  dsimp only
  cases host.source.read p with
  | ok text =>
    refine ⟨{ ws.put p ((ws.file p).handed true) with events := _ }, ?_, .inl ⟨rfl, rfl⟩⟩
    exact ⟨Table.get?_insert_self _ p _, fun q hq => get?_put_of_ne _ _ hq, rfl, rfl, rfl, rfl⟩
  | error reason =>
    refine ⟨{ ws.put p ((ws.file p).handed false) with events := _ }, ?_, .inr ⟨rfl, rfl, rfl⟩⟩
    exact ⟨Table.get?_insert_self _ p _, fun q hq => get?_put_of_ne _ _ hq, rfl, rfl, rfl, rfl⟩

theorem dispatch_turn (host : Host) (force : Bool) (hk : (ws.file p).path = p) :
    Turn p ws (dispatch host ws p force) (host.jobs p force (ws.standing p))
      ((ws.standing p).handed (host.readable p)) := by
  obtain ⟨ws', hs, ⟨-, h⟩ | ⟨-, hj, h⟩⟩ := dispatch_cases host ws p force
  · rw [h]
    refine ⟨Effect.of_enqueue hs rfl fun _ => Host.path_of_mem_jobs, ?_, ?_⟩
    · rw [standing, file_queue, file_eq hs.self]
      rfl
    · rw [file_queue, file_eq hs.self]
      exact hk
  · have ht := Turn.of_stored hs rfl hk
    rw [h, hj, show (ws.standing p).handed (host.readable p) = ws'.standing p from ht.standing.symm]
    exact ht.trans (servicePending_turn _ ht.path)

theorem dispatch_waiting (host : Host) (force : Bool) (hk : (ws.file p).path = p) {pd : Pending}
    (hpd : (dispatch host ws p force).waiting p = some pd) :
    host.readable p = true ∧ ws.waiting p = some pd := by
  obtain ⟨ws', hs, ⟨hr, h⟩ | ⟨hr, -, h⟩⟩ := dispatch_cases host ws p force
  · rw [h, waiting, file_queue, file_eq hs.self] at hpd
    exact ⟨hr, hpd⟩
  · have ht := Turn.of_stored hs rfl hk
    rw [h] at hpd
    have hin := (servicePending_served host.settings.hints ht.path pd hpd).2
    rw [(servicePending_turn _ ht.path).standing, ht.standing] at hin
    exact absurd (hr.symm.trans hin) (by simp)

theorem refresh_of_due (host : Host) {force : Bool} (h : (ws.standing p).due force = true) :
    (refresh host ws p force).2 = dispatch host ws p force := by
  obtain ⟨hi, hd⟩ : (ws.file p).inFlight = false ∧
      (force || (ws.file p).outerDirty || (ws.file p).outer.isNone) = true := by
    simpa [Standing.due, standing, FileIndex.standing, FileIndex.content] using h
  unfold refresh
  dsimp only
  rw [if_neg (by simp [hi]), if_neg]
  revert hd
  cases force <;> cases (ws.file p).outerDirty <;> cases (ws.file p).outer <;> simp

theorem refresh_of_not_due (host : Host) {force : Bool} (h : (ws.standing p).due force = false) :
    (refresh host ws p force).2 =
      if (ws.standing p).inFlight && force then
        ws.put p { ws.file p with outerDirty := true, forcePending := true }
      else ws := by
  unfold refresh
  dsimp only
  by_cases hi : (ws.file p).inFlight = true
  · have hs : (ws.standing p).inFlight = true := hi
    rw [if_pos hi, hs, Bool.true_and]
  · have hs : (ws.standing p).inFlight = false := (Bool.not_eq_true _).mp hi
    have hd : (!force && !(ws.file p).outerDirty && (ws.file p).outer.isSome) = true := by
      rw [Standing.due, hs] at h
      simpa [standing, FileIndex.standing, FileIndex.content] using h
    rw [if_neg hi, if_pos hd, hs]
    simp

theorem refresh_turn (host : Host) (force : Bool) (hk : (ws.file p).path = p) :
    Turn p ws (refresh host ws p force).2 (host.requestJobs p force (ws.standing p))
      ((ws.standing p).refreshed force (host.readable p)) := by
  unfold Host.requestJobs Standing.refreshed
  cases h : (ws.standing p).due force with
  | true =>
    rw [refresh_of_due host h]
    exact dispatch_turn host force hk
  | false =>
    rw [refresh_of_not_due host h]
    by_cases hi : ((ws.standing p).inFlight && force) = true
    · simp only [hi, if_true, Bool.false_eq_true, if_false]
      exact Turn.of_stored (stored_put ws p _) rfl hk
    · simp only [hi, Bool.false_eq_true, if_false]
      exact Turn.refl hk

theorem refresh_served (host : Host) (force : Bool) (hk : (ws.file p).path = p)
    (hw : ∀ pd, ws.waiting p = some pd → (ws.standing p).content.outer = none) :
    (refresh host ws p force).2.Served p := by
  intro pd hpd
  rw [(refresh_turn host force hk).standing, Standing.refreshed_content]
  cases h : (ws.standing p).due force with
  | true =>
    rw [refresh_of_due host h] at hpd
    obtain ⟨hr, hpd⟩ := dispatch_waiting host force hk hpd
    refine ⟨hw pd hpd, ?_⟩
    rw [Standing.refreshed, if_pos h]
    exact hr
  | false =>
    have hpd' : ws.waiting p = some pd := by
      rw [refresh_of_not_due host h] at hpd
      split at hpd
      · simpa [waiting] using hpd
      · exact hpd
    have ho := hw pd hpd'
    rw [Standing.refreshed_inFlight h]
    refine ⟨ho, ?_⟩
    -- Without scopes a file for which no answer is awaited is due.
    simpa [Standing.due, ho] using h

theorem markDirty_turn (hk : (ws.file p).path = p) :
    Turn p ws (ws.markDirty p) [] { ws.standing p with outerDirty := true } :=
  Turn.of_stored (stored_put ws p _) rfl hk

theorem markDirty_served (h : ws.Served p) : (ws.markDirty p).Served p := by
  intro pd hpd
  have hf : (ws.markDirty p).file p = { ws.file p with outerDirty := true } := file_put_self ws p _
  rw [waiting, hf] at hpd
  rw [standing, hf]
  exact h pd hpd

/-! ### Directories -/

/-- The JavaScript files that are listed in the directory of a path, and the path itself. -/
def neighbours (host : Host) (p : String) : List String :=
  let listed := match host.source.list (directoryOf p) with
    | .ok listed => listed
    | .error _ => []
  let paths := listed.filter (hasExtension host.settings.parser)
  if paths.contains p then paths else paths ++ [p]

def listing (host : Host) (ws : Workspace) (p : String) : Workspace :=
  match host.source.list (directoryOf p) with
  | .ok _ => ws
  | .error reason => ws.log (.warning "directory_refresh_failed"
      [("directory", .text (directoryOf p)), ("error", .text reason)])

theorem refreshDirectory_eq (host : Host) (ws : Workspace) (p : String) :
    refreshDirectory host ws p = refreshAll host (ws.listing host p) (neighbours host p) := by
  unfold refreshDirectory listing neighbours
  dsimp only
  cases host.source.list (directoryOf p) <;> rfl

theorem listing_files (host : Host) (ws : Workspace) (p : String) :
    (ws.listing host p).files = ws.files := by
  unfold listing
  split <;> rfl

theorem listing_queue (host : Host) (ws : Workspace) (p : String) :
    (ws.listing host p).queue = ws.queue := by
  unfold listing
  split <;> rfl

theorem listing_answers (host : Host) (ws : Workspace) (p : String) :
    (ws.listing host p).answers = ws.answers := by
  unfold listing
  split <;> rfl

end ScopeHints.Workspace
