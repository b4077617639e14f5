import ScopeHints.Proofs.Workspace.LevelKept
import ScopeHints.Proofs.Workspace.Run

/-! No change of a text is lost: in a run without resets and moves, a file that is not marked as
changed and awaits no answer holds what the parser makes of its present text. -/
namespace ScopeHints

inductive Notice where
  | mark
  | change (change : Option TextChange)

/-- What happens in a run without resets and moves. -/
inductive Action where
  /-- A text is set, or deleted, and the index is told at once. -/
  | edit (path : String) (text : Option String) (notice : Notice)
  | refresh (path : String) (force : Bool)
  | refreshDirectory (path : String)
  | lookup (path : String) (offset : Int)
  | deliver (place : Nat)

def Notice.step (path : String) : Notice → Step
  | .mark => .markDirty path
  | .change edit => .change path edit

def Action.steps : Action → List Step
  | .edit path (some text) notice => [.setText path text, notice.step path]
  | .edit path none notice => [.delete path, notice.step path]
  | .refresh path force => [.refresh path force]
  | .refreshDirectory path => [.refreshDirectory path]
  | .lookup path offset => [.lookup path offset]
  | .deliver place => [.deliver place]

namespace World
open Workspace
variable {w : World} {P : Parsing} {p : String} {c : Content}

def newJobs (w : World) (s : Step) : List Job :=
  (w.step s).2.workspace.queue.drop
    (match s with
      | .deliver place => (w.workspace.queue.eraseIdx place).length
      | _ => w.workspace.queue.length)

/-- The content that a path had when it was last handed over in a run, and `c` if it was not. -/
def lastHanded (w : World) (p : String) (c : Content) : List Step → Content
  | [] => c
  | s :: steps =>
    (w.step s).2.lastHanded p
      (notedAt p c ((w.step s).2.workspace.standing p).content (w.newJobs s)) steps

theorem lastHanded_append (steps later : List Step) (w : World) (p : String) (c : Content) :
    w.lastHanded p c (steps ++ later) =
      (w.run steps).2.lastHanded p (w.lastHanded p c steps) later := by
  induction steps generalizing w c with
  | nil => rfl
  | cons s steps ih => exact ih (w.step s).2 _

theorem host_text? (w : World) (p : String) : w.host.text? p = w.texts.get? p := by
  unfold Host.text? host Memory.source
  dsimp only
  cases w.texts.get? p <;> rfl

theorem newJobs_of_queue {s : Step} {new : List Job} (hs : s.runsJobs = false)
    (h : (w.step s).2.workspace.queue = w.workspace.queue ++ new) : w.newJobs s = new := by
  unfold newJobs
  rw [h]
  cases s with
  | deliver => cases hs
  | _ => exact List.drop_left

theorem level_of_asked {ws : Workspace} (s : Step) (hs : s.runsJobs = false)
    (hstep : (w.step s).2 = { w with workspace := ws })
    (h : ∃ new, Asked w.host p w.workspace ws new) (hl : LevelAt w.host P p c w.workspace) :
    LevelAt (w.step s).2.host P p (w.lastHanded p c [s]) (w.step s).2.workspace := by
  obtain ⟨new, hnew⟩ := h
  have hqueue : w.newJobs s = new := newJobs_of_queue hs (by rw [hstep]; exact hnew.queue)
  rw [lastHanded, lastHanded, hqueue, hstep]
  exact hnew.level P c hl

theorem edit_level {q : String} {s : Step} (notice : Notice) (h : Orderly w.workspace)
    (hl : LevelAt w.host P p c w.workspace) {texts : Memory}
    (hstep : (w.step s).2 = { w with texts }) (hs : s.runsJobs = false)
    (htexts : p ≠ q → texts.get? p = w.texts.get? p) :
    LevelAt (w.run [s, notice.step q]).2.host P p (w.lastHanded p c [s, notice.step q])
      (w.run [s, notice.step q]).2.workspace := by
  have hrun : (w.run [s, notice.step q]).2 = (((w.step s).2).step (notice.step q)).2 := rfl
  have hnone : w.newJobs s = [] := newJobs_of_queue hs (by rw [hstep, List.append_nil])
  have hmarked : LevelAt ({ w with texts } : World).host P p c (w.workspace.markDirty q) := by
    refine markDirty_level w.host _ h rfl rfl ?_ hl
    intro hp
    rw [host_text?, host_text?]
    exact htexts hp
  rw [hrun, lastHanded, hnone, hstep]
  cases notice with
  | mark =>
    have hnone' : ({ w with texts } : World).newJobs (.markDirty q) = [] :=
      newJobs_of_queue rfl (List.append_nil _).symm
    rw [Notice.step, lastHanded, lastHanded, hnone']
    exact hmarked
  | change change =>
    obtain ⟨new, hnew⟩ := textChanged_asked ({ w with texts } : World).host h p q change
    have hqueue : ({ w with texts } : World).newJobs (.change q change) = new :=
      newJobs_of_queue rfl hnew.queue
    rw [Notice.step, lastHanded, lastHanded, hqueue]
    exact hnew.level P c hmarked

theorem action_level (h : Orderly w.workspace) (hl : LevelAt w.host P p c w.workspace) (a : Action) :
    LevelAt (w.run a.steps).2.host P p (w.lastHanded p c a.steps) (w.run a.steps).2.workspace := by
  cases a with
  | edit q text notice =>
    cases text with
    | some text =>
      exact edit_level notice h hl rfl rfl fun hp => Table.get?_insert_of_ne _ (Ne.symm hp) text
    | none =>
      refine edit_level notice h hl rfl rfl fun hp => ?_
      rw [Memory.delete, Table.get?_erase, if_neg (Ne.symm hp)]
  | refresh q force => exact level_of_asked (.refresh q force) rfl rfl (refresh_asked w.host h p q force) hl
  | refreshDirectory q => exact level_of_asked (.refreshDirectory q) rfl rfl (refreshDirectory_asked w.host h p q) hl
  | lookup q offset => exact level_of_asked (.lookup q offset) rfl rfl (lookup_asked w.host h p q offset) hl
  | deliver place =>
    obtain ⟨new, hqueue, hlevel⟩ := deliver_level w.host h place hl
    have hnew : w.newJobs (.deliver place) = new := by
      unfold newJobs
      rw [show (w.step (.deliver place)).2.workspace.queue = _ from hqueue]
      exact List.drop_left
    rw [Action.steps, lastHanded, lastHanded, hnew]
    exact hlevel

theorem actions_level (actions : List Action) {w : World} {c : Content} (h : Orderly w.workspace)
    (hl : LevelAt w.host P p c w.workspace) :
    LevelAt (w.run (actions.flatMap Action.steps)).2.host P p
      (w.lastHanded p c (actions.flatMap Action.steps))
      (w.run (actions.flatMap Action.steps)).2.workspace := by
  induction actions generalizing w c with
  | nil => exact hl
  | cons a actions ih =>
    rw [List.flatMap_cons, run_append, lastHanded_append]
    exact ih (run_advance a.steps h).orderly (action_level h hl a)

theorem parse_new (host : Host) {workers : Workers}
    (h : workers ≠ .own false ∨ 0 < host.settings.worker.maxWorkers) :
    parse host { workers } = parseText host.parser := by
  funext text retries
  unfold parse start
  cases workers with
  | lent => rfl
  | own running =>
    cases running with
    | true => rfl
    | false => simp [h.resolve_left (by simp)]

/-- No change is lost. Where workers are lent or can be started, whatever is asked for, and in
whatever order the jobs end, a tracked file that is not marked as changed and awaits no answer holds
the parse of its present text; if the text does not parse at once, it holds the parse with retries or
what it held when it was last handed over. -/
theorem clean_file_holds_text (w : World) (workers : Workers) (actions : List Action) {p : String}
    {f : FileIndex} (hworkers : workers ≠ .own false ∨ 0 < w.settings.worker.maxWorkers)
    (hf : ((w.fresh workers).run (actions.flatMap Action.steps)).2.workspace.files.get? p = some f)
    (hd : f.outerDirty = false) (hi : f.inFlight = false) :
    let texts := ((w.fresh workers).run (actions.flatMap Action.steps)).2.texts
    let before := (w.fresh workers).lastHanded p ((w.fresh workers).workspace.standing p).content
      (actions.flatMap Action.steps)
    texts.get? p = none ∨ ∃ text, texts.get? p = some text ∧
      (∀ parsed, parseText w.parser text 0 = .ok parsed → f.content = parsed.contentAt p) ∧
      ∀ e, parseText w.parser text 0 = .error e →
        (∃ parsed, parseText w.parser text w.settings.parser.maxRetries = .ok parsed ∧
          f.content = parsed.contentAt p) ∨ f.content = before := by
  intro texts before
  have hl := actions_level actions (orderly_new workers)
    (level_new (w.fresh workers).host workers p ((w.fresh workers).workspace.standing p).content)
  have hst : ((w.fresh workers).run (actions.flatMap Action.steps)).2.workspace.standing p =
      f.standing := congrArg FileIndex.standing (file_eq hf)
  have hsettings : ((w.fresh workers).run (actions.flatMap Action.steps)).2.host.settings =
      w.settings := (run_fixed _ _).1
  have hagrees := (hl.level.idle (by rw [hst]; exact hi)).2 (by rw [hst]; exact hd)
  have hparse : parse (w.fresh workers).host { workers } = parseText w.parser :=
    parse_new w.host hworkers
  rw [hst, host_text?, hsettings, hparse] at hagrees
  exact hagrees

theorem clean_file_holds_text_emptyOnly :
    ∃ f parsed, ((emptyOnly.fresh .lent).run
        [.refresh "a.js" false, .deliver 0]).2.workspace.files.get? "a.js" = some f ∧
      parseText emptyOnly.parser "" 0 = .ok parsed ∧ f.content = parsed.contentAt "a.js" := by
  obtain ⟨f, hf⟩ : ∃ f, ((emptyOnly.fresh .lent).run
      [.refresh "a.js" false, .deliver 0]).2.workspace.files.get? "a.js" = some f :=
    Option.isSome_iff_exists.1 (by decide +kernel)
  obtain ⟨parsed, hp⟩ : ∃ parsed, parseText emptyOnly.parser "" 0 = .ok parsed :=
    exists_eq_ok (by decide +kernel)
  have hclean : f.outerDirty = false ∧ f.inFlight = false := by
    have h : (((emptyOnly.fresh .lent).run
        [.refresh "a.js" false, .deliver 0]).2.workspace.files.get? "a.js").all
          (fun f => !f.outerDirty && !f.inFlight) = true := by decide +kernel
    rw [hf] at h
    simpa using h
  have htext := clean_file_holds_text emptyOnly .lent [.refresh "a.js" false, .deliver 0]
    (.inl (by simp)) hf hclean.1 hclean.2
  obtain ⟨text, ht, hok, -⟩ := htext.resolve_left (by decide)
  obtain rfl : "" = text := Option.some.inj (Eq.trans (by decide) ht)
  exact ⟨f, parsed, hf, hp, hok parsed hp⟩

/-- Where no workers can start, the file ends clean and empty-handed, though its text parses. -/
theorem clean_file_unstarted :
    let w : World := { emptyOnly with settings := { worker := { maxWorkers := 0 } } }
    let now := ((w.fresh (.own false)).run
      ([Action.refresh "a.js" false, .deliver 0].flatMap Action.steps)).2
    ∃ f parsed, now.workspace.files.get? "a.js" = some f ∧ f.outerDirty = false ∧
      f.inFlight = false ∧ now.texts.get? "a.js" = some "" ∧
      parseText w.parser "" 0 = .ok parsed ∧ f.content ≠ parsed.contentAt "a.js" := by
  intro w now
  obtain ⟨parsed, hparse⟩ : ∃ parsed, parseText w.parser "" 0 = .ok parsed :=
    exists_eq_ok (by decide +kernel)
  have hnow : (now.workspace.files.get? "a.js").any
      (fun f => !f.outerDirty && !f.inFlight && f.outer.isNone) = true := by decide +kernel
  obtain ⟨f, hf, hstate⟩ := (Option.any_eq_true _ _).1 hnow
  simp only [Bool.and_eq_true, Bool.not_eq_true', Option.isNone_iff_eq_none] at hstate
  obtain ⟨⟨hdirty, hflight⟩, houter⟩ := hstate
  refine ⟨f, parsed, hf, hdirty, hflight, by decide, hparse, ?_⟩
  intro hcontent
  cases houter.symm.trans (congrArg Content.outer hcontent)

end World

end ScopeHints
