import ScopeHints.Proofs.Workspace.Memo
import ScopeHints.Proofs.Workspace.Shelf

/-! What an operation on one file does to the lookup that the file keeps and to the answers. Most
operations leave the content of the file and what it keeps; a lookup that is made keeps what it
found. -/
namespace ScopeHints.Workspace
variable {ws ws' ws'' : Workspace} {q : String} {settings : HintSettings}

def Informs (P : ScopeInfo → Prop) (ws ws' : Workspace) : Prop :=
  ∀ t info, ws'.answers.get? t = some (.info info) → ws.answers.get? t = some (.info info) ∨ P info

theorem informs_of_eq {P : ScopeInfo → Prop} (h : ws'.answers = ws.answers) : Informs P ws ws' :=
  fun _ _ hi => .inl (h ▸ hi)

theorem Informs.trans {P : ScopeInfo → Prop} (h : Informs P ws ws') (h' : Informs P ws' ws'') :
    Informs P ws ws'' :=
  fun t info hi => (h' t info hi).elim (h t info) .inr

theorem Informs.mono {P Q : ScopeInfo → Prop} (h : Informs P ws ws') (hPQ : ∀ info, P info → Q info) :
    Informs Q ws ws' :=
  fun t info hi => (h t info hi).imp_right (hPQ info)

theorem settle_informs (ws : Workspace) (ticket : Nat) (a : Answer) :
    Informs (fun info => a = .info info) ws (ws.settle ticket a) := by
  intro t info hi
  unfold settle at hi
  split at hi
  · exact .inl hi
  · rw [Table.get?_insert] at hi
    split at hi
    · exact .inr (Option.some.inj hi)
    · exact .inl hi

theorem reject_files (ws : Workspace) (path : String) (pending : Option Pending)
    (reason : Option String) : (ws.reject path pending reason).files = ws.files := by
  unfold reject
  split
  · rfl
  · split
    · rfl
    · exact settle_files _ _ _

theorem reject_informs {P : ScopeInfo → Prop} (ws : Workspace) (path : String)
    (pending : Option Pending) (reason : Option String) :
    Informs P ws (ws.reject path pending reason) := by
  unfold reject
  split
  · exact informs_of_eq rfl
  · split
    · exact informs_of_eq rfl
    · refine (settle_informs ws _ _).mono ?_
      intro info h
      cases h

/-! ### Operations that make no lookup -/

structure Touch (settings : HintSettings) (q : String) (ws ws' : Workspace) : Prop where
  files : ws'.files = ws.files ∨ ws'.files = ws.files.insert q (ws'.file q)
  path : (ws'.file q).path = q
  content : (ws'.file q).content = (ws.file q).content
  memo : (ws'.file q).memo = (ws.file q).memo
  answerable : (ws.file q).answerable = false → (ws'.file q).answerable = false
  answers : Informs (· = degradedInfo settings) ws ws'

theorem Touch.refl (hk : (ws.file q).path = q) : Touch settings q ws ws :=
  ⟨.inl rfl, hk, rfl, rfl, id, informs_of_eq rfl⟩

theorem Touch.trans (h : Touch settings q ws ws') (h' : Touch settings q ws' ws'') :
    Touch settings q ws ws'' :=
  ⟨Rewritten.trans h.files h'.files, h'.path, h'.content.trans h.content, h'.memo.trans h.memo,
    fun ha => h'.answerable (h.answerable ha), h.answers.trans h'.answers⟩

theorem touch_of_files (hk : (ws.file q).path = q) (hfiles : ws'.files = ws.files)
    (hanswers : Informs (fun _ => False) ws ws') : Touch settings q ws ws' := by
  have hfile : ws'.file q = ws.file q := file_congr (by rw [hfiles])
  exact ⟨.inl hfiles, by rw [hfile, hk], by rw [hfile], by rw [hfile], by rw [hfile]; exact id,
    hanswers.mono fun _ h => h.elim⟩

theorem touch_put {g : FileIndex} (hfiles : ws'.files = ws.files.insert q g)
    (hanswers : Informs (fun _ => False) ws ws') (hpath : g.path = q)
    (hcontent : g.content = (ws.file q).content) (hmemo : g.memo = (ws.file q).memo)
    (hpending : (ws.file q).answerable = false → g.answerable = false) :
    Touch settings q ws ws' := by
  have hfile : ws'.file q = g := file_eq (by rw [hfiles, Table.get?_insert_self])
  exact ⟨.inr (by rw [hfile, hfiles]), by rw [hfile, hpath], by rw [hfile, hcontent],
    by rw [hfile, hmemo], by rw [hfile]; exact hpending, hanswers.mono fun _ h => h.elim⟩

theorem Touch.settle_degraded (h : Touch settings q ws ws') (ticket : Nat) :
    Touch settings q ws (ws'.settle ticket (.info (degradedInfo settings))) := by
  have hfile := settle_file ws' ticket (.info (degradedInfo settings)) q
  have hnew := (settle_informs ws' ticket (.info (degradedInfo settings))).mono
    fun info hi => (Answer.info.inj hi).symm
  refine ⟨?_, by rw [hfile, h.path], by rw [hfile, h.content], by rw [hfile, h.memo],
    by rw [hfile]; exact h.answerable, h.answers.trans hnew⟩
  rw [settle_files, hfile]
  exact h.files

theorem relieved_touch (settings : HintSettings) (hk : (ws.file q).path = q) :
    Touch settings q ws (ws.put q (ws.file q).relieved) :=
  touch_put rfl (informs_of_eq rfl) hk rfl rfl fun _ => rfl

/-- A file that no lookup waits for, or that has no scopes yet, makes no lookup. -/
theorem servicePending_touch (settings : HintSettings) (hk : (ws.file q).path = q)
    (ha : (ws.file q).answerable = false) : Touch settings q ws (servicePending settings ws q) := by
  have hput := relieved_touch settings hk
  unfold servicePending
  dsimp only
  split
  · exact Touch.refl hk
  · rename_i pd hpd
    split
    · rename_i tree ho
      rw [FileIndex.answerable, hpd, ho] at ha
      cases ha
    · split
      · exact Touch.refl hk
      · exact hput.settle_degraded pd.ticket

theorem dispatch_touch (host : Host) (force : Bool) (hk : (ws.file q).path = q)
    (ha : (ws.file q).answerable = false) :
    Touch host.settings.hints q ws (dispatch host ws q force) := by
  unfold dispatch
  dsimp only
  cases host.source.read q with
  | ok text => exact touch_put rfl (informs_of_eq rfl) hk rfl rfl id
  | error reason =>
    have hput : Touch host.settings.hints q ws ((ws.log (.warning "read_failed"
        [("path", .text q), ("error", .text reason)])).put q ((ws.file q).handed false)) :=
      touch_put rfl (informs_of_eq rfl) hk rfl rfl id
    exact hput.trans (servicePending_touch _ hput.path (hput.answerable ha))

theorem refresh_touch (host : Host) (force : Bool) (hk : (ws.file q).path = q)
    (ha : (ws.file q).answerable = false) :
    Touch host.settings.hints q ws (refresh host ws q force).2 := by
  unfold refresh
  dsimp only
  split
  · split
    · exact touch_put rfl (informs_of_eq rfl) hk rfl rfl id
    · exact Touch.refl hk
  · split
    · exact Touch.refl hk
    · exact dispatch_touch host force hk ha

theorem markDirty_touch (hk : (ws.file q).path = q) : Touch settings q ws (ws.markDirty q) :=
  touch_put rfl (informs_of_eq rfl) hk rfl rfl id

theorem track_touch (hk : (ws.file q).path = q) : Touch settings q ws (ws.track q) :=
  touch_put rfl (informs_of_eq rfl) hk rfl rfl id

/-! ### Operations that make a lookup -/

def keeping (f : FileIndex) (info : ScopeInfo) : FileIndex :=
  { f with innerScope := info.scope, innerInfo := some info, innerDirty := false }

structure Looks (settings : HintSettings) (q : String) (tree : ScopeTree) (offset : Int)
    (ws ws' : Workspace) : Prop where
  outer : (ws.file q).outer = some tree
  path : (ws.file q).path = q
  files : ws'.files = ws.files.insert q
    (keeping (ws.file q) (infoFrom settings (ws.around q) (ws.file q) tree offset))
  answers : Informs (· = infoFrom settings (ws.around q) (ws.file q) tree offset) ws ws'

section Looks
variable {tree : ScopeTree} {offset : Int}

theorem Looks.file_self (h : Looks settings q tree offset ws ws') :
    ws'.file q = keeping (ws.file q) (infoFrom settings (ws.around q) (ws.file q) tree offset) :=
  file_eq (by rw [h.files, Table.get?_insert_self])

theorem Looks.around_self (h : Looks settings q tree offset ws ws') : ws'.around q = ws.around q :=
  around_insert_self h.files

theorem Looks.memo (h : Looks settings q tree offset ws ws') :
    Memo settings (ws'.around q) (ws'.file q) := by
  rw [h.file_self, h.around_self]
  intro _
  exact ⟨tree, offset, h.outer, congrArg some (infoFrom_congr settings _ rfl tree offset), rfl⟩

theorem compute_fst (settings : HintSettings) (hk : (ws.file q).path = q) (tree : ScopeTree)
    (offset : Int) : (compute settings ws (ws.file q) tree offset).1 =
      infoFrom settings (ws.around q) (ws.file q) tree offset := by
  change lookupIn settings ws (ws.file q) tree offset = _
  rw [lookupIn_eq, hk]

theorem compute_files (settings : HintSettings) (hk : (ws.file q).path = q) (tree : ScopeTree)
    (offset : Int) : (compute settings ws (ws.file q) tree offset).2.files = ws.files.insert q
      (keeping (ws.file q) (infoFrom settings (ws.around q) (ws.file q) tree offset)) := by
  rw [← compute_fst settings hk]
  change ws.files.insert (ws.file q).path (keeping _ _) = _
  rw [hk]
  rfl

theorem compute_looks (settings : HintSettings) (offset : Int) (hk : (ws.file q).path = q)
    (ho : (ws.file q).outer = some tree) :
    Looks settings q tree offset ws (compute settings ws (ws.file q) tree offset).2 :=
  ⟨ho, hk, compute_files settings hk tree offset, informs_of_eq rfl⟩

theorem servicePending_looks (settings : HintSettings) {pd : Pending} (hk : (ws.file q).path = q)
    (hpd : (ws.file q).pending = some pd) (ho : (ws.file q).outer = some tree) :
    ∃ ws₁, Touch settings q ws ws₁ ∧ (ws₁.file q).pending = none ∧
      Looks settings q tree pd.offset ws₁ (servicePending settings ws q) := by
  have hput := relieved_touch settings hk
  have hfile : (ws.put q (ws.file q).relieved).file q = (ws.file q).relieved := file_put_self ws q _
  refine ⟨ws.put q (ws.file q).relieved, hput, by rw [hfile]; rfl, ?_⟩
  have hservice : servicePending settings ws q =
      (compute settings (ws.put q (ws.file q).relieved) ((ws.put q (ws.file q).relieved).file q) tree
        pd.offset).2.settle pd.ticket (.info (compute settings (ws.put q (ws.file q).relieved)
          ((ws.put q (ws.file q).relieved).file q) tree pd.offset).1) := by
    rw [hfile]
    exact servicePending_of_outer settings hpd ho
  rw [hservice]
  generalize ws.put q (ws.file q).relieved = ws₁ at hput hfile ⊢
  have ho₁ : (ws₁.file q).outer = some tree := by
    rw [hfile]
    exact ho
  refine ⟨ho₁, hput.path, ?_, ?_⟩
  · rw [settle_files]
    exact compute_files settings hput.path tree pd.offset
  · refine Informs.trans (informs_of_eq rfl) ((settle_informs _ _ _).mono ?_)
    intro info hi
    rw [← Answer.info.inj hi]
    exact compute_fst settings hput.path tree pd.offset

end Looks

/-! ### Lookups -/

def opened (host : Host) (ws : Workspace) (p : String) : Workspace :=
  if ((ws.track p).file p).outerDirty && ((ws.track p).file p).outer.isSome then
    (refresh host (ws.track p) p false).2
  else ws.track p

theorem opened_touch (host : Host) (hk : (ws.file q).path = q)
    (ha : (ws.file q).answerable = false) :
    Touch host.settings.hints q ws (opened host ws q) := by
  have htrack : Touch host.settings.hints q ws (ws.track q) := track_touch hk
  unfold opened
  split
  · exact htrack.trans (refresh_touch host false htrack.path (htrack.answerable ha))
  · exact htrack

def asked (ws : Workspace) (p : String) (offset : Int) : Workspace :=
  let ws₁ := ws.reject p (ws.file p).pending none
  ({ ws₁ with issued := ws₁.issued + 1 }.put p
      { ws.file p with pending := some { offset, ticket := ws₁.issued } }).log
    (.debug "inner_scope_pending" [("path", .text p), ("offset", .int offset)])

/-- A lookup is answered from what is kept, or else by what is found now, or it has to wait. -/
theorem lookup_answer (host : Host) (ws : Workspace) (p : String) (offset : Int) :
    (∃ info, ((opened host ws p).file p).kept? offset = some info ∧
      lookup host ws p offset = (.info info, opened host ws p)) ∨
    (∃ tree, ((opened host ws p).file p).outer = some tree ∧ lookup host ws p offset =
      (.info (compute host.settings.hints (opened host ws p) ((opened host ws p).file p) tree offset).1,
        (compute host.settings.hints (opened host ws p) ((opened host ws p).file p) tree offset).2)) ∨
    ((opened host ws p).file p).outer = none ∧ ∃ ticket, lookup host ws p offset = (.pending ticket,
      servicePending host.settings.hints
        (refresh host ((opened host ws p).asked p offset) p false).2 p) := by
  unfold lookup
  dsimp only
  split
  · rename_i info hinfo
    exact .inl ⟨info, hinfo, rfl⟩
  · split
    · rename_i tree ho
      exact .inr (.inl ⟨tree, ho, rfl⟩)
    · rename_i ho
      exact .inr (.inr ⟨ho, _, rfl⟩)

theorem asked_touch (offset : Int) (hk : (ws.file q).path = q) (ho : (ws.file q).outer = none) :
    Touch settings q ws (ws.asked q offset) := by
  have hfiles := reject_files ws q (ws.file q).pending none
  refine touch_put (congrArg (fun files => Table.insert files q _) hfiles) ?_ hk rfl rfl ?_
  · exact reject_informs ws q _ none
  · intro _
    simp [FileIndex.answerable, ho]

theorem waiting_touch (host : Host) (offset : Int) (hk : (ws.file q).path = q)
    (ho : (ws.file q).outer = none) :
    Touch host.settings.hints q ws (servicePending host.settings.hints
      (refresh host (ws.asked q offset) q false).2 q) := by
  have hopen : (ws.file q).answerable = false := by simp [FileIndex.answerable, ho]
  have hask : Touch host.settings.hints q ws (ws.asked q offset) := asked_touch offset hk ho
  have hrefresh := refresh_touch host false hask.path (hask.answerable hopen)
  exact (hask.trans hrefresh).trans (servicePending_touch _ hrefresh.path
    (hrefresh.answerable (hask.answerable hopen)))

end ScopeHints.Workspace
