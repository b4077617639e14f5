import ScopeHints.Proofs.Workspace.Answer

/-! The table of files after an operation on one file. No other entry of it is written, and no
entry changes its place, so that the files can be counted and listed in order. -/
namespace ScopeHints.Workspace
variable {ws ws' ws'' : Workspace} {p q : String}

def Rewritten (p : String) (ws ws' : Workspace) : Prop :=
  ws'.files = ws.files ∨ ws'.files = ws.files.insert p (ws'.file p)

theorem rewritten_of_insert {f : FileIndex} (h : ws'.files = ws.files.insert p f) :
    Rewritten p ws ws' := by
  have hfile : ws'.file p = f := file_eq (by rw [h, Table.get?_insert_self])
  exact .inr (by rw [hfile, h])

theorem Rewritten.trans (h : Rewritten p ws ws') (h' : Rewritten p ws' ws'') :
    Rewritten p ws ws'' := by
  obtain hf' | hf' := h'
  · have hfile : ws''.file p = ws'.file p := file_congr (by rw [hf'])
    unfold Rewritten
    rw [hfile, hf']
    exact h
  · obtain hf | hf := h
    · exact .inr (hf ▸ hf')
    · refine .inr (hf'.trans ?_)
      rw [hf, Table.insert_insert]

theorem rewritten_put (ws : Workspace) (p : String) (f : FileIndex) : Rewritten p ws (ws.put p f) :=
  rewritten_of_insert rfl

theorem compute_rewritten (settings : HintSettings) (ws : Workspace) {f : FileIndex}
    (hk : f.path = p) (tree : ScopeTree) (offset : Int) :
    Rewritten p ws (compute settings ws f tree offset).2 := by
  subst hk
  exact rewritten_of_insert rfl

theorem servicePending_rewritten (settings : HintSettings) (hk : (ws.file p).path = p) :
    Rewritten p ws (servicePending settings ws p) := by
  have hput := rewritten_put ws p (ws.file p).relieved
  cases hpd : (ws.file p).pending with
  | none =>
    rw [servicePending_of_unasked settings hpd]
    exact .inl rfl
  | some pd =>
    cases ho : (ws.file p).outer with
    | some tree =>
      rw [servicePending_of_outer settings hpd ho]
      have hkept := compute_rewritten settings (ws.put p (ws.file p).relieved)
        (show (ws.file p).relieved.path = p from hk) tree pd.offset
      exact (hput.trans hkept).trans (.inl (settle_files _ _ _))
    | none =>
      rw [servicePending_of_none settings hpd ho]
      split
      · exact .inl rfl
      · exact hput.trans (.inl (settle_files _ _ _))

theorem dispatch_rewritten (host : Host) (force : Bool) (hk : (ws.file p).path = p) :
    Rewritten p ws (dispatch host ws p force) := by
  unfold dispatch
  dsimp only
  cases host.source.read p with
  | ok text => exact rewritten_of_insert rfl
  | error reason =>
    refine Rewritten.trans (rewritten_of_insert rfl) (servicePending_rewritten _ ?_)
    rw [file_put_self]
    exact hk

theorem receive_rewritten (host : Host) (outcome : Except Fault ParsedFile)
    (hi : (ws.standing p).inFlight = true) (hk : (ws.file p).path = p) :
    Rewritten p ws (receive host ws p outcome) := by
  obtain ⟨e, hr⟩ := receive_eq host outcome hi
  have hput : Rewritten p ws ((ws.put p ((ws.file p).taking outcome)).log e) :=
    rewritten_of_insert rfl
  have hpath : (((ws.put p ((ws.file p).taking outcome)).log e).file p).path = p := by
    rw [file_log, file_put_self, FileIndex.taking_path, hk]
  rw [hr]
  split
  · have hdispatch := dispatch_rewritten host false hpath
    exact (hput.trans hdispatch).trans
      (servicePending_rewritten _ (dispatch_turn host false hpath).path)
  · exact hput.trans (servicePending_rewritten _ hpath)

/-- A job writes at most its own file, and this only if the file is tracked and awaits the answer. -/
theorem deliver_rewritten (host : Host) {i : Nat} {job : Job} (hj : ws.queue[i]? = some job)
    (hk : (ws.file job.path).path = job.path) : Rewritten job.path ws (deliver host ws i).2 := by
  obtain ⟨ws₀, outcome, hpop, hd, -⟩ := deliver_eq_receive host hj
  have hfirst : Rewritten job.path ws ws₀ := .inl hpop.files
  rw [hd]
  cases hi : (ws₀.standing job.path).inFlight with
  | false =>
    obtain ⟨e, he⟩ := receive_expired host outcome hi
    rw [he]
    exact .inl hpop.files
  | true => exact hfirst.trans (receive_rewritten host outcome hi (by rw [hpop.file, hk]))

/-! ### What is read off the table -/

theorem Rewritten.keys (h : Rewritten p ws ws') (ht : ws.files.contains p = true) :
    ws'.files.keys = ws.files.keys := by
  obtain hf | hf := h
  · rw [hf]
  · rw [hf, Table.keys_insert, if_pos (Table.mem_keys_iff.2 ht)]

theorem Rewritten.dirtyCount (h : Rewritten p ws ws') {f : FileIndex}
    (hf : ws.files.get? p = some f) :
    ws'.dirtyCount + (ws.standing p).outerDirty.toNat =
      ws.dirtyCount + (ws'.standing p).outerDirty.toNat := by
  have hfile : ws.file p = f := file_eq hf
  obtain he | he := h
  · have hst : ws'.standing p = ws.standing p := congrArg FileIndex.standing (file_congr (by rw [he]))
    rw [Workspace.dirtyCount, Workspace.dirtyCount, he, hst]
  · have hcount := Table.countP_insertIn (fun g : FileIndex => g.outerDirty) (a := ws'.file p) hf
    rw [Workspace.dirtyCount, Workspace.dirtyCount, he, standing, standing, hfile]
    exact hcount

end ScopeHints.Workspace
