import ScopeHints.Proofs.Workspace.Candidates

/-! A lookup that is answered from what a file keeps tells what a new lookup would tell. What other
files add to it is out of date only if an event in the directory came after the lookup was made. -/
namespace ScopeHints

namespace Workspace
variable {ws ws' : Workspace} {p q : String} {parser : Parser} {settings : HintSettings}
  {events : List FileEvent}

/-! ### What events leave -/

theorem Touch.file_same (h : Touch settings q ws ws') (p : String) :
    (ws'.file p).content = (ws.file p).content ∧ (ws'.file p).memo = (ws.file p).memo := by
  by_cases hp : q = p
  · subst hp
    exact ⟨h.content, h.memo⟩
  · have hfile : ws'.file p = ws.file p := by
      obtain hf | hf := h.files
      · exact file_congr (by rw [hf])
      · rw [file_of_insert hf, if_neg hp]
    rw [hfile]
    exact ⟨rfl, rfl⟩

theorem Touch.around_same (h : Touch settings q ws ws') (hk : (ws.file q).path = q) (p : String) :
    ws'.around p = ws.around p := by
  obtain hf | hf := h.files
  · exact around_congr hf p
  · exact around_insert_same hf h.content (h.path.trans hk.symm) p

/-- An event leaves the lookup that a file keeps, or drops it, or is a new lookup in the file. -/
theorem Change.file_cases {e : FileEvent} (h : Change parser settings ws ws' e) (p : String) :
    ((ws'.file p).content = (ws.file p).content ∧ (ws'.file p).memo = (ws.file p).memo) ∨
      (ws'.file p).innerDirty = true ∨
      e = .look p ∧ Memo settings (ws'.around p) (ws'.file p) := by
  cases h with
  | @look q tree offset h =>
    by_cases hp : q = p
    · subst hp
      exact .inr (.inr ⟨rfl, h.memo⟩)
    · rw [file_of_insert h.files, if_neg hp]
      exact .inl ⟨rfl, rfl⟩
  | @install q text retries parsed hparse hpath hfiles hi =>
    rw [file_of_insert hfiles]
    split
    · exact .inr (.inl rfl)
    · exact .inl ⟨rfl, rfl⟩
  | @move old new f hf hfiles hi =>
    rw [file_of_move hfiles]
    split
    · refine .inr (.inl ?_)
      unfold FileIndex.movedTo
      split <;> rfl
    · split
      · exact .inr (.inl rfl)
      · exact .inl ⟨rfl, rfl⟩
  | forget hfiles hi =>
    refine .inr (.inl ?_)
    rw [file, hfiles]
    rfl

/-- An event elsewhere leaves what other files add to the lookups in a file, unless the file itself
goes. -/
theorem Change.around_same {e : FileEvent} (h : Change parser settings ws ws' e)
    (hshelved : ∀ e ∈ ws.files.entries, e.2.path = e.1) (hharm : ¬ e.Harms p) :
    ws'.around p = ws.around p ∨ (ws'.file p).innerDirty = true := by
  have hk := keyed_of_shelved hshelved
  cases h with
  | look h => exact .inl (around_insert_same h.files rfl rfl p)
  | @install q text retries parsed hparse hpath hfiles hi =>
    by_cases hp : q = p
    · refine .inr ?_
      rw [file_of_insert hfiles, if_pos hp]
      rfl
    · have hdir : directoryOf q ≠ directoryOf p := fun hd => hharm ⟨hp, hd⟩
      have hhere : (ws.file q).directory ≠ directoryOf p := by
        rw [FileIndex.directory, hpath]
        exact hdir
      exact .inl (around_insert_apart hfiles hhere hhere)
  | @move old new f hf hfiles hi =>
    by_cases hnew : new = p
    · refine .inr ?_
      rw [file_of_move hfiles, if_pos hnew]
      unfold FileIndex.movedTo
      split <;> rfl
    · by_cases hold : old = p
      · refine .inr ?_
        rw [file_of_move hfiles, if_neg hnew, if_pos hold]
      · have hdirs : directoryOf old ≠ directoryOf p ∧ directoryOf new ≠ directoryOf p :=
          ⟨fun hd => hharm ⟨hold, hnew, .inl hd⟩, fun hd => hharm ⟨hold, hnew, .inr hd⟩⟩
        refine .inl (around_move hfiles hshelved ?_ hdirs.1 hdirs.2)
        rw [FileIndex.directory, FileIndex.movedTo_path]
        exact hdirs.2
  | forget hfiles hi =>
    refine .inr ?_
    rw [file, hfiles]
    rfl

/-! ### What a history leaves -/

theorem Changes.memo (h : Changes parser settings ws events ws')
    (hm : ∃ shares, Memo settings shares (ws.file p)) :
    ∃ shares, Memo settings shares (ws'.file p) := by
  refine h.keeps (I := fun ws => ∃ shares, Memo settings shares (ws.file p)) ?_ ?_ hm
  · rintro ws ws' q ht ⟨shares, hm⟩
    obtain ⟨hcontent, hmemo⟩ := ht.file_same p
    exact ⟨shares, hm.congr hcontent hmemo⟩
  · rintro ws ws' e - he ⟨shares, hm⟩
    obtain ⟨hcontent, hmemo⟩ | hdirty | ⟨-, hm⟩ := he.file_cases p
    · exact ⟨shares, hm.congr hcontent hmemo⟩
    · exact ⟨shares, memo_of_dirty shares hdirty⟩
    · exact ⟨_, hm⟩

theorem Changes.dirty (h : Changes parser settings ws events ws') (hlook : .look p ∉ events)
    (hd : (ws.file p).innerDirty = true) : (ws'.file p).innerDirty = true := by
  refine h.keeps (I := fun ws => (ws.file p).innerDirty = true) ?_ ?_ hd
  · intro ws ws' q ht hd
    exact (congrArg Prod.fst (ht.file_same p).2).trans hd
  · intro ws ws' e hmem he hd
    obtain ⟨-, hmemo⟩ | hdirty | ⟨rfl, -⟩ := he.file_cases p
    · exact (congrArg Prod.fst hmemo).trans hd
    · exact hdirty
    · exact absurd hmem hlook

/-- Without events in the directory a kept lookup is made with what other files add now. -/
theorem Changes.memo_around (h : Changes parser settings ws events ws')
    (hharm : ∀ e ∈ events, ¬ e.Harms p) (ht : Truthful parser settings ws)
    (hm : Memo settings (ws.around p) (ws.file p)) :
    Memo settings (ws'.around p) (ws'.file p) := by
  refine And.right (h.keeps (I := fun ws => Truthful parser settings ws ∧
    Memo settings (ws.around p) (ws.file p)) ?_ ?_ ⟨ht, hm⟩)
  · rintro ws ws' q htouch ⟨ht, hm⟩
    obtain ⟨hcontent, hmemo⟩ := htouch.file_same p
    rw [htouch.around_same (keyed_of_shelved ht.shelved q) p]
    exact ⟨htouch.truthful ht, hm.congr hcontent hmemo⟩
  · rintro ws ws' e hmem he ⟨ht, hm⟩
    refine ⟨he.truthful ht, ?_⟩
    obtain ⟨hcontent, hmemo⟩ | hdirty | ⟨-, hm⟩ := he.file_cases p
    · obtain haround | hdirty := he.around_same ht.shelved (hharm e hmem)
      · rw [haround]
        exact hm.congr hcontent hmemo
      · exact memo_of_dirty _ hdirty
    · exact memo_of_dirty _ hdirty
    · exact hm

/-- After the last lookup in a file nothing but events in the directory puts it out of date. -/
theorem Changes.memo_since {before since : List FileEvent}
    (h : Changes parser settings ws (before ++ .look p :: since) ws')
    (hharm : ∀ e ∈ since, ¬ e.Harms p) (ht : Truthful parser settings ws) :
    Memo settings (ws'.around p) (ws'.file p) := by
  obtain ⟨ws₁, ws₂, hbefore, hmade, hsince⟩ := h.part
  refine hsince.memo_around hharm (hmade.truthful (hbefore.truthful ht)) ?_
  cases hmade with
  | look h => exact h.memo

theorem Truthful.wired {tree : ScopeTree} (ht : Truthful parser settings ws)
    (ho : (ws.file p).outer = some tree) : tree.Wired := by
  obtain ⟨text, retries, parsed, hparse, -, rfl⟩ := Sourced.exists_tree (ht.sourced p) ho
  obtain ⟨root, -, hbuilt, -⟩ := parseText_ok hparse
  exact (buildScopes_building hbuilt).1

theorem get?_of_outer {tree : ScopeTree} (ho : (ws.file p).outer = some tree) :
    ws.files.get? p = some (ws.file p) := by
  cases hf : ws.files.get? p with
  | some f => rw [file_eq hf]
  | none =>
    rw [file, hf] at ho
    cases ho

/-- A lookup that is answered from what is kept finds the scope of its own offset: a scope that holds
the offset and none of whose children does is the innermost one. -/
theorem kept?_eq {f : FileIndex} {tree : ScopeTree} {offset : Int} {info : ScopeInfo}
    {shares : Shares} (hw : tree.Wired) (hn : tree.Nested) (ho : f.outer = some tree)
    (hm : Memo settings shares f) (hkept : f.kept? offset = some info) :
    info = { infoFrom settings shares f tree offset with fresh := false } := by
  unfold FileIndex.kept? at hkept
  split at hkept
  · rename_i kept scope hinfo hscope
    split at hkept
    · rename_i hcond
      obtain ⟨hclean, hholds⟩ := Bool.and_eq_true_iff.1 hcond
      obtain ⟨tree', made, ho', hinfo', hscope'⟩ := hm (by simpa using hclean)
      obtain rfl := Option.some.inj (ho.symm.trans ho')
      obtain rfl := Option.some.inj (hinfo.symm.trans hinfo')
      obtain rfl := Option.some.inj (hscope.symm.trans hscope')
      obtain ⟨htree, hindex⟩ := ScopeTree.scopeAt_lt hw made
      obtain ⟨hin, hnone⟩ := Bool.and_eq_true_iff.1 hholds
      have hat : scopeAt tree offset = scopeAt tree made := by
        generalize scopeAt tree made = scope at htree hindex hin hnone
        obtain ⟨t, i⟩ := scope
        obtain rfl : t = tree := htree
        have hpos : offset ∈ t.rangeOf i := by
          rw [← ScopeTree.range_eq_rangeOf]
          exact of_decide_eq_true hin
        rw [scopeAt, ScopeTree.innermost?_eq hw hn hindex hpos (Option.isNone_iff_eq_none.1 hnone)]
        rfl
      rw [← Option.some.inj hkept, infoFrom, infoFrom, hat]
    · cases hkept
  · cases hkept

theorem kept?_congr {f g : FileIndex} (h : g.memo = f.memo) (offset : Int) :
    g.kept? offset = f.kept? offset := by
  obtain ⟨hdirty, hrest⟩ := Prod.mk.inj h
  obtain ⟨hinfo, hscope⟩ := Prod.mk.inj hrest
  rw [FileIndex.kept?, hdirty, hinfo, hscope]
  rfl

theorem lookup_kept {host : Host} {offset : Int} {info : ScopeInfo} (h : Orderly ws)
    (hlookup : lookup host ws p offset = (.info info, ws')) (hkept : info.fresh = false) :
    (ws.file p).kept? offset = some info := by
  have hopened := opened_touch host (h.keyed p) (answerable_of_served (h.served p))
  obtain ⟨kept, hk, hl⟩ | ⟨tree, ho, hl⟩ | ⟨-, ticket, hl⟩ := lookup_answer host ws p offset
  · obtain rfl := Lookup.info.inj (congrArg Prod.fst (hl.symm.trans hlookup))
    rw [← hk, kept?_congr hopened.memo]
  · obtain rfl := Lookup.info.inj (congrArg Prod.fst (hl.symm.trans hlookup))
    cases hkept
  · cases congrArg Prod.fst (hl.symm.trans hlookup)

theorem clean_of_kept? {f : FileIndex} {offset : Int} {info : ScopeInfo}
    (h : f.kept? offset = some info) : f.innerDirty = false := by
  unfold FileIndex.kept? at h
  split at h
  · split at h
    · rename_i hcond
      simpa using (Bool.and_eq_true_iff.1 hcond).1
    · cases h
  · cases h

end Workspace

theorem exists_last_of_mem {α : Type} [DecidableEq α] {a : α} {l : List α} (h : a ∈ l) :
    ∃ before since, l = before ++ a :: since ∧ a ∉ since := by
  obtain ⟨since, before, hrev, hnot⟩ := List.eq_append_cons_of_mem (List.mem_reverse.2 h)
  refine ⟨before.reverse, since.reverse, ?_, by simpa using hnot⟩
  rw [← List.reverse_reverse l, hrev]
  simp

namespace World
open Workspace

/-- What is kept is what would be found. A lookup in a file `p` that is answered from what is kept
has the scope, the identifiers and the recovery of a lookup made now; it has its properties and
associations, too, unless another file of the directory has taken over a parse, moved or been
replaced since the last lookup was made in `p`. -/
theorem kept_lookup_transparent (w : World) (workers : Workers) (steps : List Step) {p : String}
    {offset : Int} {info : ScopeInfo} {ws' : Workspace}
    (hnested : ∀ q tree, (((w.fresh workers).run steps).2.workspace.file q).outer = some tree →
      tree.Nested)
    (hlookup : ((w.fresh workers).run steps).2.workspace.lookup
      ((w.fresh workers).run steps).2.host p offset = (.info info, ws'))
    (hkept : info.fresh = false) :
    let now := ((w.fresh workers).run steps).2.workspace
    ∃ f tree, now.files.get? p = some f ∧ f.outer = some tree ∧
      let again := lookupIn w.settings.hints now f tree offset
      info.scope = again.scope ∧ info.identifiers = again.identifiers ∧
        info.recovered = again.recovered ∧
      ∃ before since, (w.fresh workers).history steps = before ++ .look p :: since ∧
        .look p ∉ since ∧ ((∀ e ∈ since, ¬ e.Harms p) →
          info.properties = again.properties ∧ info.associations = again.associations) := by
  intro now
  have hnew : Orderly (w.fresh workers).workspace := orderly_new workers
  have horder := (run_advance steps hnew).orderly
  have ht : Truthful w.parser w.settings.hints now := run_truthful w workers steps
  have hchanges : Changes w.parser w.settings.hints (w.fresh workers).workspace
    ((w.fresh workers).history steps) now := run_changes steps hnew
  have hdirty : ((w.fresh workers).workspace.file p).innerDirty = true := rfl
  have hk := lookup_kept horder hlookup hkept
  obtain ⟨shares, hm⟩ : ∃ shares, Memo w.settings.hints shares (now.file p) :=
    hchanges.memo ⟨[], memo_of_dirty [] hdirty⟩
  obtain ⟨tree, -, ho, -⟩ := hm (clean_of_kept? hk)
  have hw := ht.wired ho
  have hn := hnested p tree ho
  have hinfo := kept?_eq hw hn ho hm hk
  have hagain : lookupIn w.settings.hints now (now.file p) tree offset =
      infoFrom w.settings.hints (now.around p) (now.file p) tree offset := by
    rw [lookupIn_eq, keyed_of_shelved ht.shelved p]
  refine ⟨now.file p, tree, get?_of_outer ho, ho, ?_⟩
  rw [hagain]
  refine ⟨by rw [hinfo]; rfl, by rw [hinfo]; rfl, by rw [hinfo]; rfl, ?_⟩
  have hlook : .look p ∈ (w.fresh workers).history steps := by
    by_contra hnone
    have hd := hchanges.dirty hnone hdirty
    rw [clean_of_kept? hk] at hd
    cases hd
  -- The lookup that is kept is the last one that was made in the file.
  obtain ⟨before, since, hhistory, hlast⟩ := exists_last_of_mem hlook
  refine ⟨before, since, hhistory, hlast, ?_⟩
  intro hharm
  rw [hhistory] at hchanges
  have hcurrent := hchanges.memo_since hharm (truthful_new w.parser w.settings.hints workers)
  rw [kept?_eq hw hn ho hcurrent hk]
  exact ⟨rfl, rfl⟩

theorem arrowOnly_nested (steps : List Step) (q : String) (tree : ScopeTree)
    (h : (((arrowOnly.fresh .lent).run steps).2.workspace.file q).outer = some tree) :
    tree.Nested := by
  obtain ⟨text, retries, parsed, hparse, -, rfl⟩ :=
    Sourced.exists_tree ((run_truthful arrowOnly .lent steps).sourced q) h
  obtain ⟨root, hroot, hbuilt, -⟩ := parseText_ok hparse
  have hanswer : (if lastText arrowOnly.parser text retries = "é => 0" then some arrowProgram
      else none) = some root := hroot
  split at hanswer
  · rename_i hlast
    obtain rfl := Option.some.inj hanswer
    rw [hlast] at hbuilt
    exact (sound_of_buildScopes arrowProgram_wellPlaced (by decide) hbuilt).nested
  · cases hanswer

theorem kept_lookup_transparent_arrowOnly :
    let now := ((arrowOnly.fresh .lent).run [.lookup "a.js" 5, .deliver 0]).2
    ∃ info ws', now.workspace.lookup now.host "a.js" 0 = (.info info, ws') ∧ info.fresh = false ∧
      ∃ f tree, now.workspace.files.get? "a.js" = some f ∧ f.outer = some tree ∧
        let again := lookupIn arrowOnly.settings.hints now.workspace f tree 0
        info.scope = again.scope ∧ info.identifiers = again.identifiers ∧
          info.properties = again.properties ∧ info.associations = again.associations := by
  intro now
  have hhistory : (arrowOnly.fresh .lent).history [.lookup "a.js" 5, .deliver 0] =
      [.install "a.js", .look "a.js"] := by decide +kernel
  have hkept : (now.workspace.lookup now.host "a.js" 0).1.info?.any (fun info => !info.fresh) = true :=
    by decide +kernel
  obtain ⟨info, hinfo, hold⟩ := (Option.any_eq_true _ _).1 hkept
  have hlookup : now.workspace.lookup now.host "a.js" 0 =
      (.info info, (now.workspace.lookup now.host "a.js" 0).2) :=
    Prod.ext (Lookup.eq_info hinfo) rfl
  have hfresh : info.fresh = false := by simpa using hold
  obtain ⟨f, tree, hget, ho, hscope, hidentifiers, -, before, since, hsplit, -, hrest⟩ :=
    kept_lookup_transparent arrowOnly .lent [.lookup "a.js" 5, .deliver 0]
      (arrowOnly_nested _) hlookup hfresh
  obtain ⟨hproperties, hassociations⟩ := hrest fun e he => by
    have hmem : e ∈ [FileEvent.install "a.js", .look "a.js"] := by
      rw [← hhistory, hsplit]
      exact List.mem_append_right _ (List.mem_cons_of_mem _ he)
    obtain rfl | rfl : e = .install "a.js" ∨ e = .look "a.js" := by simpa using hmem
    · exact fun h => h.1 rfl
    · exact id
  exact ⟨info, _, hlookup, hfresh, f, tree, hget, ho, hscope, hidentifiers, hproperties,
    hassociations⟩

end World

end ScopeHints
