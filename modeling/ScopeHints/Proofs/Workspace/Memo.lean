import ScopeHints.Proofs.Workspace.Effect

/-! The lookup that a file keeps. It is what a lookup finds with the properties and associations
that the other files of the directory had when it was made. -/
namespace ScopeHints

namespace FileIndex

/-- The file has neither properties nor associations, so that it adds nothing to the lookups in
other files. -/
def isBlank (f : FileIndex) : Bool := f.properties.isEmpty && f.associations.entries.isEmpty

theorem isBlank_iff {f : FileIndex} :
    f.isBlank = true ↔ f.properties = [] ∧ f.associations.entries = [] := by
  simp [isBlank]

def answerable (f : FileIndex) : Bool := f.pending.isSome && f.outer.isSome

def memo (f : FileIndex) : Bool × Option ScopeInfo × Option Scope :=
  (f.innerDirty, f.innerInfo, f.innerScope)

end FileIndex

abbrev Shares := List (List HintToken × AssociationCounts)

namespace Workspace

def share? (p : String) (e : String × FileIndex) : Option (List HintToken × AssociationCounts) :=
  if e.1 ≠ p && e.2.directory = directoryOf p && !e.2.isBlank then
    some (e.2.properties, e.2.associations)
  else none

def around (ws : Workspace) (p : String) : Shares := ws.files.entries.filterMap (share? p)

def infoFrom (settings : HintSettings) (shares : Shares) (f : FileIndex) (tree : ScopeTree)
    (offset : Int) : ScopeInfo :=
  { scope := some (scopeAt tree offset)
    identifiers := candidates settings f (scopeAt tree offset)
    properties := mergeProperties f.properties (shares.map Prod.fst)
    associations := mergeAssociations f.associations (shares.map Prod.snd)
    recovered := f.recovered }

theorem flatten_filter_blank (fs : List FileIndex) :
    ((fs.filter fun f => !f.isBlank).map (·.properties)).flatten = (fs.map (·.properties)).flatten := by
  induction fs with
  | nil => rfl
  | cons f fs ih =>
    cases hf : f.isBlank with
    | false => simp [hf, ih]
    | true => simp [hf, ih, (FileIndex.isBlank_iff.1 hf).1]

theorem foldl_filter_blank (fs : List FileIndex) (total : AssociationCounts) :
    ((fs.filter fun f => !f.isBlank).map (·.associations)).foldl addCounts total =
      (fs.map (·.associations)).foldl addCounts total := by
  induction fs generalizing total with
  | nil => rfl
  | cons f fs ih =>
    cases hf : f.isBlank with
    | false => simp [hf, ih]
    | true => simp [hf, ih, addCounts, (FileIndex.isBlank_iff.1 hf).2]

theorem around_eq_siblings (ws : Workspace) (f : FileIndex) :
    ws.around f.path =
      ((ws.siblings f).filter fun g => !g.isBlank).map fun g => (g.properties, g.associations) := by
  have hdirectory : f.directory = directoryOf f.path := rfl
  unfold around siblings
  induction ws.files.entries with
  | nil => rfl
  | cons e l ih =>
    rw [List.filterMap_cons, ih]
    by_cases hpath : e.1 = f.path
    · simp [share?, hpath]
    · by_cases hdir : e.2.directory = f.directory
      · cases hblank : e.2.isBlank with
        | false => simp [share?, hpath, hdir, hblank, ← hdirectory]
        | true => simp [share?, hpath, hdir, hblank]
      · simp [share?, hpath, hdir, ← hdirectory]

theorem lookupIn_eq (settings : HintSettings) (ws : Workspace) (f : FileIndex) (tree : ScopeTree)
    (offset : Int) :
    lookupIn settings ws f tree offset = infoFrom settings (ws.around f.path) f tree offset := by
  have hproperties : mergeProperties f.properties ((ws.around f.path).map Prod.fst) =
      mergeProperties f.properties ((ws.siblings f).map (·.properties)) := by
    rw [around_eq_siblings, List.map_map]
    have h := flatten_filter_blank (ws.siblings f)
    simp only [mergeProperties, List.flatten_cons]
    rw [← h]
    rfl
  have hassociations : mergeAssociations f.associations ((ws.around f.path).map Prod.snd) =
      mergeAssociations f.associations ((ws.siblings f).map (·.associations)) := by
    rw [around_eq_siblings, List.map_map]
    exact foldl_filter_blank (ws.siblings f) _
  rw [infoFrom, hproperties, hassociations]
  rfl

theorem infoFrom_congr (settings : HintSettings) (shares : Shares) {f g : FileIndex}
    (h : g.content = f.content) (tree : ScopeTree) (offset : Int) :
    infoFrom settings shares g tree offset = infoFrom settings shares f tree offset := by
  obtain ⟨-, hidentifiers, hglobals, hproperties, hassociations, hrecovered⟩ := Content.mk.inj h
  simp only [infoFrom, candidates, hidentifiers, hglobals, hproperties, hassociations, hrecovered]

/-- A kept lookup that is not out of date was made with what other files added then. -/
def Memo (settings : HintSettings) (shares : Shares) (f : FileIndex) : Prop :=
  f.innerDirty = false → ∃ tree offset, f.outer = some tree ∧
    f.innerInfo = some (infoFrom settings shares f tree offset) ∧
    f.innerScope = some (scopeAt tree offset)

theorem Memo.congr {settings : HintSettings} {shares : Shares} {f g : FileIndex}
    (h : Memo settings shares f) (hcontent : g.content = f.content) (hmemo : g.memo = f.memo) :
    Memo settings shares g := by
  obtain ⟨hdirty, hrest⟩ := Prod.mk.inj hmemo
  obtain ⟨hinfo, hscope⟩ := Prod.mk.inj hrest
  intro hclean
  obtain ⟨tree, offset, houter, hkept, hat⟩ := h (hdirty.symm.trans hclean)
  refine ⟨tree, offset, ?_, ?_, hscope.trans hat⟩
  · exact (congrArg Content.outer hcontent).trans houter
  · rw [hinfo, hkept, infoFrom_congr settings shares hcontent]

theorem memo_of_dirty {settings : HintSettings} (shares : Shares) {f : FileIndex}
    (h : f.innerDirty = true) : Memo settings shares f := by
  intro hclean
  rw [h] at hclean
  cases hclean

/-! ### What other files add -/

variable {ws ws' ws'' : Workspace} {p q : String} {f : FileIndex}

theorem around_congr (h : ws'.files = ws.files) (p : String) : ws'.around p = ws.around p := by
  rw [around, h]
  rfl

theorem around_insert_self (h : ws'.files = ws.files.insert q f) : ws'.around q = ws.around q := by
  have hself : ∀ g : FileIndex, share? q (q, g) = none := by simp [share?]
  rw [around, h]
  refine Table.filterMap_insertIn _ ?_
  cases hget : Table.lookupIn q ws.files.entries with
  | none => exact hself f
  | some g => exact (hself f).trans (hself g).symm

/-- A file that keeps its content adds what it added before; a new one without content adds
nothing. -/
theorem around_insert_same (h : ws'.files = ws.files.insert q f)
    (hcontent : f.content = (ws.file q).content) (hpath : f.path = (ws.file q).path) (p : String) :
    ws'.around p = ws.around p := by
  obtain ⟨-, -, -, hproperties, hassociations, -⟩ := Content.mk.inj hcontent
  have hshare : share? p (q, f) = share? p (q, ws.file q) := by
    have hdirectory : f.directory = (ws.file q).directory := by
      rw [FileIndex.directory, hpath, FileIndex.directory]
    have hblank : f.isBlank = (ws.file q).isBlank := by
      rw [FileIndex.isBlank, hproperties, hassociations, FileIndex.isBlank]
    unfold share?
    dsimp only
    rw [hdirectory, hblank, hproperties, hassociations]
  rw [around, h]
  refine Table.filterMap_insertIn _ ?_
  rw [hshare]
  cases hget : Table.lookupIn q ws.files.entries with
  | none =>
    have hnone : ws.files.get? q = none := hget
    have hfile : ws.file q = { path := q } := by
      rw [file, hnone]
      rfl
    have hempty : ({ path := q } : FileIndex).isBlank = true := rfl
    simp [hfile, share?, hempty]
  | some g =>
    rw [file_eq (show ws.files.get? q = some g from hget)]
    rfl

theorem share?_of_directory {p : String} {e : String × FileIndex}
    (h : e.2.directory ≠ directoryOf p) : share? p e = none := by
  simp [share?, h]

theorem around_insert_apart (h : ws'.files = ws.files.insert q f)
    (hnew : f.directory ≠ directoryOf p) (hold : (ws.file q).directory ≠ directoryOf p) :
    ws'.around p = ws.around p := by
  rw [around, h]
  refine Table.filterMap_insertIn _ ?_
  rw [share?_of_directory (e := (q, f)) hnew]
  cases hget : Table.lookupIn q ws.files.entries with
  | none => rfl
  | some g =>
    rw [file_eq (show ws.files.get? q = some g from hget)] at hold
    exact (share?_of_directory (e := (q, g)) hold).symm

theorem around_move {old new : String} (h : ws'.files = ((ws.files.erase old).erase new).insert new f)
    (hshelved : ∀ e ∈ ws.files.entries, e.2.path = e.1) (hmoved : f.directory ≠ directoryOf p)
    (hold : directoryOf old ≠ directoryOf p) (hnew : directoryOf new ≠ directoryOf p) :
    ws'.around p = ws.around p := by
  have hgone : ∀ e ∈ ws.files.entries, directoryOf e.1 ≠ directoryOf p → share? p e = none := by
    intro e he hdir
    refine share?_of_directory ?_
    rw [FileIndex.directory, hshelved e he]
    exact hdir
  have hinsert : share? p (new, f) =
      (((ws.files.erase old).erase new).get? new).bind fun g => share? p (new, g) := by
    rw [share?_of_directory (e := (new, f)) hmoved, Table.get?_erase, if_pos rfl]
    rfl
  calc ws'.around p
      = (((ws.files.erase old).erase new).insert new f).entries.filterMap (share? p) := by
        rw [around, h]
    _ = ((ws.files.erase old).erase new).entries.filterMap (share? p) :=
        Table.filterMap_insertIn _ hinsert
    _ = (ws.files.erase old).entries.filterMap (share? p) := by
        refine Table.filterMap_erase _ ?_
        rintro e he rfl
        exact hgone e (List.mem_filter.1 he).1 hnew
    _ = ws.around p := by
        refine Table.filterMap_erase _ ?_
        rintro e he rfl
        exact hgone e he hold

end Workspace

end ScopeHints
