import Mathlib.Data.List.GetD
import ScopeHints.Proofs.Scope.Recorded

/-! The changes of a scope tree as calls, step by step. A refused step ends its call, and what the
steps before it changed stays changed. The slot of a new child is found by halving, and only the
children on both sides of the slot are compared with the new one. -/
namespace ScopeHints

namespace ScopeTree
variable {tree tree' : ScopeTree}

/-! ### The slot of a new child -/

/-- The first place from `lo` up to `hi` that holds a number above `x`. -/
def slotBetween (starts : List Int) (x : Int) (lo hi : Nat) : Nat :=
  if lo < hi then
    let mid := (lo + hi) / 2
    if x < starts.getD mid 0 then slotBetween starts x lo mid
    else slotBetween starts x (mid + 1) hi
  else lo
termination_by hi - lo

theorem getD_le_getD {starts : List Int} (hs : starts.Pairwise (· ≤ ·)) {i j : Nat} (hij : i ≤ j)
    (hj : j < starts.length) : starts.getD i 0 ≤ starts.getD j 0 := by
  have hi : i < starts.length := by omega
  rw [List.getD_eq_getElem starts 0 hi, List.getD_eq_getElem starts 0 hj]
  obtain rfl | hlt := Nat.eq_or_lt_of_le hij
  · exact Int.le_refl _
  · exact List.pairwise_iff_getElem.1 hs i j hi hj hlt

theorem slotBetween_spec {starts : List Int} (hs : starts.Pairwise (· ≤ ·)) (x : Int) (lo hi : Nat)
    (hlohi : lo ≤ hi) (hhi : hi ≤ starts.length) (hlow : ∀ j < lo, starts.getD j 0 ≤ x)
    (hhigh : ∀ j, hi ≤ j → j < starts.length → x < starts.getD j 0) :
    slotBetween starts x lo hi ≤ starts.length ∧
      (∀ j < slotBetween starts x lo hi, starts.getD j 0 ≤ x) ∧
      ∀ j, slotBetween starts x lo hi ≤ j → j < starts.length → x < starts.getD j 0 := by
  -- The window from `lo` to `hi` shrinks; what left it stands on its side of `x`.
  fun_induction slotBetween starts x lo hi with
  | case1 lo hi hlt mid habove ih =>
    refine ih (by omega) (by omega) hlow ?_
    intro j hj hjlen
    have hle := getD_le_getD hs hj hjlen
    omega
  | case2 lo hi hlt mid habove ih =>
    refine ih (by omega) hhi ?_ hhigh
    intro j hj
    have hle := getD_le_getD hs (show j ≤ mid by omega) (by omega)
    omega
  | case3 lo hi hdone =>
    obtain rfl : lo = hi := by omega
    exact ⟨hhi, hlow, hhigh⟩

def slotOf (tree : ScopeTree) (siblings : List Nat) (start : Int) : Nat :=
  slotBetween (siblings.map fun i => (tree.rangeOf i).start) start 0 siblings.length

theorem splitSiblings_eq {siblings : List Nat} (start : Int)
    (hs : siblings.Pairwise fun a b => (tree.rangeOf a).start ≤ (tree.rangeOf b).start) :
    tree.slotOf siblings start ≤ siblings.length ∧
      tree.splitSiblings siblings start =
        (siblings.take (tree.slotOf siblings start), siblings.drop (tree.slotOf siblings start)) := by
  have hspec := slotBetween_spec (List.pairwise_map.2 hs) start 0 siblings.length (Nat.zero_le _)
    (by simp) (by simp) (by intro j hj hlt; rw [List.length_map] at hlt; omega)
  change slotOf tree siblings start ≤ _ ∧ _ at hspec
  rw [List.length_map] at hspec
  obtain ⟨hle, hlow, hhigh⟩ := hspec
  change ∀ j < slotOf tree siblings start, _ at hlow
  change ∀ j, slotOf tree siblings start ≤ j → _ at hhigh
  generalize slotOf tree siblings start = k at *
  -- The search read the starts by place, and the split compares siblings.
  have hstart : ∀ j, (hj : j < siblings.length) →
      (siblings.map fun i => (tree.rangeOf i).start).getD j 0 = (tree.rangeOf siblings[j]).start := by
    intro j hj
    rw [List.getD_eq_getElem _ _ (by simpa using hj), List.getElem_map]
  have hbefore : ∀ c ∈ siblings.take k, decide ((tree.rangeOf c).start ≤ start) = true := by
    intro c hc
    obtain ⟨j, hj, rfl⟩ := List.mem_take_iff_getElem.1 hc
    have hlt := hlow j (by omega)
    rw [hstart j (by omega)] at hlt
    exact decide_eq_true hlt
  have hafter : ∀ c ∈ siblings.drop k, decide ((tree.rangeOf c).start ≤ start) = false := by
    intro c hc
    obtain ⟨j, hj, rfl⟩ := List.mem_drop_iff_getElem.1 hc
    have hlt := hhigh (k + j) (by omega) (by omega)
    rw [hstart (k + j) (by omega)] at hlt
    exact decide_eq_false (by omega)
  refine ⟨hle, ?_⟩
  rw [splitSiblings, List.span_eq_takeWhile_dropWhile]
  conv_lhs => rw [← List.take_append_drop k siblings]
  rw [List.takeWhile_append_of_pos hbefore, List.dropWhile_append_of_pos hbefore]
  cases hrest : siblings.drop k with
  | nil => simp
  | cons c rest =>
    have hc := hafter c (by rw [hrest]; exact List.mem_cons_self)
    simp [hc]

def neighbours (siblings : List Nat) (slot : Nat) : List Nat :=
  (siblings.take (slot + 1)).drop (slot - 1)

theorem neighbours_eq {siblings : List Nat} {slot : Nat} (hslot : slot ≤ siblings.length) :
    neighbours siblings slot =
      (siblings.take slot).getLast?.toList ++ (siblings.drop slot).head?.toList := by
  have hhead : ∀ l : List Nat, l.take 1 = l.head?.toList := by
    intro l
    cases l <;> rfl
  cases slot with
  | zero => simpa [neighbours] using hhead siblings
  | succ k =>
    have hk : k < siblings.length := hslot
    have hdrop : siblings.drop k = siblings[k] :: siblings.drop (k + 1) :=
      List.drop_eq_getElem_cons hk
    calc neighbours siblings (k + 1)
        = (siblings.drop k).take 2 := by
          rw [neighbours, Nat.add_sub_cancel, List.drop_take]
          congr 1
          omega
      _ = siblings[k] :: (siblings.drop (k + 1)).take 1 := by rw [hdrop]; rfl
      _ = _ := by
          rw [hhead, List.take_succ_eq_append_getElem hk, List.getLast?_concat]
          rfl

theorem insertIdx_eq_take_drop {l : List Nat} {slot : Nat} (h : slot ≤ l.length) (i : Nat) :
    l.insertIdx slot i = l.take slot ++ i :: l.drop slot := by
  induction l generalizing slot with
  | nil =>
    obtain rfl : slot = 0 := by simpa using h
    rfl
  | cons a l ih =>
    cases slot with
    | zero => rfl
    | succ slot => simp [List.insertIdx_succ_cons, ih (Nat.le_of_succ_le_succ h)]

/-! ### Calls -/

abbrev Call (α : Type) := ExceptT Refusal (StateM ScopeTree) α

def Call.on {α : Type} (call : Call α) (tree : ScopeTree) : Except Refusal α × ScopeTree :=
  (ExceptT.run call).run tree

namespace Call

def checkMutable : Call Unit := do
  if (← get).frozen then throw .frozen

def checkRecord (i : Nat) : Call Unit := do
  if (← get).size ≤ i then throw .noRecord

/-- Refuses a range that overlaps a record of a list; the first such record is reported. -/
def checkApart (range : TextRange) : List Nat → Call Unit
  | [] => pure ()
  | i :: is => do
    let existing := (← get).rangeOf i
    if existing.Overlaps range then throw (.overlap existing range)
    checkApart range is

def append (record : ScopeRecord) : Call Nat := do
  let tree ← get
  set { tree with records := tree.records.push record }
  return tree.size

def change (i : Nat) (f : ScopeRecord → ScopeRecord) : Call Unit := do
  checkMutable
  checkRecord i
  set ((← get).modify i f)

/-- The new record is appended before its parent lists it. -/
def addChild (parent : Nat) (range : TextRange) (kind : ScopeKind) : Call Nat := do
  checkMutable
  checkRecord parent
  let tree ← get
  let slot := tree.slotOf (tree.childrenOf parent) range.start
  checkApart range (neighbours (tree.childrenOf parent) slot)
  let index ← append { parent := some (parent : Int), range, kind }
  set ((← get).modify parent fun r => { r with children := r.children.insertIdx slot index })
  return index

@[simp] theorem on_pure {α : Type} (a : α) : (pure a : Call α).on tree = (.ok a, tree) := rfl

@[simp] theorem on_get : (get : Call ScopeTree).on tree = (.ok tree, tree) := rfl

@[simp] theorem on_throw {α : Type} (e : Refusal) : (throw e : Call α).on tree = (.error e, tree) :=
  rfl

theorem on_bind {α β : Type} (call : Call α) (next : α → Call β) (tree : ScopeTree) :
    (call >>= next).on tree = match call.on tree with
      | (.ok a, tree') => (next a).on tree'
      | (.error e, tree') => (.error e, tree') := by
  change (match call.on tree with
    | (reply, tree') => (ExceptT.bindCont next reply).run tree') = _
  obtain ⟨reply, tree'⟩ := call.on tree
  cases reply <;> rfl

theorem on_bind_ok {α β : Type} {call : Call α} {next : α → Call β} {a : α}
    (h : call.on tree = (.ok a, tree')) : (call >>= next).on tree = (next a).on tree' := by
  rw [on_bind, h]

theorem on_checkMutable : checkMutable.on tree =
    (if tree.frozen then .error .frozen else .ok (), tree) := by
  rw [checkMutable, on_bind_ok on_get]
  split <;> rfl

theorem on_checkRecord (i : Nat) : (checkRecord i).on tree =
    (if tree.size ≤ i then .error .noRecord else .ok (), tree) := by
  rw [checkRecord, on_bind_ok on_get]
  split <;> rfl

theorem on_checkApart (range : TextRange) (is : List Nat) : (checkApart range is).on tree =
    (match (is.map tree.rangeOf).find? fun r => r.Overlaps range with
      | some existing => .error (.overlap existing range)
      | none => .ok (), tree) := by
  induction is with
  | nil => rfl
  | cons i is ih =>
    rw [checkApart, on_bind_ok on_get]
    by_cases h : (tree.rangeOf i).Overlaps range
    · simp [h]
    · simp [h, ih]

theorem on_change (i : Nat) (f : ScopeRecord → ScopeRecord) : (change i f).on tree =
    match tree.update i f with
      | .ok tree' => (.ok (), tree')
      | .error e => (.error e, tree) := by
  rw [change, on_bind, on_checkMutable, update]
  by_cases hf : tree.frozen = true
  · rw [if_pos hf, if_pos hf]
  rw [if_neg hf, if_neg hf]
  dsimp only
  rw [on_bind, on_checkRecord]
  by_cases hi : tree.size ≤ i
  · rw [if_pos hi, if_neg (show ¬ i < tree.records.size from Nat.not_lt.2 hi)]
  · rw [if_neg hi, if_pos (show i < tree.records.size from Nat.lt_of_not_le hi)]
    rfl

/-- The parent lists the new record in its slot whether it is changed before the record is appended
or after. -/
theorem modify_append {parent : Nat} (hp : parent < tree.size) (range : TextRange)
    (kind : ScopeKind) {slot : Nat} (hslot : slot ≤ (tree.childrenOf parent).length) :
    ScopeTree.modify
        { tree with records := tree.records.push { parent := some (parent : Int), range, kind } }
        parent (fun r => { r with children := r.children.insertIdx slot tree.size }) =
      tree.withChild parent range kind ((tree.childrenOf parent).take slot)
        ((tree.childrenOf parent).drop slot) := by
  refine congrArg (fun records => ({ tree with records } : ScopeTree)) ?_
  apply Array.ext_getElem?
  intro i
  refine Eq.trans ?_ (getElem?_withChild parent range kind _ _ i).symm
  rw [Array.getElem?_modify, Array.getElem?_push]
  by_cases hi : parent = i
  · subst hi
    have hp' : parent < tree.records.size := hp
    have hchildren : tree.childrenOf parent = tree.records[parent].children := by
      simp [childrenOf, hp']
    rw [hchildren] at hslot ⊢
    -- The parent is not the new record, which stands behind all others.
    simp only [if_neg (show ¬ parent = tree.records.size by omega),
      if_neg (show ¬ parent = tree.size from Nat.ne_of_lt hp), if_true,
      Array.getElem?_eq_getElem hp', Option.map_some, insertIdx_eq_take_drop hslot]
  · simp only [hi, if_false]
    rfl

theorem on_addChild (hw : tree.Wired) (parent : Nat) (range : TextRange) (kind : ScopeKind) :
    (addChild parent range kind).on tree = match tree.addChild parent range kind with
      | .ok (i, tree') => (.ok i, tree')
      | .error e => (.error e, tree) := by
  obtain ⟨hslot, hsplit⟩ := splitSiblings_eq range.start (hw.sorted parent)
  rw [addChild, on_bind, on_checkMutable, ScopeTree.addChild]
  by_cases hf : tree.frozen = true
  · rw [if_pos hf, if_pos hf]
  rw [if_neg hf, if_neg hf]
  dsimp only
  rw [on_bind, on_checkRecord]
  by_cases hp : tree.size ≤ parent
  · have hnone : tree.resolve? parent = none := by
      simp [resolve?]
      omega
    rw [if_pos hp, hnone]
  have hp := Nat.lt_of_not_le hp
  rw [resolve?_natCast hp, if_neg (Nat.not_le.2 hp)]
  dsimp only
  rw [hsplit, on_bind_ok on_get, on_bind, on_checkApart, neighbours_eq hslot]
  dsimp only
  generalize List.find? _ _ = found
  cases found with
  | some existing => rfl
  | none =>
    have happend := modify_append hp range kind hslot
    exact congrArg (fun tree' => ((.ok tree.size, tree') : Except Refusal Nat × ScopeTree)) happend

end Call

/-! ### The changes that a tree offers -/

inductive Mutation where
  | freeze
  | setRootRange (range : TextRange)
  | addChild (parent : Nat) (range : TextRange) (kind : ScopeKind)
  | declare (scope : Nat) (o : Occurrence)
  | addIdentifier (scope : Nat) (o : Occurrence)
  | addProperty (scope : Nat) (o : Occurrence)
  | addAssociation (scope : Nat) (a : Association)

namespace Mutation

def call : Mutation → Call (Option Nat)
  | freeze => do
    set (← get).freeze
    return none
  | setRootRange range => do
    Call.change 0 fun r => { r with range }
    return none
  | addChild parent range kind => return some (← Call.addChild parent range kind)
  | declare scope o => do
    Call.change scope fun r => { r with declarations := r.declarations ++ [o] }
    return none
  | addIdentifier scope o => do
    Call.change scope fun r => { r with identifiers := r.identifiers ++ [o] }
    return none
  | addProperty scope o => do
    Call.change scope fun r => { r with properties := r.properties ++ [o] }
    return none
  | addAssociation scope a => do
    Call.change scope fun r => { r with associations := r.associations ++ [a] }
    return none

def on : Mutation → ScopeTree → Except Refusal (Option Nat × ScopeTree)
  | freeze, tree => .ok (none, tree.freeze)
  | setRootRange range, tree => (tree.setRootRange range).map (none, ·)
  | addChild parent range kind, tree =>
    (tree.addChild parent range kind).map fun (i, tree') => (some i, tree')
  | declare scope o, tree => (tree.declare scope o).map (none, ·)
  | addIdentifier scope o, tree => (tree.addIdentifier scope o).map (none, ·)
  | addProperty scope o, tree => (tree.addProperty scope o).map (none, ·)
  | addAssociation scope a, tree => (tree.addAssociation scope a).map (none, ·)

end Mutation

def perform (tree : ScopeTree) (m : Mutation) : Except Refusal (Option Nat) × ScopeTree :=
  m.call.on tree

def settle (tree : ScopeTree) :
    Except Refusal (Option Nat × ScopeTree) → Except Refusal (Option Nat) × ScopeTree
  | .ok (i, tree') => (.ok i, tree')
  | .error e => (.error e, tree)

theorem change_settle (i : Nat) (f : ScopeRecord → ScopeRecord) :
    (do Call.change i f; return none : Call (Option Nat)).on tree =
      tree.settle ((tree.update i f).map (none, ·)) := by
  rw [Call.on_bind, Call.on_change]
  cases tree.update i f <;> rfl

/-- The steps of a change do what its operation does, and a refused change leaves the tree alone:
whatever can be refused is refused before the first step that writes. -/
theorem perform_eq (hw : tree.Wired) (m : Mutation) : tree.perform m = tree.settle (m.on tree) := by
  cases m with
  | freeze => rfl
  | addChild parent range kind =>
    change (Call.addChild parent range kind >>= fun i => pure (some i)).on tree = _
    rw [Call.on_bind, Call.on_addChild hw, Mutation.on]
    cases tree.addChild parent range kind <;> rfl
  | setRootRange range => exact change_settle 0 _
  | declare scope o => exact change_settle scope _
  | addIdentifier scope o => exact change_settle scope _
  | addProperty scope o => exact change_settle scope _
  | addAssociation scope a => exact change_settle scope _

end ScopeTree

end ScopeHints
