import ScopeHints.Proofs.Workspace.Budget
import ScopeHints.Proofs.Workspace.Transparent

/-! What the index knows of a file fits together at any time: its path, the paths of its tokens,
the lookup that it keeps, and the flags that decide what is asked of the parser next. -/
namespace ScopeHints

namespace FileIndex

def Labelled (f : FileIndex) (p : String) : Prop := ∀ t ∈ f.properties, t.path = some p

theorem Labelled.congr {f g : FileIndex} {p : String} (h : f.Labelled p)
    (hc : g.content = f.content) : g.Labelled p := by
  have hproperties : g.properties = f.properties := congrArg Content.properties hc
  intro t ht
  rw [hproperties] at ht
  exact h t ht

end FileIndex

namespace Workspace
variable {ws ws' : Workspace} {p : String} {parser : Parser} {settings : HintSettings}
  {events : List FileEvent}

theorem scope?_scopeAt {tree : ScopeTree} (hw : tree.Wired) (offset : Int) :
    tree.scope? (scopeAt tree offset).index = some (scopeAt tree offset) := by
  obtain ⟨htree, hlt⟩ := ScopeTree.scopeAt_lt hw offset
  generalize scopeAt tree offset = scope at htree hlt
  obtain ⟨t, i⟩ := scope
  obtain rfl : t = tree := htree
  rw [ScopeTree.scope?, if_pos ⟨Int.natCast_nonneg i, Int.ofNat_lt.2 hlt⟩]
  rfl

theorem Memo.within {shares : Shares} {f : FileIndex} (h : Memo settings shares f)
    (hw : ∀ tree, f.outer = some tree → tree.Wired) (hclean : f.innerDirty = false) :
    ∃ tree scope info, f.outer = some tree ∧ f.innerScope = some scope ∧
      f.innerInfo = some info ∧ info.scope = some scope ∧
      tree.scope? scope.index = some scope := by
  obtain ⟨tree, offset, ho, hinfo, hscope⟩ := h hclean
  exact ⟨tree, scopeAt tree offset, _, ho, hscope, hinfo, rfl, scope?_scopeAt (hw tree ho) offset⟩

end Workspace

namespace World
open Workspace

end World

end ScopeHints
