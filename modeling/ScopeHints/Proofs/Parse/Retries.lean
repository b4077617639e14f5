import ScopeHints.Proofs.Parse.Position
import ScopeHints.Proofs.Scope.Query
import ScopeHints.Proofs.Text.Lines

/-! A parse ends whatever the parser answers: every retry takes the ink from one more line. All that
the retries do to the text is to blank these lines. -/
namespace ScopeHints

theorem blankLine_ne {text : String} {line : Int} (h : blankLine text line ≠ text) :
    Text.blankLine text.toList line ≠ text.toList := by
  intro heq
  refine h (String.toList_injective ?_)
  rw [toList_blankLine, heq]

theorem attempts_bounded (parser : Parser) (budget : Nat) (text : String) :
    (attempts parser budget text).blanked.length ≤
      min budget ((Text.lines text.toList).countP Text.inked) := by
  refine attempts_induction (P := fun budget text a =>
    a.blanked.length ≤ min budget ((Text.lines text.toList).countP Text.inked)) ?_ ?_ budget text
  · intro budget text a hblanked _
    rw [hblanked]
    exact Nat.zero_le _
  · intro budget text root place later _ _ hne ih
    have hless := Text.countP_inked_blankLine (blankLine_ne hne)
    rw [toList_blankLine] at ih
    rw [List.length_cons]
    omega

/-- The last text is the first one with the noted lines blanked. Each of them had ink, and none of
them was blanked twice. -/
theorem attempts_lines (parser : Parser) (budget : Nat) (text : String) :
    Text.lines (attempts parser budget text).text.toList =
      Text.blankAll (attempts parser budget text).blanked (Text.lines text.toList) ∧
    (attempts parser budget text).blanked.Nodup ∧
    ∀ line ∈ (attempts parser budget text).blanked, ∃ l, 1 ≤ line ∧
      (Text.lines text.toList)[line - 1]? = some l ∧ Text.inked l = true := by
  refine attempts_induction (P := fun _ text a =>
    Text.lines a.text.toList = Text.blankAll a.blanked (Text.lines text.toList) ∧
    a.blanked.Nodup ∧ ∀ line ∈ a.blanked, ∃ l, 1 ≤ line ∧
      (Text.lines text.toList)[line - 1]? = some l ∧ Text.inked l = true) ?_ ?_ budget text
  · intro budget text a hblanked htext
    rw [hblanked, htext, Text.blankAll_nil]
    exact ⟨rfl, List.nodup_nil, by simp⟩
  · intro budget text root place later _ _ hne ⟨hlines, hnodup, hinked⟩
    have hline := Text.inked_of_blankLine_ne (blankLine_ne hne)
    rw [toList_blankLine, Text.lines_blankLine] at hlines hinked
    -- The line that is blanked first has no ink for a later attempt.
    have hother : ∀ line ∈ later.blanked, line ≠ place.line ∧ ∃ l, 1 ≤ line ∧
        (Text.lines text.toList)[line - 1]? = some l ∧ Text.inked l = true := by
      intro line hmem
      obtain ⟨l, hpos, hl, hl'⟩ := hinked line hmem
      rw [Text.getElem?_blankAll] at hl
      obtain ⟨m, hm, rfl⟩ := Option.map_eq_some_iff.1 hl
      split at hl'
      · rw [Text.inked_blanked] at hl'
        cases hl'
      · rename_i hnot
        refine ⟨?_, m, hpos, hm, hl'⟩
        rintro rfl
        exact hnot (List.mem_singleton.2 (by omega))
    refine ⟨?_, List.nodup_cons.2 ⟨fun hmem => (hother _ hmem).1 rfl, hnodup⟩, ?_⟩
    · rw [hlines, Text.blankAll_cons]
    · intro line hmem
      obtain rfl | hmem := List.mem_cons.1 hmem
      · exact hline
      · exact (hother line hmem).2

/-- The text of the attempt that follows the first `n` retries. -/
def Attempts.textAfter (a : Attempts) (text : String) (n : Nat) : String :=
  (a.blanked.take n).foldl (fun t line => blankLine t line) text

/-- Every line that was blanked is the one on which the parser put the first error of the text
before. -/
theorem attempts_reported (parser : Parser) (budget : Nat) (text : String) :
    (attempts parser budget text).text =
      (attempts parser budget text).textAfter text (attempts parser budget text).blanked.length ∧
    ∀ n line, (attempts parser budget text).blanked[n]? = some line →
      ∃ root place, parser ((attempts parser budget text).textAfter text n) = some root ∧
        (Source.ofText ((attempts parser budget text).textAfter text n)).firstError root =
          .found place ∧ place.line = line := by
  refine attempts_induction (P := fun _ text a => a.text = a.textAfter text a.blanked.length ∧
    ∀ n line, a.blanked[n]? = some line → ∃ root place, parser (a.textAfter text n) = some root ∧
      (Source.ofText (a.textAfter text n)).firstError root = .found place ∧ place.line = line)
    ?_ ?_ budget text
  · intro budget text a hblanked htext
    simp [Attempts.textAfter, hblanked, htext]
  · intro budget text root place later hroot hfound _ ⟨htext, hlater⟩
    refine ⟨by simpa [Attempts.textAfter] using htext, ?_⟩
    intro n line hn
    cases n with
    | zero => exact ⟨root, place, hroot, hfound, Option.some.inj hn⟩
    | succ n => exact hlater n line hn

theorem buildScopes_rangeOf {src : Source} {root : Node} {tree : ScopeTree}
    (h : buildScopes src root = .ok tree) : tree.rangeOf 0 = ⟨0, src.length⟩ := by
  unfold buildScopes at h
  cases hrun : Builder.run src (.ofRange ⟨0, src.length⟩) (Builder.start root) with
  | error e =>
    rw [hrun] at h
    cases h
  | ok built =>
    rw [hrun] at h
    obtain rfl : built.freeze = tree := Except.ok.inj h
    have hQ : Plan.Inherited fun _ => True := fun _ _ _ _ => trivial
    have hend := Builder.run_keeps
      (I := fun tree tasks => Builder.Building src (fun _ => True) tree tasks ∧
        tree.rangeOf 0 = ⟨0, src.length⟩) ?_ _ _ hrun ⟨Builder.start_building hQ trivial, rfl⟩
    · exact hend.2
    · intro tree tree' task rest p inner hI hp happly
      refine ⟨Builder.Building.step hQ hI.1 hp happly, ?_⟩
      obtain ⟨hscope, -⟩ := hI.1.ready task List.mem_cons_self
      obtain ⟨-, -, hs⟩ | ⟨_, _, _, _, middle, -, -, -, -, hadded, hs⟩ :=
        Builder.apply_cases hI.1.wired hscope happly
      · rw [hs.rangeOf]
        exact hI.2
      · rw [hs.rangeOf, hadded.rangeOf_of_lt hI.1.wired.nonempty]
        exact hI.2

theorem parseText_outcome {parser : Parser} {text : String} {maxRetries : Int} :
    (∀ parsed, parseText parser text maxRetries = .ok parsed →
      parsed.textLength = (lastText parser text maxRetries).length ∧
      parsed.tree.root.range = ⟨0, (lastText parser text maxRetries).length⟩ ∧
      parsed.attempts = (attempts parser maxRetries.toNat text).count) ∧
    ∀ line n, parseText parser text maxRetries = .error (.fault (.syntaxError line n)) →
      n = (attempts parser maxRetries.toNat text).count := by
  constructor
  · intro parsed h
    obtain ⟨root, -, hbuilt, hparsed⟩ := parseText_eq_ok h
    have hroot := buildScopes_rangeOf hbuilt
    rw [← ScopeTree.range_eq_rangeOf] at hroot
    exact ⟨congrArg ParsedFile.textLength hparsed, hroot, congrArg ParsedFile.attempts hparsed⟩
  · intro line n h
    have hend : (attempts parser maxRetries.toNat text).conclude.outcome =
        .error (.fault (.syntaxError line n)) := h
    unfold Attempts.conclude at hend
    cases he : (attempts parser maxRetries.toNat text).ending with
    | crashed => simp [he] at hend
    | outsideText => simp [he] at hend
    | exhausted l => simp_all
    | stuck l => simp_all
    | clean src root =>
      simp only [he] at hend
      cases hb : buildScopes src root with
      | ok tree => simp [hb] at hend
      | error e =>
        rw [hb] at hend
        cases e with
        | refused reason => cases reason <;> cases hend
        | _ => cases hend

/-- What the retries do to a text. Lines are counted from one. -/
structure Retried (parser : Parser) (maxRetries : Int) (text : String) (a : Attempts) : Prop where
  /-- The attempts end with the budget, and when no line has ink. -/
  bounded : (a.count : Int) ≤
    1 + min (max maxRetries 0) ((Text.lines text.toList).countP Text.inked)
  once : a.blanked.Nodup
  /-- A blanked line had ink and has become all spaces before its carriage returns. -/
  spaced : ∀ line ∈ a.blanked, 1 ≤ line ∧ ∃ before after,
    (Text.lines text.toList)[line - 1]? = some before ∧
    (Text.lines a.text.toList)[line - 1]? = some after ∧
    Text.inked before = true ∧
    after = List.replicate (Text.lineBody before).length ' ' ++ Text.lineEnd before
  kept : ∀ line, 1 ≤ line → line ∉ a.blanked →
    (Text.lines a.text.toList)[line - 1]? = (Text.lines text.toList)[line - 1]?
  length : a.text.length = text.length
  newlines : ∀ i : Nat, a.text.toList[i]? = some '\n' ↔ text.toList[i]? = some '\n'
  returns : (Text.lines a.text.toList).map Text.lineEnd = (Text.lines text.toList).map Text.lineEnd
  /-- The line blanked after an attempt is the one of the first error in its text. -/
  reported : ∀ n line, a.blanked[n]? = some line → ∃ root place,
    parser (a.textAfter text n) = some root ∧
    (Source.ofText (a.textAfter text n)).firstError root = .found place ∧ place.line = line
  last : a.text = a.textAfter text a.blanked.length

/-- Whatever the parser answers, a parse ends within its retries, blanks only lines on which an
error was found, each of them once, and keeps all offsets. -/
theorem parseText_retried (parser : Parser) (text : String) (maxRetries : Int) :
    Retried parser maxRetries text (attempts parser maxRetries.toNat text) ∧
    (∀ parsed, parseText parser text maxRetries = .ok parsed →
      parsed.textLength = text.length ∧ parsed.tree.root.range = ⟨0, text.length⟩ ∧
      parsed.attempts = (attempts parser maxRetries.toNat text).count) ∧
    ∀ line n, parseText parser text maxRetries = .error (.fault (.syntaxError line n)) →
      n = (attempts parser maxRetries.toNat text).count := by
  have hlength : (lastText parser text maxRetries).length = text.length := by
    rw [← String.length_toList, ← String.length_toList]
    exact (attempts_faded parser _ text).length_eq.symm
  have houtcome := @parseText_outcome parser text maxRetries
  rw [hlength] at houtcome
  refine ⟨?_, houtcome⟩
  have hbound := attempts_bounded parser maxRetries.toNat text
  obtain ⟨hlines, hnodup, hinked⟩ := attempts_lines parser maxRetries.toNat text
  obtain ⟨hlast, hreported⟩ := attempts_reported parser maxRetries.toNat text
  refine
    { bounded := by rw [Attempts.count]; omega
      once := hnodup
      spaced := ?_
      kept := ?_
      length := hlength
      newlines := Text.newlines_of_blankAll hlines
      returns := by rw [hlines, Text.map_blankAll Text.lineEnd_blanked]
      reported := hreported
      last := hlast }
  · intro line hmem
    obtain ⟨l, hpos, hl, hl'⟩ := hinked line hmem
    have hnumber : line - 1 + 1 ∈ (attempts parser maxRetries.toNat text).blanked := by
      rwa [Nat.sub_add_cancel hpos]
    refine ⟨hpos, l, Text.blanked l, hl, ?_, hl', Text.blanked_eq l⟩
    rw [hlines, Text.getElem?_blankAll, hl, Option.map_some, if_pos hnumber]
  · intro line hpos hmem
    have hnumber : line - 1 + 1 ∉ (attempts parser maxRetries.toNat text).blanked := by
      rwa [Nat.sub_add_cancel hpos]
    rw [hlines, Text.getElem?_blankAll]
    simp only [if_neg hnumber, Option.map_id_fun', id]

/-- Answers with an error on the first line of a text with a carriage return, and without one as
soon as this line is blanked. -/
def firstLineParser : Parser := fun text =>
  let node (kind : String) (hasError : Bool) (endByte : Nat) (children : List Node) : Node :=
    { kind, named := true, missing := false, hasError, firstByte := 0, endByte, row := 0
      field := none, children }
  if text = "(\r\nb" then some (node "program" true 4 [node "ERROR" true 1 []])
  else some (node "program" false 4 [])

theorem parseText_retried_firstLine :
    (attempts firstLineParser 7 "(\r\nb").text = " \r\nb" ∧
    ∃ parsed, parseText firstLineParser "(\r\nb" 7 = .ok parsed ∧ parsed.textLength = 4 ∧
      parsed.attempts = 2 := by
  have htext : (attempts firstLineParser 7 "(\r\nb").text = " \r\nb" := by decide +kernel
  have hcount : (attempts firstLineParser 7 "(\r\nb").count = 2 := by decide +kernel
  have hok : (parseText firstLineParser "(\r\nb" 7).isOk = true := by decide +kernel
  obtain ⟨parsed, hparsed⟩ := exists_eq_ok hok
  obtain ⟨hlength, -, hattempts⟩ :=
    (parseText_retried firstLineParser "(\r\nb" 7).2.1 parsed hparsed
  exact ⟨htext, parsed, hparsed, hlength, hattempts.trans hcount⟩

end ScopeHints
