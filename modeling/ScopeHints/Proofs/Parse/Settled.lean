import ScopeHints.Proofs.Parse.Retries

/-! The number of retries decides only whether a parse gets as far as its first text without
errors. -/
namespace ScopeHints

/-- Attempts that come to a text without errors come to it with every budget for as many retries. -/
theorem attempts_of_enough {parser : Parser} {budget : Nat} {text : String} {src : Source}
    {root : Node} (h : (attempts parser budget text).ending = .clean src root) {budget' : Nat}
    (henough : (attempts parser budget text).blanked.length ≤ budget') :
    attempts parser budget' text = attempts parser budget text := by
  fun_induction attempts parser budget text generalizing budget' with
  | case2 budget text root' hroot src' he =>
    rw [attempts]
    simp [hroot, src', he]
  | case6 text root' hroot src' place he budget hne later =>
    rename_i ih
    cases budget' with
    | zero => simp at henough
    | succ budget' =>
      rw [attempts]
      have hlater := ih h (by simpa using henough)
      simp [hroot, src', he, hne, hlater, later]
  | _ => simp at h

theorem attempts_of_short {parser : Parser} {budget : Nat} {text : String} {src : Source}
    {root : Node} (h : (attempts parser budget text).ending = .clean src root) {budget' : Nat}
    (hshort : budget' < (attempts parser budget text).blanked.length) :
    ∃ line, (attempts parser budget' text).ending = .exhausted line ∧
      (attempts parser budget' text).blanked.length = budget' := by
  fun_induction attempts parser budget text generalizing budget' with
  | case6 text root' hroot src' place he budget hne later =>
    rename_i ih
    cases budget' with
    | zero =>
      rw [attempts]
      simp [hroot, src', he]
    | succ budget' =>
      obtain ⟨line, hline, hlength⟩ := ih h (by simpa using hshort)
      rw [attempts]
      simp [hroot, src', he, hne, hline, hlength]
  | case2 => simp at hshort
  | _ => simp at h

theorem parseText_of_enough {parser : Parser} {text : String} {retries retries' : Int}
    {parsed : ParsedFile} (h : parseText parser text retries = .ok parsed)
    (henough : (attempts parser retries.toNat text).blanked.length ≤ retries'.toNat) :
    parseText parser text retries' = .ok parsed := by
  obtain ⟨src, root, hclean, -⟩ := Attempts.conclude_eq_ok h
  rw [← h]
  unfold parseText parseReport
  rw [attempts_of_enough hclean henough]

theorem parseText_of_no_retry {parser : Parser} {text : String} {parsed : ParsedFile}
    (h : parseText parser text 0 = .ok parsed) (retries : Int) :
    parseText parser text retries = .ok parsed := by
  refine parseText_of_enough h ?_
  have hbound := attempts_bounded parser (0 : Int).toNat text
  rw [Int.toNat_zero, Nat.zero_min] at hbound
  exact Nat.le_trans hbound (Nat.zero_le _)

/-- A text is parsed with no number of retries, or there is a least number of retries with which it
is. With more it parses in the same way, with fewer it fails with a syntax error. When it parses at
once it does so with any number of retries, also a negative one. -/
theorem parseText_settled (parser : Parser) (text : String) :
    ((∀ retries parsed, parseText parser text retries ≠ .ok parsed) ∨
      ∃ (least : Nat) (parsed : ParsedFile), parsed.attempts = least + 1 ∧
        (∀ retries : Int, least ≤ retries ∨ least = 0 →
          parseText parser text retries = .ok parsed) ∧
        (0 < least → ∀ retries : Int, retries < least → ∃ line : Nat,
          parseText parser text retries =
            .error (.fault (.syntaxError line (retries.toNat + 1))))) ∧
    ∀ parsed, parseText parser text 0 = .ok parsed →
      ∀ forced, parseText parser text forced = .ok parsed := by
  refine ⟨?_, fun parsed h forced => parseText_of_no_retry h forced⟩
  by_cases h : ∃ retries parsed, parseText parser text retries = .ok parsed
  · obtain ⟨retries, parsed, hparsed⟩ := h
    obtain ⟨src, root, hclean, -, hattempts⟩ := Attempts.conclude_eq_ok hparsed
    refine .inr ⟨_, parsed, congrArg ParsedFile.attempts hattempts, ?_, ?_⟩
    · intro retries' henough
      exact parseText_of_enough hparsed (by omega)
    · intro hpos retries' hshort
      obtain ⟨line, hline, hlength⟩ :=
        attempts_of_short hclean (show retries'.toNat < _ by omega)
      refine ⟨line, ?_⟩
      have houtcome := Attempts.conclude_of_error (.inl hline)
      rw [Attempts.count, hlength] at houtcome
      exact houtcome
  · left
    intro retries parsed hparsed
    exact h ⟨retries, parsed, hparsed⟩

theorem parseText_settled_firstLine : ∃ parsed, parsed.attempts = 2 ∧
    parseText firstLineParser "(\r\nb" 1 = .ok parsed ∧
    parseText firstLineParser "(\r\nb" 7 = .ok parsed ∧
    ∃ line : Nat, parseText firstLineParser "(\r\nb" 0 = .error (.fault (.syntaxError line 1)) := by
  have hattempts : (parseText firstLineParser "(\r\nb" 7).toOption.map (·.attempts) = some 2 := by
    decide +kernel
  obtain ⟨hnever | ⟨least, parsed, hleast, hmore, hfewer⟩, -⟩ :=
    parseText_settled firstLineParser "(\r\nb"
  · cases h : parseText firstLineParser "(\r\nb" 7 with
    | ok parsed => exact absurd h (hnever 7 parsed)
    | error e =>
      rw [h] at hattempts
      cases hattempts
  · have hseven : parseText firstLineParser "(\r\nb" 7 = .ok parsed := by
      apply hmore
      by_contra hshort
      obtain ⟨line, hline⟩ := hfewer (by omega) 7 (by omega)
      rw [hline] at hattempts
      cases hattempts
    rw [hseven] at hattempts
    have hcount : parsed.attempts = 2 := Option.some.inj hattempts
    obtain rfl : least = 1 := by omega
    exact ⟨parsed, hcount, hmore 1 (by omega), hseven, hfewer (by omega) 0 (by omega)⟩

end ScopeHints
