import TokenScope.Proofs.Lexing.Ending
import TokenScope.Proofs.Lexing.Requests
import TokenScope.Proofs.Lexing.Turns

/-!
Reading always comes to its end. In whatever state a lexer is, a known number of turns gives
the next token; each token but the end of input takes a character, so that there are at most
one more of them than characters; and the end of input comes exactly when no scan could start
any more. From then on nothing a lexer is asked for moves it.
-/

namespace TokenScope

/-- Some scan starts with this character. -/
def Lead.Starts (c : Char) : Prop :=
  c = '.' ∨ c.isDigit ∨ c = '"' ∨ isWordStart c ∨ (ofSign? c).isSome

theorem Lead.passes_iff_isBlank_or (c : Char) : passes c ↔ isBlank c ∨ ¬ Starts c := by
  rw [passes_iff, ofChar, Starts]
  cases hs : ofSign? c <;> grind

namespace Lexer

variable {lexer : Lexer}

theorem isEnd_next_iff_forall :
    lexer.next.1.isEnd ↔ ∀ c ∈ lexer.unread, Lead.isBlank c ∨ ¬ Lead.Starts c := by
  rw [isEnd_next_iff, skip, passing_eq, List.dropWhile_eq_nil_iff]
  simp only [Lead.passes_iff_isBlank_or]

/-- Reading a token moves on over the characters passed before it and those it is made of. -/
theorem exists_read_next (lexer : Lexer) : ∃ read, lexer.unread = read ++ lexer.next.2.unread ∧
    lexer.next.2.location = lexer.location.after read := by
  have hsplit := (List.takeWhile_append_dropWhile (p := Lead.passes) (l := lexer.unread)).symm
  have hskip : lexer.skip = _ := passing_eq lexer.location lexer.diagnostics lexer.unread
  cases hf : Lexeme.first? lexer.skip.unread with
  | none =>
      rw [next_of_first?_eq_none hf, hskip]
      exact ⟨_, hsplit, rfl⟩
  | some lexeme =>
      have hcut := (Lexeme.cutFrom_of_first? hf).2
      rw [next_of_first?_eq_some hf, accept_of_first? hf]
      refine ⟨lexer.unread.takeWhile Lead.passes ++ lexeme.read, ?_, ?_⟩
      · rw [List.append_assoc, hcut, hskip]
        exact hsplit
      · rw [Location.after_append, hskip]

/-- The end of input is all that a lexer gives, and giving it changes nothing. -/
structure Rests (ended : Lexer) (ending : Token) : Prop where
  isEnd : ending.isEnd
  width : ending.width = 0
  next : ended.next = (ending, ended)
  item : ended.item = (none, ended)

theorem rests_of_unread_eq_nil {ended : Lexer} (h : ended.unread = []) :
    ended.Rests (.endOfInput ended.location) := by
  obtain ⟨unread, here, found⟩ := ended
  subst h
  exact ⟨rfl, rfl, next_nil, rfl⟩

theorem after_of_isEnd (h : lexer.next.1.isEnd) (n : Nat) :
    lexer.next.2.after n = lexer.next.2 := by
  induction n with
  | zero => rfl
  | succ n ih => rw [after_succ, next_of_isEnd h, ih]

/-- No request moves a lexer that has given its end of input; it can at most lose diagnostics. -/
theorem eq_preceded_of_run (h : lexer.next.1.isEnd) {requests : List Request} {last : Lexer}
    (hrun : ((Session.ready lexer.next.2).run requests).2 = .ready last) :
    lexer.next.2 = last.preceded
      (Request.takenBy requests ((Session.ready lexer.next.2).run requests).1).toArray := by
  obtain ⟨n, hmoves⟩ := Session.exists_after_of_run hrun
  rwa [after_of_isEnd h] at hmoves

/-- Reading from a lexer comes to the end of input and stays there. -/
structure Progresses (lexer : Lexer) : Prop where
  halts : (Reader.seeking lexer).turns (lexer.unread.length + 3) = some lexer.next
  ending : lexer.next.1.isEnd ↔ ∀ c ∈ lexer.unread, Lead.isBlank c ∨ ¬ Lead.Starts c
  moves : ∃ read, lexer.unread = read ++ lexer.next.2.unread ∧
    lexer.next.2.location = lexer.location.after read ∧ (¬ lexer.next.1.isEnd → read ≠ [])
  bounded : lexer.tokenize.1.size ≤ lexer.unread.length + 1
  closes : ∃ before last, lexer.tokenize.1.toList = before ++ [last] ∧ last.isEnd ∧
    ∀ t ∈ before, ¬ t.isEnd
  /-- Whatever is asked for after the end of input, the lexer left gives the same end of input
  and is where it was, and the diagnostics it lacks are those that were taken. -/
  rests : lexer.next.1.isEnd → ∀ requests last,
    ((Session.ready lexer.next.2).run requests).2 = .ready last →
      last.Rests lexer.next.1 ∧
      lexer.next.2 = last.preceded
        (Request.takenBy requests ((Session.ready lexer.next.2).run requests).1).toArray

/-- Every lexer progresses, however it came to be as it is. -/
theorem progresses (lexer : Lexer) : lexer.Progresses := by
  constructor
  case halts => exact lexer.turns_seeking (Nat.lt_succ_self _)
  case ending => exact isEnd_next_iff_forall
  case moves =>
    obtain ⟨read, hsplit, hplace⟩ := lexer.exists_read_next
    refine ⟨read, hsplit, hplace, fun h => ?_⟩
    rintro rfl
    have hlt := length_next_lt h
    rw [hsplit] at hlt
    exact absurd hlt (Nat.lt_irrefl _)
  case bounded => exact lexer.size_tokenize_le
  case closes =>
    exact ⟨_, _, lexer.toList_tokenize, rfl, fun t ht => Piece.not_isEnd_of_mem_tokens ht⟩
  case rests =>
    intro h requests last hrun
    have hkept := eq_preceded_of_run h hrun
    refine ⟨?_, hkept⟩
    have hunread : last.unread = [] := by
      have hu : lexer.next.2.unread = last.unread := by rw [hkept]; rfl
      rw [← hu, next_eq_endOfInput h, (isEnd_next_iff lexer).1 h]
    have hplace : lexer.next.1 = .endOfInput last.location := by
      have hl : lexer.next.2.location = last.location := by rw [hkept]; rfl
      rw [← hl, next_eq_endOfInput h]
    rw [hplace]
    exact rests_of_unread_eq_nil hunread

end Lexer
end TokenScope
