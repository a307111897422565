import TokenScope.Proofs.Lexing.Separation

/-!
Line feeds in tokens. A number ends before a blank, and no other scan but that of a string
reads one; the text of an error is fixed or a number. So only strings hold line feeds.
-/

namespace TokenScope

/-- The text of the token has no line feed, unless it is a string. -/
def Token.KeepsLine (t : Token) : Prop := t.kind ≠ .string → '\n' ∉ t.text.toList

namespace NumberState

theorem not_isBlank_of_mem_run {state : NumberState} {before : List Char} (rest : List Char)
    (h : ∀ c ∈ before, ¬ Lead.isBlank c) :
    ∀ c ∈ (state.run before rest).2.1, ¬ Lead.isBlank c := by
  induction rest generalizing state before with
  | nil => simpa [run] using h
  | cons c rest ih =>
      rw [run]
      cases hs : state.step c with
      | none => simpa using h
      | some next =>
          apply ih
          rw [List.forall_mem_cons]
          refine ⟨fun hc => ?_, h⟩
          rw [step_blank hc] at hs
          contradiction

theorem keepsLine_verdict (state : NumberState) {read : List Char} (rest : List Char)
    (here : Location) (h : '\n' ∉ read) : ((state.verdict read rest).token here).KeepsLine := by
  intro _
  cases state with
  | hexMarker | exponentMarker =>
      change '\n' ∉ Lexeme.badCharacter.toList
      decide
  | pointAfterDigits =>
      change '\n' ∉ (String.ofList read.dropLast).toList
      rw [String.toList_ofList]
      exact fun hm => h (List.dropLast_subset read hm)
  | zero | hexDigits | digits | leadingPoint | fraction | exponentSign | exponentDigits =>
      change '\n' ∉ (String.ofList read).toList
      rwa [String.toList_ofList]

end NumberState

namespace Lexeme

theorem keepsLine_number {c : Char} (rest : List Char) (here : Location)
    (hc : c = '.' ∨ c.isDigit) : ((number c rest).token here).KeepsLine := by
  apply NumberState.keepsLine_verdict
  have hb : ∀ d ∈ [c], ¬ Lead.isBlank d := by
    rw [List.forall_mem_singleton]
    intro hb
    obtain rfl | rfl | rfl | rfl | rfl | rfl := Lead.eq_of_isBlank hb <;> revert hc <;> decide
  exact fun hm => NumberState.not_isBlank_of_mem_run rest hb '\n' hm rfl

theorem keepsLine_quoted (rest : List Char) (here : Location) :
    ((quoted rest).token here).KeepsLine := by
  obtain ⟨-, hq⟩ | ⟨body, left, hb, rfl⟩ := quoted_cases rest
  · intro _
    rw [hq]
    change '\n' ∉ badCharacter.toList
    decide
  · intro hs
    rw [quoted_eq left hb] at hs
    exact absurd rfl hs

theorem keepsLine_word (source : List Char) (here : Location) :
    ((word source).token here).KeepsLine := by
  intro _
  change '\n' ∉ (String.ofList (source.takeWhile isWordCharacter)).toList
  rw [String.toList_ofList]
  intro hm
  exact absurd (List.mem_takeWhile_imp hm) (by decide)

theorem keepsLine_of_first? {source : List Char} {lexeme : Lexeme}
    (h : first? source = some lexeme) (here : Location) : (lexeme.token here).KeepsLine := by
  cases source with
  | nil => simp [first?] at h
  | cons c rest =>
      obtain ⟨hc, rfl⟩ | ⟨-, rfl⟩ | ⟨-, rfl⟩ | ⟨kind, hk, rfl⟩ := first?_cases h
      · exact keepsLine_number rest here hc
      · exact keepsLine_quoted rest here
      · exact keepsLine_word (c :: rest) here
      · intro _ hm
        have hn : '\n' = c := by simpa [token, Reading.toToken] using hm
        subst hn
        contradiction

end Lexeme

theorem keepsLine_of_mem_tokens {here : Location} {source : List Char} {t : Token}
    (h : t ∈ Piece.tokens here (pieces source)) : t.KeepsLine := by
  obtain ⟨reading, read, place, hm, rfl⟩ := Piece.exists_cut_of_mem_tokens h
  obtain ⟨more, lexeme, hf, rfl, rfl⟩ := exists_first?_of_mem_pieces hm
  exact Lexeme.keepsLine_of_first? hf place

end TokenScope
