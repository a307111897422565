import TokenScope.Proofs.Lexing.Pieces

/-!
A blank ends every scan but that of a string, just as the end of the text does: in every
state of the number automaton, in a word and where nothing is being read. Hence text with
no string left open can be cut at a blank, and its two sides have their own pieces.
-/

namespace TokenScope

theorem Lead.eq_of_isBlank {b : Char} (h : isBlank b) :
    b = ' ' ∨ b = '\t' ∨ b = '\n' ∨ b = '\x0b' ∨ b = '\x0c' ∨ b = '\r' := by
  simpa [isBlank, or_assoc] using h

theorem Lead.passes_of_isBlank {b : Char} (h : isBlank b) : passes b := by
  rw [passes_iff, ofChar, if_pos h]
  exact .inl rfl

/-- The scan did not run into the end of the text for want of a quote. -/
def Reading.Closed : Reading → Prop
  | token _ _ => True
  | failure fault _ _ => fault ≠ .unterminatedString

namespace NumberState

variable {b : Char}

theorem step_blank (hb : Lead.isBlank b) (state : NumberState) : state.step b = none := by
  obtain rfl | rfl | rfl | rfl | rfl | rfl := Lead.eq_of_isBlank hb <;> cases state <;> rfl

theorem run_append_blank (hb : Lead.isBlank b) (state : NumberState)
    (before rest tail : List Char) :
    state.run before (rest ++ b :: tail) =
      ((state.run before rest).1, (state.run before rest).2.1,
        (state.run before rest).2.2 ++ b :: tail) := by
  induction rest generalizing state before with
  | nil => simp only [List.nil_append, run, step_blank hb]
  | cons c rest ih =>
      rw [List.cons_append, run, run]
      cases hs : state.step c with
      | none => rfl
      | some next => exact ih next (c :: before)

theorem verdict_append (state : NumberState) (read rest more : List Char) :
    state.verdict read (rest ++ more) =
      { state.verdict read rest with rest := (state.verdict read rest).rest ++ more } := by
  cases state <;> simp [verdict]

end NumberState

namespace Lexeme

def followedBy (lexeme : Lexeme) (more : List Char) : Lexeme :=
  { lexeme with rest := lexeme.rest ++ more }

variable {b : Char}

theorem number_append_blank (hb : Lead.isBlank b) (c : Char) (rest tail : List Char) :
    number c (rest ++ b :: tail) = (number c rest).followedBy (b :: tail) := by
  simp only [number, NumberState.run_append_blank hb]
  exact NumberState.verdict_append _ _ _ _

theorem word_append_blank (hb : Lead.isBlank b) (source tail : List Char) :
    word (source ++ b :: tail) = (word source).followedBy (b :: tail) := by
  have hw : ¬ isWordCharacter b := by
    obtain rfl | rfl | rfl | rfl | rfl | rfl := Lead.eq_of_isBlank hb <;> decide
  have ht : (source ++ b :: tail).takeWhile isWordCharacter =
      source.takeWhile isWordCharacter := by
    rw [List.takeWhile_append, List.takeWhile_cons_of_neg hw, List.append_nil]
    split
    · rename_i he
      exact ((List.takeWhile_prefix _).eq_of_length he).symm
    · rfl
  have hd : (source ++ b :: tail).dropWhile isWordCharacter =
      source.dropWhile isWordCharacter ++ b :: tail := by
    rw [List.dropWhile_append, List.dropWhile_cons_of_neg hw]
    split
    · rename_i he
      rw [List.isEmpty_iff.1 he, List.nil_append]
    · rfl
  simp only [word, ht, hd]
  rfl

/-- Where the closing quote is there, nothing after it matters. -/
theorem quoted_append (rest tail : List Char) (h : (quoted rest).reading.Closed) :
    quoted (rest ++ tail) = (quoted rest).followedBy tail := by
  obtain ⟨-, hq⟩ | ⟨body, left, hb, rfl⟩ := quoted_cases rest
  · rw [hq] at h
    exact absurd rfl h
  · rw [List.append_assoc, List.cons_append, quoted_eq _ hb, quoted_eq _ hb]
    rfl

/-- More text behind leaves a lexeme as it is if the scan that cut it is left so. -/
theorem first?_append_of {source : List Char} {lexeme : Lexeme} (tail : List Char)
    (h : first? source = some lexeme)
    (hnumber : ∀ c rest, number c rest = lexeme → number c (rest ++ tail) = lexeme.followedBy tail)
    (hquoted : ∀ rest, quoted rest = lexeme → quoted (rest ++ tail) = lexeme.followedBy tail)
    (hword : ∀ source, word source = lexeme → word (source ++ tail) = lexeme.followedBy tail) :
    first? (source ++ tail) = some (lexeme.followedBy tail) := by
  cases source with
  | nil => simp [first?] at h
  | cons c rest =>
      simp only [first?, List.cons_append] at h ⊢
      cases hl : Lead.ofChar c with
      | blank | stray => simp [hl] at h
      | number =>
          simp only [hl, Option.some.injEq] at h ⊢
          exact hnumber c rest h
      | quote =>
          simp only [hl, Option.some.injEq] at h ⊢
          exact hquoted rest h
      | word =>
          simp only [hl, Option.some.injEq] at h ⊢
          exact hword (c :: rest) h
      | sign kind =>
          simp only [hl, Option.some.injEq] at h ⊢
          rw [← h]
          rfl

theorem first?_append_blank (hb : Lead.isBlank b) {source : List Char} (tail : List Char)
    {lexeme : Lexeme} (h : first? source = some lexeme) (hc : lexeme.reading.Closed) :
    first? (source ++ b :: tail) = some (lexeme.followedBy (b :: tail)) := by
  apply first?_append_of _ h
  · rintro c rest rfl
    exact number_append_blank hb c rest tail
  · rintro rest rfl
    exact quoted_append rest _ hc
  · rintro source rfl
    exact word_append_blank hb source tail

end Lexeme

/-- Two texts with a blank between them are read apart. -/
theorem pieces_append_blank {b : Char} (hb : Lead.isBlank b) (source tail : List Char)
    (h : ∀ reading read, Piece.cut reading read ∈ pieces source → reading.Closed) :
    pieces (source ++ b :: tail) = pieces source ++ .passed b :: pieces tail := by
  induction source using pieces_induction with
  | nil =>
      rw [List.nil_append, pieces_cons (Lead.passes_of_isBlank hb), pieces_nil,
        List.nil_append]
  | passed c rest hp ih =>
      rw [pieces_cons hp] at h
      rw [List.cons_append, pieces_cons hp, pieces_cons hp,
        ih fun reading read hm => h reading read (.tail _ hm)]
      rfl
  | cut source lexeme hf ih =>
      rw [pieces_of_first? hf] at h
      have ha := Lexeme.first?_append_blank hb tail hf (h _ _ (.head _))
      rw [pieces_of_first? ha, pieces_of_first? hf]
      change _ :: pieces (lexeme.rest ++ b :: tail) = _
      rw [ih fun reading read hm => h reading read (.tail _ hm)]
      rfl

end TokenScope
