import Mathlib.Data.List.TakeWhile
import TokenScope.Lexer

/-!
What a scan makes of characters still spells them: a lexeme's reading determines the
characters it was read from. No scan makes an end of input or a plain error token,
and none reports a stray.
-/

namespace TokenScope

/-- The characters a diagnostic is about. The lexeme of an unterminated string leaves
out the quote that opened it. -/
def Diagnostic.spelled (d : Diagnostic) : List Char :=
  if d.fault = .unterminatedString then '"' :: d.lexeme.toList else d.lexeme.toList

namespace Reading

/-- The characters a reading stands for. Only strings lose their quotes. -/
def spelled : Reading → List Char
  | .token kind text =>
      if kind = .string then '"' :: text.toList ++ ['"'] else text.toList
  | .failure fault _ lexeme => Diagnostic.spelled ⟨fault, lexeme, .start⟩

/-- A token of a scan is neither the end of input nor an error, and a scan fails for
a reason of its own. -/
def Genuine : Reading → Prop
  | .token kind _ => kind ≠ .endOfInput ∧ kind ≠ .error
  | .failure fault _ _ => fault ≠ .unexpectedCharacter

end Reading

theorem TokenKind.isReserved_of_ofReserved? {word : String} {kind : TokenKind}
    (h : ofReserved? word = some kind) : kind.isReserved ∧ kind.spelling? = some word := by
  simpa using List.find?_some h

theorem Lead.isOperator_of_ofSign? {c : Char} {kind : TokenKind} (h : ofSign? c = some kind) :
    kind.isOperator ∧ kind.spelling? = some c.toString := by
  simp only [ofSign?] at h
  split at h <;> simp_all <;> subst h <;> exact ⟨rfl, rfl⟩

namespace Lexeme

def Spells (lexeme : Lexeme) : Prop :=
  lexeme.reading.spelled = lexeme.read ∧ lexeme.reading.Genuine

theorem number_spells (c : Char) (rest : List Char) : (number c rest).Spells := by
  generalize hr : (NumberState.first c).run [c] rest = r
  obtain ⟨last, read, left⟩ := r
  simp only [number, hr]
  cases last <;>
    simp [NumberState.verdict, Spells, Reading.spelled, Reading.Genuine, Diagnostic.spelled]

theorem quoted_eq {body : List Char} (left : List Char) (h : '"' ∉ body) :
    quoted (body ++ '"' :: left) =
      ⟨.token .string (String.ofList body), '"' :: body ++ ['"'], left, none⟩ := by
  have hb : ∀ c ∈ body, decide (c ≠ '"') = true := by
    intro c hc
    exact decide_eq_true fun he => h (he ▸ hc)
  have hd : (body ++ '"' :: left).dropWhile (· ≠ '"') = '"' :: left := by
    rw [List.dropWhile_append_of_pos hb]
    rfl
  have ht : (body ++ '"' :: left).takeWhile (· ≠ '"') = body := by
    rw [List.takeWhile_append_of_pos hb]
    exact List.append_nil body
  simp only [quoted, hd, ht]

/-- Either no quote is left, or the first one closes. -/
theorem quoted_cases (rest : List Char) :
    ('"' ∉ rest ∧ quoted rest =
      ⟨.failure .unterminatedString badCharacter (String.ofList rest), '"' :: rest, [], none⟩) ∨
    ∃ body left, '"' ∉ body ∧ rest = body ++ '"' :: left := by
  by_cases h : '"' ∈ rest
  · obtain ⟨body, left, rfl, hb⟩ := List.eq_append_cons_of_mem h
    exact .inr ⟨body, left, hb, rfl⟩
  · have hb : ∀ c ∈ rest, decide (c ≠ '"') = true := by
      intro c hc
      exact decide_eq_true fun he => h (he ▸ hc)
    have hd : rest.dropWhile (· ≠ '"') = [] := List.dropWhile_eq_nil_iff.2 hb
    have ht : rest.takeWhile (· ≠ '"') = rest := List.takeWhile_eq_self_iff.2 hb
    exact .inl ⟨h, by simp only [quoted, hd, ht]⟩

theorem quoted_spells (rest : List Char) : (quoted rest).Spells := by
  obtain ⟨-, hq⟩ | ⟨body, left, hb, rfl⟩ := quoted_cases rest
  · rw [hq]
    simp [Spells, Reading.spelled, Reading.Genuine, Diagnostic.spelled]
  · rw [quoted_eq left hb]
    simp [Spells, Reading.spelled, Reading.Genuine]

theorem word_spells (source : List Char) : (word source).Spells := by
  simp only [word, Spells, Reading.spelled, Reading.Genuine]
  cases h : TokenKind.ofReserved? (String.ofList (source.takeWhile isWordCharacter)) with
  | none => simp
  | some kind =>
      have hk := (TokenKind.isReserved_of_ofReserved? h).1
      cases kind <;> simp_all [TokenKind.isReserved, TokenKind.isTypeWord]

theorem spells_of_first? {source : List Char} {lexeme : Lexeme}
    (h : first? source = some lexeme) : lexeme.Spells := by
  cases source with
  | nil => simp [first?] at h
  | cons c rest =>
      obtain ⟨-, rfl⟩ | ⟨-, rfl⟩ | ⟨-, rfl⟩ | ⟨kind, hk, rfl⟩ := first?_cases h
      · exact number_spells c rest
      · exact quoted_spells rest
      · exact word_spells (c :: rest)
      · have ho := (Lead.isOperator_of_ofSign? hk).1
        cases kind <;> simp_all [Spells, Reading.spelled, Reading.Genuine, TokenKind.isOperator]

theorem not_isEnd_of_first? {source : List Char} {lexeme : Lexeme} (here : Location)
    (h : first? source = some lexeme) : ¬ (lexeme.token here).isEnd := by
  have hg := (spells_of_first? h).2
  rw [token]
  cases hr : lexeme.reading with
  | token kind text => simp_all [Reading.Genuine, Reading.toToken, Token.isEnd]
  | failure fault text word => simp [Reading.toToken, Token.isEnd]

end Lexeme
end TokenScope
