import TokenScope.Proofs.Lexing.Language
import TokenScope.Tree.Expr

/-!
Tokens written out and read again. Written with spaces between them, tokens of the
language are read back in full and without a diagnostic, and nothing else is. What a
lexer makes of any text, its errors left out, is such a list of tokens.
-/

namespace TokenScope

def Token.entry (token : Token) : TokenKind × String := (token.kind, token.text)

/-- A literal and an identifier as their atoms show them, any other token as its text. -/
def written (entry : TokenKind × String) : String :=
  match Atom.ofToken? ⟨entry.1, entry.2, .start, 0⟩ with
  | some atom => atom.render
  | none => entry.2

def rendered (entries : List (TokenKind × String)) : String :=
  " ".intercalate (entries.map written)

/-- Reading what was written gives the entries, each in its full width, and the end of
input, and finds no fault. -/
structure ReadsBack (entries : List (TokenKind × String)) : Prop where
  kept : (Lexer.ofString (rendered entries)).tokenize.1.toList.map Token.entry =
    entries ++ [(.endOfInput, "")]
  widths : (Lexer.ofString (rendered entries)).tokenize.1.toList.dropLast.map Token.width =
    entries.map fun entry => (written entry).length
  quiet : (Lexer.ofString (rendered entries)).tokenize.2.diagnostics = #[]

theorem toList_written (kind : TokenKind) (text : String) :
    (written (kind, text)).toList = (Reading.token kind text).spelled := by
  cases kind <;> simp [written, Atom.ofToken?, AtomKind.ofKind?, Atom.render, Reading.spelled]

theorem rendered_nil : rendered [] = "" := rfl

theorem rendered_singleton (entry : TokenKind × String) : rendered [entry] = written entry :=
  String.intercalate_singleton

theorem toList_rendered_cons (entry next : TokenKind × String)
    (entries : List (TokenKind × String)) :
    (rendered (entry :: next :: entries)).toList =
      (written entry).toList ++ ' ' :: (rendered (next :: entries)).toList := by
  simp [rendered, String.intercalate_cons_cons]

theorem pieces_written {kind : TokenKind} {text : String} (h : WellFormed kind text) :
    pieces (written (kind, text)).toList =
      [.cut (.token kind text) (written (kind, text)).toList] := by
  rw [toList_written, pieces_of_first? (Lexeme.first?_spelled h), pieces_nil]

theorem pieces_rendered_cons {entry : TokenKind × String} (h : WellFormed entry.1 entry.2)
    (next : TokenKind × String) (entries : List (TokenKind × String)) :
    pieces (rendered (entry :: next :: entries)).toList =
      .cut (.token entry.1 entry.2) (written entry).toList ::
        .passed ' ' :: pieces (rendered (next :: entries)).toList := by
  have hp := pieces_written h
  have hc : ∀ reading read, Piece.cut reading read ∈ pieces (written entry).toList →
      reading.Closed := by
    intro reading read hm
    rw [hp, List.mem_singleton] at hm
    cases hm
    trivial
  rw [toList_rendered_cons, pieces_append_blank rfl _ _ hc, hp, List.singleton_append]

namespace Piece

structure Restores (here : Location) (ps : List Piece) (entries : List (TokenKind × String)) :
    Prop where
  kept : (tokens here ps).map Token.entry = entries
  widths : (tokens here ps).map Token.width = entries.map fun entry => (written entry).length
  quiet : diagnostics here ps = []

theorem restores_nil (here : Location) : Restores here [] [] := ⟨rfl, rfl, rfl⟩

theorem Restores.passed {here : Location} {ps : List Piece}
    {entries : List (TokenKind × String)} (h : Restores (here.pass ' ') ps entries) :
    Restores here (.passed ' ' :: ps) entries := by
  have ht : tokens here (.passed ' ' :: ps) = tokens (here.pass ' ') ps := tokens_cons _ _ _
  have hd : diagnostics here (.passed ' ' :: ps) = diagnostics (here.pass ' ') ps :=
    diagnostics_cons _ _ _
  refine ⟨?_, ?_, ?_⟩
  · rw [ht, h.kept]
  · rw [ht, h.widths]
  · rw [hd, h.quiet]

theorem Restores.cut {here : Location} {ps : List Piece}
    {entries : List (TokenKind × String)} (entry : TokenKind × String)
    (h : Restores (here.after (written entry).toList) ps entries) :
    Restores here (.cut (.token entry.1 entry.2) (written entry).toList :: ps)
      (entry :: entries) := by
  refine ⟨?_, ?_, ?_⟩
  · rw [tokens_cons, List.map_append, chars, h.kept]
    rfl
  · rw [tokens_cons, List.map_append, chars, h.widths]
    rfl
  · rw [diagnostics_cons, chars, h.quiet]
    rfl

end Piece

theorem restores_pieces {entries : List (TokenKind × String)}
    (h : ∀ entry ∈ entries, WellFormed entry.1 entry.2) (here : Location) :
    Piece.Restores here (pieces (rendered entries).toList) entries := by
  induction entries generalizing here with
  | nil =>
      rw [rendered_nil, String.toList_empty, pieces_nil]
      exact Piece.restores_nil here
  | cons entry entries ih =>
      rw [List.forall_mem_cons] at h
      cases entries with
      | nil =>
          rw [rendered_singleton, pieces_written h.1]
          exact (Piece.restores_nil _).cut entry
      | cons next entries =>
          rw [pieces_rendered_cons h.1]
          exact (ih h.2 _).passed.cut entry

theorem readsBack_of_wellFormed {entries : List (TokenKind × String)}
    (h : ∀ entry ∈ entries, WellFormed entry.1 entry.2) : ReadsBack entries := by
  have hr := restores_pieces h .start
  have hall := Lexer.tokenize_ofString (rendered entries)
  refine ⟨?_, ?_, ?_⟩
  · rw [hall, List.map_append, hr.kept]
    rfl
  · rw [hall]
    change (_ ++ [_]).dropLast.map _ = _
    rw [List.dropLast_concat, hr.widths]
  · rw [hall, hr.quiet]

theorem WellFormed.kind_ne {kind : TokenKind} {text : String} (h : WellFormed kind text) :
    kind ≠ .endOfInput ∧ kind ≠ .error := by
  constructor
  · rintro rfl
    cases h
  · rintro rfl
    cases h

theorem inLanguage_of_mem_pieces {source : List Char} {reading : Reading} {read : List Char}
    (h : Piece.cut reading read ∈ pieces source) : reading.InLanguage := by
  obtain ⟨more, lexeme, hf, rfl, -⟩ := exists_first?_of_mem_pieces h
  exact Lexeme.inLanguage_of_first? hf

theorem isError_or_wellFormed {here : Location} {source : List Char} {t : Token}
    (h : t ∈ Piece.tokens here (pieces source)) : t.isError ∨ WellFormed t.kind t.text := by
  obtain ⟨reading, read, place, hm, rfl⟩ := Piece.exists_cut_of_mem_tokens h
  cases reading with
  | token kind text => exact .inr (inLanguage_of_mem_pieces hm)
  | failure fault text lexeme => exact .inl rfl

theorem wellFormed_of_diagnostics {here : Location} {source : List Char} {t : Token}
    (h : t ∈ Piece.tokens here (pieces source))
    (hq : Piece.diagnostics here (pieces source) = []) : WellFormed t.kind t.text := by
  obtain ⟨reading, read, place, hm, rfl⟩ := Piece.exists_cut_of_mem_tokens h
  cases reading with
  | token kind text => exact inLanguage_of_mem_pieces hm
  | failure fault text lexeme =>
      obtain ⟨d, hd, -⟩ := Piece.exists_mem_diagnostics here hm
      rw [hq] at hd
      contradiction

theorem ReadsBack.wellFormed {entries : List (TokenKind × String)} (h : ReadsBack entries) :
    ∀ entry ∈ entries, WellFormed entry.1 entry.2 := by
  have hall := Lexer.tokenize_ofString (rendered entries)
  have hkept := h.kept
  have hquiet := h.quiet
  rw [hall] at hkept hquiet
  rw [List.map_append] at hkept
  have hentries := List.append_cancel_right hkept
  intro entry he
  rw [← hentries, List.mem_map] at he
  obtain ⟨t, ht, rfl⟩ := he
  exact wellFormed_of_diagnostics ht (by simpa using hquiet)

/-- The tokens of a text without its errors and its end. -/
def legible (source : String) : List (TokenKind × String) :=
  ((Lexer.ofString source).tokenize.1.toList.filter fun t => !t.isError && !t.isEnd).map
    Token.entry

theorem wellFormed_of_mem_tokenize {source : String} {t : Token}
    (h : t ∈ (Lexer.ofString source).tokenize.1) (he : ¬ t.isError) (hn : ¬ t.isEnd) :
    WellFormed t.kind t.text := by
  rw [Lexer.tokenize_ofString, List.mem_toArray, List.mem_append, List.mem_singleton] at h
  obtain h | rfl := h
  · exact (isError_or_wellFormed h).resolve_left he
  · contradiction

theorem wellFormed_of_mem_legible {source : String} :
    ∀ entry ∈ legible source, WellFormed entry.1 entry.2 := by
  intro entry h
  obtain ⟨t, ht, rfl⟩ := List.mem_map.1 h
  simp only [List.mem_filter, Array.mem_toList_iff, Bool.and_eq_true, Bool.not_eq_true'] at ht
  exact wellFormed_of_mem_tokenize ht.1 (by simp [ht.2.1]) (by simp [ht.2.2])

/-- The errors left out, a run is its legible tokens and the end of input. -/
theorem legible_append_endOfInput (source : String) :
    legible source ++ [(.endOfInput, "")] =
      ((Lexer.ofString source).tokenize.1.toList.filter fun t => !t.isError).map
        Token.entry := by
  have hfilter : (Piece.tokens .start (pieces source.toList)).filter
      (fun t => !t.isError && !t.isEnd) =
        (Piece.tokens .start (pieces source.toList)).filter fun t => !t.isError := by
    apply List.filter_congr
    intro t ht
    obtain he | hw := isError_or_wellFormed ht
    · simp [he]
    · simp [Token.isEnd, hw.kind_ne.1]
  rw [legible, Lexer.tokenize_ofString, List.filter_append, List.filter_append, hfilter,
    List.map_append, List.map_append, List.append_assoc]
  rfl

/-- Lists of tokens of the language, and no others, are read back as they were written; the
tokens of any text are of the language, so that writing them and reading again loses the
errors and nothing else. -/
theorem readsBack_iff_and_legible :
    (∀ entries, ReadsBack entries ↔ ∀ entry ∈ entries, WellFormed entry.1 entry.2) ∧
    ∀ source : String,
      (∀ t ∈ (Lexer.ofString source).tokenize.1, ¬ t.isError → ¬ t.isEnd →
        WellFormed t.kind t.text) ∧
      ReadsBack (legible source) ∧
      (Lexer.ofString (rendered (legible source))).tokenize.1.toList.map Token.entry =
        ((Lexer.ofString source).tokenize.1.toList.filter fun t => !t.isError).map
          Token.entry := by
  refine ⟨?_, ?_⟩
  · intro entries
    exact ⟨ReadsBack.wellFormed, readsBack_of_wellFormed⟩
  · intro source
    have hb := readsBack_of_wellFormed (@wellFormed_of_mem_legible source)
    refine ⟨fun t => wellFormed_of_mem_tokenize, hb, ?_⟩
    rw [hb.kept, legible_append_endOfInput]

end TokenScope
