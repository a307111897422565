import TokenScope.Proofs.Lexing.Spelling

/-!
A text as the lexer takes it apart: characters passed without a token, and lexemes.
The pieces depend on the text alone, neither on places nor on what was found before;
tokens and diagnostics are read off the pieces and the characters before each. The
main statement is that draining a lexer gives exactly these.
-/

namespace TokenScope

inductive Piece where
  /-- A blank or a stray. -/
  | passed (c : Char)
  | cut (reading : Reading) (read : List Char)
deriving DecidableEq

namespace Piece

def chars : Piece → List Char
  | passed c => [c]
  | cut _ read => read

def token? (here : Location) : Piece → Option Token
  | passed _ => none
  | cut reading read => some (reading.toToken read.length here)

def diagnostic? (here : Location) : Piece → Option Diagnostic
  | passed c =>
      if Lead.ofChar c = .stray then some ⟨.unexpectedCharacter, c.toString, here⟩ else none
  | cut reading _ => reading.toDiagnostic? here

end Piece

namespace Lead

/-- Whether a character is passed where a token could start. -/
def passes (c : Char) : Bool :=
  match ofChar c with
  | blank | stray => true
  | _ => false

theorem passes_iff {c : Char} : passes c ↔ ofChar c = blank ∨ ofChar c = stray := by
  rw [passes]
  split <;> simp_all

theorem first?_cons_eq_none_iff {c : Char} {rest : List Char} :
    Lexeme.first? (c :: rest) = none ↔ passes c := by
  rw [passes_iff, Lexeme.first?]
  cases ofChar c <;> simp

end Lead

/-- The pieces of a text. A character that starts no lexeme is passed alone. -/
def pieces (source : List Char) : List Piece :=
  match _ : Lexeme.first? source with
  | some lexeme => .cut lexeme.reading lexeme.read :: pieces lexeme.rest
  | none =>
      match source with
      | [] => []
      | c :: rest => .passed c :: pieces rest
termination_by source.length
decreasing_by
  · exact (Lexeme.cutFrom_of_first? ‹_›).rest_length_lt
  · simp

@[simp] theorem pieces_nil : pieces [] = [] := by
  simp [pieces, Lexeme.first?]

theorem pieces_of_first? {source : List Char} {lexeme : Lexeme}
    (h : Lexeme.first? source = some lexeme) :
    pieces source = .cut lexeme.reading lexeme.read :: pieces lexeme.rest := by
  rw [pieces]
  split <;> simp_all

theorem pieces_cons {c : Char} {rest : List Char} (h : Lead.passes c) :
    pieces (c :: rest) = .passed c :: pieces rest := by
  rw [← @Lead.first?_cons_eq_none_iff c rest] at h
  rw [pieces]
  split <;> simp_all

theorem pieces_induction {motive : List Char → Prop} (nil : motive [])
    (passed : ∀ c rest, Lead.passes c → motive rest → motive (c :: rest))
    (cut : ∀ source lexeme, Lexeme.first? source = some lexeme → motive lexeme.rest →
      motive source) (source : List Char) : motive source := by
  induction source using pieces.induct with
  | case1 source lexeme h ih => exact cut source lexeme h ih
  | case2 => exact nil
  | case3 c rest h ih => exact passed c rest (Lead.first?_cons_eq_none_iff.1 h) ih

theorem forall_mem_pieces {motive : Piece → Prop}
    (passed : ∀ c, Lead.passes c → motive (.passed c))
    (cut : ∀ source lexeme, Lexeme.first? source = some lexeme →
      motive (.cut lexeme.reading lexeme.read))
    (source : List Char) : ∀ p ∈ pieces source, motive p := by
  induction source using pieces_induction with
  | nil => simp
  | passed c rest h ih =>
      rw [pieces_cons h, List.forall_mem_cons]
      exact ⟨passed c h, ih⟩
  | cut source lexeme h ih =>
      rw [pieces_of_first? h, List.forall_mem_cons]
      exact ⟨cut source lexeme h, ih⟩

/-- Each piece with a lexeme comes from a scan. -/
theorem exists_first?_of_mem_pieces {source : List Char} {reading : Reading} {read : List Char}
    (h : Piece.cut reading read ∈ pieces source) :
    ∃ more lexeme, Lexeme.first? more = some lexeme ∧ lexeme.reading = reading ∧
      lexeme.read = read := by
  have hall : ∀ p ∈ pieces source, p = .cut reading read →
      ∃ more lexeme, Lexeme.first? more = some lexeme ∧ lexeme.reading = reading ∧
        lexeme.read = read := by
    apply forall_mem_pieces
    · intro c _ he
      contradiction
    · intro more lexeme hf he
      cases he
      exact ⟨more, lexeme, hf, rfl, rfl⟩
  exact hall _ h rfl

/-- Nothing is lost and nothing is read twice. -/
theorem flatMap_chars_pieces (source : List Char) :
    (pieces source).flatMap Piece.chars = source := by
  induction source using pieces_induction with
  | nil => simp
  | passed c rest h ih => simp [pieces_cons h, Piece.chars, ih]
  | cut source lexeme h ih =>
      rw [pieces_of_first? h, List.flatMap_cons, ih]
      exact (Lexeme.cutFrom_of_first? h).2

namespace Piece

/-- Each piece with the characters before it. -/
def placed (before : List Char) : List Piece → List (List Char × Piece)
  | [] => []
  | p :: ps => (before, p) :: placed (before ++ p.chars) ps

theorem placed_append (before : List Char) (ps qs : List Piece) :
    placed before (ps ++ qs) = placed before ps ++ placed (before ++ ps.flatMap chars) qs := by
  induction ps generalizing before with
  | nil => simp [placed]
  | cons p ps ih => simp [placed, ih, List.append_assoc]

theorem placed_prepend (more before : List Char) (ps : List Piece) :
    placed (more ++ before) ps = (placed before ps).map fun q => (more ++ q.1, q.2) := by
  induction ps generalizing before with
  | nil => rfl
  | cons p ps ih => simp [placed, List.append_assoc, ih]

theorem map_snd_placed (before : List Char) (ps : List Piece) :
    (placed before ps).map Prod.snd = ps := by
  induction ps generalizing before with
  | nil => rfl
  | cons p ps ih => rw [placed, List.map_cons, ih]

theorem mem_of_mem_placed {before : List Char} {ps : List Piece} {q : List Char × Piece}
    (h : q ∈ placed before ps) : q.2 ∈ ps := by
  rw [← map_snd_placed before ps]
  exact List.mem_map_of_mem h

/-- What a run of pieces that starts at a place reports, piece by piece. -/
def reports {α : Type} (report : Location → Piece → Option α) (here : Location)
    (ps : List Piece) : List α :=
  (placed [] ps).filterMap fun q => report (here.after q.1) q.2

def tokens (here : Location) (ps : List Piece) : List Token := reports token? here ps

def diagnostics (here : Location) (ps : List Piece) : List Diagnostic :=
  reports diagnostic? here ps

section Reports

variable {α : Type} (report : Location → Piece → Option α) (here : Location)

@[simp] theorem reports_nil : reports report here [] = [] := rfl

theorem reports_append (ps qs : List Piece) :
    reports report here (ps ++ qs) =
      reports report here ps ++ reports report (here.after (ps.flatMap chars)) qs := by
  have h := placed_prepend (ps.flatMap chars) [] qs
  rw [List.append_nil] at h
  simp only [reports, placed_append, h, List.filterMap_append, List.filterMap_map,
    Function.comp_def, List.nil_append, Location.after_append]

theorem reports_cons (p : Piece) (ps : List Piece) :
    reports report here (p :: ps) =
      (report here p).toList ++ reports report (here.after p.chars) ps := by
  have h := reports_append report here [p] ps
  simp only [List.singleton_append, List.flatMap_singleton] at h
  rw [h]
  cases hp : report here p <;> simp [reports, placed, hp]

theorem mem_reports {a : α} {ps : List Piece} : a ∈ reports report here ps ↔
    ∃ before p, (before, p) ∈ placed [] ps ∧ report (here.after before) p = some a := by
  simp only [reports, List.mem_filterMap, Prod.exists]

end Reports

theorem exists_cut_of_mem_tokens {here : Location} {ps : List Piece} {t : Token}
    (h : t ∈ tokens here ps) :
    ∃ reading read place, cut reading read ∈ ps ∧ t = reading.toToken read.length place := by
  obtain ⟨before, p, hp, ht⟩ := (mem_reports _ _).1 h
  have hm : p ∈ ps := mem_of_mem_placed hp
  cases p with
  | passed c => contradiction
  | cut reading read => exact ⟨reading, read, here.after before, hm, (Option.some.inj ht).symm⟩

theorem not_isEnd_of_mem_tokens {here : Location} {source : List Char} {t : Token}
    (h : t ∈ tokens here (pieces source)) : ¬ t.isEnd := by
  obtain ⟨reading, read, place, hm, rfl⟩ := exists_cut_of_mem_tokens h
  obtain ⟨more, lexeme, hf, rfl, rfl⟩ := exists_first?_of_mem_pieces hm
  exact Lexeme.not_isEnd_of_first? place hf

theorem exists_mem_diagnostics {ps : List Piece} {fault : Fault} {text lexeme : String}
    {read : List Char} (here : Location) (h : cut (.failure fault text lexeme) read ∈ ps) :
    ∃ d ∈ diagnostics here ps, d.fault = fault := by
  rw [← map_snd_placed [] ps, List.mem_map] at h
  obtain ⟨⟨before, p⟩, hp, rfl⟩ := h
  exact ⟨⟨fault, lexeme, here.after before⟩, (mem_reports _ _).2 ⟨before, _, hp, rfl⟩, rfl⟩

theorem tokens_cons (here : Location) (p : Piece) (ps : List Piece) :
    tokens here (p :: ps) = (p.token? here).toList ++ tokens (here.after p.chars) ps :=
  reports_cons token? here p ps

theorem diagnostics_cons (here : Location) (p : Piece) (ps : List Piece) :
    diagnostics here (p :: ps) =
      (p.diagnostic? here).toList ++ diagnostics (here.after p.chars) ps :=
  reports_cons diagnostic? here p ps

end Piece

namespace Lexer

theorem append_list_append {α : Type} (xs : Array α) (ys zs : List α) :
    xs ++ (ys ++ zs) = xs ++ ys ++ zs :=
  Array.ext' (by simp)

variable {here : Location} {found : Array Diagnostic}

theorem next_nil : (Lexer.mk [] here found).next = (.endOfInput here, ⟨[], here, found⟩) := rfl

theorem passing_cons {c : Char} {rest : List Char} (h : Lead.passes c) :
    passing here found (c :: rest) =
      passing (here.pass c) (found ++ ((Piece.passed c).diagnostic? here).toList) rest := by
  rcases Lead.passes_iff.1 h with hl | hl <;> simp [passing, Piece.diagnostic?, hl]

theorem passing_cons_of_not {c : Char} {rest : List Char} (h : ¬ Lead.passes c) :
    passing here found (c :: rest) = ⟨c :: rest, here, found⟩ := by
  rw [Lead.passes_iff] at h
  simp only [passing]
  cases hl : Lead.ofChar c <;> simp_all

theorem next_passed {c : Char} {rest : List Char} (h : Lead.passes c) :
    (Lexer.mk (c :: rest) here found).next =
      (Lexer.mk rest (here.pass c)
        (found ++ ((Piece.passed c).diagnostic? here).toList)).next := by
  simp only [next, skip, passing_cons h]

theorem accept_of_first? {lexer : Lexer} {lexeme : Lexeme}
    (h : Lexeme.first? lexer.unread = some lexeme) :
    lexer.accept lexeme =
      ⟨lexeme.rest, lexer.location.after lexeme.read,
        lexer.diagnostics ++ (lexeme.diagnostic? lexer.location).toList⟩ := by
  have hne := (Lexeme.cutFrom_of_first? h).1
  simp only [accept, Lexeme.stop_eq_after lexer.location (Lexeme.returned_of_first? h) hne]
  cases lexeme.diagnostic? lexer.location <;> simp

theorem skip_of_first? (here : Location) (found : Array Diagnostic) {source : List Char}
    {lexeme : Lexeme} (h : Lexeme.first? source = some lexeme) :
    (Lexer.mk source here found).skip = ⟨source, here, found⟩ := by
  cases source with
  | nil => rfl
  | cons c rest =>
      refine passing_cons_of_not fun hp => ?_
      rw [Lead.first?_cons_eq_none_iff.2 hp] at h
      contradiction

theorem next_cut (here : Location) (found : Array Diagnostic) {source : List Char}
    {lexeme : Lexeme} (h : Lexeme.first? source = some lexeme) :
    (Lexer.mk source here found).next =
      (lexeme.token here, ⟨lexeme.rest, here.after lexeme.read,
        found ++ (lexeme.diagnostic? here).toList⟩) := by
  have hs := skip_of_first? here found h
  rw [next_of_first?_eq_some (by rw [hs]; exact h), hs, accept_of_first? h]

theorem drain_of_isEnd {lexer : Lexer} (before : Array Token) (h : lexer.next.1.isEnd) :
    lexer.drain before = (before.push lexer.next.1, lexer.next.2) := by
  rw [drain]
  simp [h]

theorem drain_of_not_isEnd {lexer : Lexer} (before : Array Token) (h : ¬ lexer.next.1.isEnd) :
    lexer.drain before = lexer.next.2.drain (before.push lexer.next.1) := by
  rw [drain]
  simp [h]

theorem drain_before (lexer : Lexer) (before : Array Token) :
    lexer.drain before = (before ++ lexer.tokenize.1, lexer.tokenize.2) := by
  induction hn : lexer.unread.length using Nat.strongRecOn generalizing lexer before with
  | ind n ih =>
      simp only [tokenize]
      by_cases he : lexer.next.1.isEnd
      · simp [drain_of_isEnd _ he]
      · have hl := length_next_lt he
        rw [drain_of_not_isEnd before he, drain_of_not_isEnd #[] he,
          ih _ (hn ▸ hl) lexer.next.2 _ rfl, ih _ (hn ▸ hl) lexer.next.2 (#[].push _) rfl]
        simp

theorem tokenize_of_isEnd {lexer : Lexer} (h : lexer.next.1.isEnd) :
    lexer.tokenize = (#[lexer.next.1], lexer.next.2) :=
  drain_of_isEnd #[] h

theorem tokenize_of_not_isEnd {lexer : Lexer} (h : ¬ lexer.next.1.isEnd) :
    lexer.tokenize = (#[lexer.next.1] ++ lexer.next.2.tokenize.1, lexer.next.2.tokenize.2) := by
  rw [tokenize, drain_of_not_isEnd #[] h]
  exact drain_before lexer.next.2 #[lexer.next.1]

theorem tokenize_ne_nil (lexer : Lexer) : lexer.tokenize.1.toList ≠ [] := by
  by_cases h : lexer.next.1.isEnd
  · simp [tokenize_of_isEnd h]
  · simp [tokenize_of_not_isEnd h]

theorem tokenize_congr {lexer other : Lexer} (h : lexer.next = other.next) :
    lexer.tokenize = other.tokenize := by
  by_cases he : other.next.1.isEnd
  · rw [tokenize_of_isEnd he, tokenize_of_isEnd (h ▸ he), h]
  · rw [tokenize_of_not_isEnd he, tokenize_of_not_isEnd (h ▸ he), h]

/-- Draining reports every piece, each where the characters before it lead. -/
theorem tokenize_eq (source : List Char) :
    (Lexer.mk source here found).tokenize =
      ((Piece.tokens here (pieces source) ++ [Token.endOfInput (here.after source)]).toArray,
        ⟨[], here.after source, found ++ Piece.diagnostics here (pieces source)⟩) := by
  induction source using pieces_induction generalizing here found with
  | nil =>
      rw [tokenize_of_isEnd (by rw [next_nil]; rfl)]
      simp [next_nil, Piece.tokens, Piece.diagnostics]
  | passed c rest h ih =>
      rw [tokenize_congr (next_passed h), ih, pieces_cons h]
      simp only [Piece.tokens_cons, Piece.diagnostics_cons, append_list_append]
      simp [Piece.chars, Piece.token?]
  | cut source lexeme h ih =>
      have hn := next_cut here found h
      have ha : here.after source = (here.after lexeme.read).after lexeme.rest := by
        rw [← Location.after_append, (Lexeme.cutFrom_of_first? h).2]
      rw [tokenize_of_not_isEnd (by rw [hn]; exact Lexeme.not_isEnd_of_first? here h), hn,
        ih, pieces_of_first? h]
      simp only [Piece.tokens_cons, Piece.diagnostics_cons, append_list_append, ha]
      simp [Piece.chars, Piece.token?, Piece.diagnostic?, Lexeme.token, Lexeme.diagnostic?]

theorem tokenize_ofString (source : String) :
    (ofString source).tokenize =
      ((Piece.tokens .start (pieces source.toList) ++
          [Token.endOfInput (Location.start.after source.toList)]).toArray,
        ⟨[], Location.start.after source.toList,
          (Piece.diagnostics .start (pieces source.toList)).toArray⟩) := by
  rw [ofString, tokenize_eq source.toList]
  simp

end Lexer
end TokenScope
