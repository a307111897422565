import Mathlib.Data.List.Forall2
import TokenScope.Proofs.Lexing.Places

/-!
Reading loses nothing. The tokens of a text cover stretches of it that are nonempty, in
order and apart; what lies between is a blank or one reported stray each; and every
token, quotes and failures included, still spells the characters of its stretch.
-/

namespace TokenScope

/-- A token and the index of its first character. -/
structure Stretch where
  token : Token
  first : Nat
deriving DecidableEq

namespace Stretch

def stop (s : Stretch) : Nat := s.first + s.token.width

def covers (s : Stretch) (i : Nat) : Bool := s.first ≤ i && i < s.stop

def chars (s : Stretch) (source : List Char) : List Char :=
  (source.drop s.first).take s.token.width

theorem covers_iff {s : Stretch} {i : Nat} : s.covers i ↔ s.first ≤ i ∧ i < s.stop := by
  simp [covers]

end Stretch

/-- The tokens before the end of input. Each starts where the lexer stands after the tokens
before it and the blanks and strays that follow them. -/
def Lexer.stretches (lexer : Lexer) (source : List Char) : List Stretch :=
  (List.range (lexer.tokenize.1.size - 1)).map fun n =>
    ⟨(lexer.after n).next.1, (lexer.after n).skip.position source⟩

/-- What a run of stretches says of a text, its tokens and its diagnostics. -/
structure Partitions (source : List Char) (tokens : List Token) (run : List Stretch)
    (found : List Diagnostic) : Prop where
  complete : ∃ here, tokens = run.map (·.token) ++ [Token.endOfInput here]
  proper : ∀ s ∈ run, ¬ s.token.isEnd
  nonempty : ∀ s ∈ run, 0 < s.token.width
  within : ∀ s ∈ run, s.stop ≤ source.length
  ordered : run.Pairwise fun s t => s.stop ≤ t.first
  /-- Outside the stretches each character but the blanks has a diagnostic, in order. -/
  strays : found.filter (·.fault = .unexpectedCharacter) =
    (List.range source.length).filterMap fun i =>
      if run.any (·.covers i) then none else strayAt source i
  texts : ∀ s ∈ run, ¬ s.token.isError → s.chars source =
    if s.token.kind = .string then '"' :: s.token.text.toList ++ ['"'] else s.token.text.toList
  /-- Error tokens and the other diagnostics go together, one by one. -/
  failures : List.Forall₂
    (fun s d => s.token.location = d.location ∧ s.chars source = d.spelled)
    (run.filter (·.token.isError)) (found.filter (·.fault ≠ .unexpectedCharacter))

namespace Piece

def Sound : Piece → Prop
  | passed c => Lead.passes c
  | cut reading read => read ≠ [] ∧ reading.spelled = read ∧ reading.Genuine

theorem sound_of_mem_pieces (source : List Char) : ∀ p ∈ pieces source, p.Sound := by
  apply forall_mem_pieces
  · intro c h
    exact h
  · intro source lexeme h
    exact ⟨(Lexeme.cutFrom_of_first? h).1, Lexeme.spells_of_first? h⟩

theorem length_chars_le {p : Piece} {ps : List Piece} (h : p ∈ ps) :
    p.chars.length ≤ (ps.flatMap chars).length := by
  rw [List.flatMap_def]
  exact (List.sublist_flatten_of_mem (List.mem_map_of_mem h)).length_le

/-- Each token takes at least one character. -/
theorem length_tokens_le (here : Location) {ps : List Piece} (h : ∀ p ∈ ps, p.Sound) :
    (tokens here ps).length ≤ (ps.flatMap chars).length := by
  induction ps generalizing here with
  | nil => exact Nat.le_refl 0
  | cons p ps ih =>
      rw [List.forall_mem_cons] at h
      have hrest := ih (here.after p.chars) h.2
      have hfirst : (p.token? here).toList.length ≤ p.chars.length := by
        cases p with
        | passed c => exact Nat.zero_le _
        | cut reading read => exact List.length_pos_iff.2 h.1.1
      rw [tokens_cons, List.flatMap_cons, List.length_append, List.length_append]
      exact Nat.add_le_add hfirst hrest

def stretches (read : List Char) (ps : List Piece) : List Stretch :=
  (placed read ps).filterMap fun q =>
    (q.2.token? (Location.start.after q.1)).map fun token => ⟨token, q.1.length⟩

@[simp] theorem stretches_nil (read : List Char) : stretches read [] = [] := rfl

theorem stretches_passed (read : List Char) (c : Char) (ps : List Piece) :
    stretches read (passed c :: ps) = stretches (read ++ [c]) ps := rfl

theorem stretches_cut (read : List Char) (reading : Reading) (more : List Char)
    (ps : List Piece) :
    stretches read (cut reading more :: ps) =
      ⟨reading.toToken more.length (Location.start.after read), read.length⟩ ::
        stretches (read ++ more) ps := rfl

end Piece

namespace Lexer

theorem stretches_of_skip_eq {lexer other : Lexer} (source : List Char)
    (hs : lexer.skip = other.skip) : lexer.stretches source = other.stretches source := by
  have hn : lexer.next = other.next := by simp only [next, hs]
  have ha (n : Nat) : (lexer.after n).skip = (other.after n).skip := by
    cases n with
    | zero => exact hs
    | succ n => rw [after_succ, after_succ, hn]
  simp only [stretches, tokenize_congr hn, next, ha]

theorem stretches_of_isEnd {lexer : Lexer} (source : List Char) (h : lexer.next.1.isEnd) :
    lexer.stretches source = [] := by
  rw [stretches, tokenize_of_isEnd h]
  rfl

theorem stretches_of_not_isEnd {lexer : Lexer} (source : List Char)
    (h : ¬ lexer.next.1.isEnd) :
    lexer.stretches source =
      ⟨lexer.next.1, lexer.skip.position source⟩ :: lexer.next.2.stretches source := by
  have hpos : 0 < lexer.next.2.tokenize.1.size :=
    List.length_pos_iff.2 (tokenize_ne_nil lexer.next.2)
  have hsize : lexer.tokenize.1.size - 1 = lexer.next.2.tokenize.1.size - 1 + 1 := by
    rw [tokenize_of_not_isEnd h, Array.size_append, List.size_toArray, List.length_singleton]
    omega
  rw [stretches, hsize, List.range_succ_eq_map, List.map_cons, List.map_map]
  simp only [stretches, ← after_succ]
  rfl

theorem stretches_eq {lexer : Lexer} {source read : List Char} (h : lexer.HasRead source read) :
    lexer.stretches source = Piece.stretches read (pieces lexer.unread) := by
  obtain ⟨unread, here, found⟩ := lexer
  induction unread using pieces_induction generalizing read here found with
  | nil =>
      rw [pieces_nil, stretches_of_isEnd source rfl]
      rfl
  | passed c rest hp ih =>
      have hs : (Lexer.mk (c :: rest) here found).skip = (Lexer.mk rest (here.pass c)
          (found ++ ((Piece.passed c).diagnostic? here).toList)).skip := passing_cons hp
      rw [stretches_of_skip_eq source hs, pieces_cons hp, Piece.stretches_passed]
      apply ih
      refine ⟨?_, ?_⟩
      · simpa using h.split
      · rw [Location.after_append, ← h.place]
        rfl
  | cut unread lexeme hf ih =>
      have hn := next_cut here found hf
      have hs : (Lexer.mk unread here found).skip.position source = read.length := by
        rw [skip_of_first? here found hf, h.position_eq]
      rw [stretches_of_not_isEnd source
        (by rw [hn]; exact Lexeme.not_isEnd_of_first? here hf), hn, hs,
        pieces_of_first? hf, Piece.stretches_cut]
      refine congrArg₂ _ ?_ (ih _ _ ⟨?_, ?_⟩)
      · rw [← h.place]
        rfl
      · rw [List.append_assoc, (Lexeme.cutFrom_of_first? hf).2, h.split]
      · rw [Location.after_append, ← h.place]

end Lexer

namespace Piece

theorem chars_cut (read more rest : List Char) (reading : Reading) (here : Location) :
    Stretch.chars ⟨reading.toToken more.length here, read.length⟩ (read ++ (more ++ rest)) =
      more := by
  rw [Stretch.chars, Reading.width_toToken, List.drop_left, List.take_left]

theorem stop_cut {before more : List Char} {reading : Reading} {here : Location} :
    Stretch.stop ⟨reading.toToken more.length here, before.length⟩ =
      before.length + more.length := by
  rw [Stretch.stop, Reading.width_toToken]

theorem first_le_of_mem_stretches {read : List Char} {ps : List Piece} {s : Stretch}
    (h : s ∈ stretches read ps) : read.length ≤ s.first := by
  induction ps generalizing read with
  | nil => simp at h
  | cons p ps ih =>
      cases p with
      | passed c =>
          have hl := ih h
          rw [List.length_append] at hl
          omega
      | cut reading more =>
          rw [stretches_cut, List.mem_cons] at h
          obtain rfl | h := h
          · exact Nat.le_refl _
          · have hl := ih h
            rw [List.length_append] at hl
            omega

/-- What each stretch owes to the piece it comes from. -/
theorem of_mem_stretches {read : List Char} {ps : List Piece} (hp : ∀ p ∈ ps, p.Sound)
    {s : Stretch} (h : s ∈ stretches read ps) :
    ∃ reading more before rest here, (cut reading more).Sound ∧
      read ++ ps.flatMap chars = before ++ (more ++ rest) ∧
      s = ⟨reading.toToken more.length here, before.length⟩ := by
  induction ps generalizing read with
  | nil => simp at h
  | cons p ps ih =>
      rw [List.forall_mem_cons] at hp
      cases p with
      | passed c =>
          obtain ⟨reading, more, before, rest, here, hs, hr, rfl⟩ := ih hp.2 h
          refine ⟨reading, more, before, rest, here, hs, ?_, rfl⟩
          rw [← hr, List.flatMap_cons, List.append_assoc, chars]
      | cut reading more =>
          rw [stretches_cut, List.mem_cons] at h
          obtain rfl | h := h
          · exact ⟨reading, more, read, ps.flatMap chars, _, hp.1, rfl, rfl⟩
          · obtain ⟨reading', more', before, rest, here, hs, hr, rfl⟩ := ih hp.2 h
            refine ⟨reading', more', before, rest, here, hs, ?_, rfl⟩
            rw [← hr, List.flatMap_cons, List.append_assoc, chars]

theorem map_token_stretches (read : List Char) (ps : List Piece) :
    (stretches read ps).map (·.token) = tokens (Location.start.after read) ps := by
  induction ps generalizing read with
  | nil => rfl
  | cons p ps ih =>
      rw [tokens_cons, ← Location.after_append, ← ih]
      cases p <;> rfl

theorem pairwise_stretches (read : List Char) (ps : List Piece) :
    (stretches read ps).Pairwise fun s t => s.stop ≤ t.first := by
  induction ps generalizing read with
  | nil => exact .nil
  | cons p ps ih =>
      cases p with
      | passed c => exact ih (read ++ [c])
      | cut reading more =>
          rw [stretches_cut, List.pairwise_cons]
          refine ⟨fun t ht => ?_, ih (read ++ more)⟩
          have hf := first_le_of_mem_stretches ht
          rw [List.length_append] at hf
          rwa [stop_cut]

theorem not_covers_of_lt {read : List Char} {ps : List Piece} {i : Nat} (h : i < read.length) :
    (stretches read ps).any (·.covers i) = false := by
  rw [List.any_eq_false]
  intro s hs hc
  have hf := first_le_of_mem_stretches hs
  have := (Stretch.covers_iff.1 hc).1
  omega

/-- Behind the start of a lexeme its own characters are covered, and those of later ones. -/
theorem any_covers_cut {read : List Char} {reading : Reading} {more : List Char}
    {ps : List Piece} {i : Nat} (h : read.length ≤ i) :
    (stretches read (cut reading more :: ps)).any (·.covers i) =
      (decide (i < read.length + more.length) ||
        (stretches (read ++ more) ps).any (·.covers i)) := by
  rw [stretches_cut, List.any_cons, Stretch.covers, stop_cut, decide_eq_true h, Bool.true_and]

theorem filter_stray_cut {reading : Reading} {more : List Char} (h : (cut reading more).Sound)
    (here : Location) :
    ((cut reading more).diagnostic? here).toList.filter (·.fault = .unexpectedCharacter) = [] := by
  obtain ⟨-, -, hg⟩ := h
  cases reading with
  | token kind text => rfl
  | failure fault text lexeme =>
      rw [List.filter_eq_nil_iff]
      intro d hd
      obtain rfl := List.mem_singleton.1 hd
      exact fun he => hg (of_decide_eq_true he)

theorem strays_eq (read : List Char) {ps : List Piece} (hp : ∀ p ∈ ps, p.Sound) :
    (diagnostics (Location.start.after read) ps).filter (·.fault = .unexpectedCharacter) =
      (List.range' read.length (ps.flatMap chars).length).filterMap fun i =>
        if (stretches read ps).any (·.covers i) then none
        else strayAt (read ++ ps.flatMap chars) i := by
  induction ps generalizing read with
  | nil => rfl
  | cons p ps ih =>
      rw [List.forall_mem_cons] at hp
      cases p with
      | passed c =>
          have hs := ih (read ++ [c]) hp.2
          have hc : (stretches (read ++ [c]) ps).any (·.covers read.length) = false :=
            not_covers_of_lt (by simp)
          have hd := strayAt_append read (ps.flatMap chars) hp.1
          rw [List.length_append, List.append_assoc, Location.after_append] at hs
          rw [diagnostics_cons, List.filter_append, chars, hs, List.flatMap_cons, chars,
            List.length_append, List.length_singleton, Nat.add_comm 1, List.range'_succ,
            List.filterMap_cons, stretches_passed, hc, List.singleton_append, hd]
          by_cases hl : Lead.ofChar c = .stray <;> simp [diagnostic?, hl]
      | cut reading more =>
          have hs := ih (read ++ more) hp.2
          rw [List.length_append, List.append_assoc, Location.after_append] at hs
          rw [diagnostics_cons, List.filter_append, filter_stray_cut hp.1, chars, hs,
            List.flatMap_cons, chars, List.length_append, ← List.range'_append_1,
            List.filterMap_append]
          refine congrArg₂ _ ?_ ?_
          · -- the lexeme's own characters
            symm
            rw [List.filterMap_eq_nil_iff]
            intro i hi
            rw [List.mem_range'_1] at hi
            rw [any_covers_cut hi.1, decide_eq_true hi.2, Bool.true_or, if_pos rfl]
          · -- those behind it, which it does not cover
            apply List.filterMap_congr
            intro i hi
            rw [List.mem_range'_1] at hi
            have hle : read.length ≤ i := by omega
            have hlt : ¬ i < read.length + more.length := by omega
            rw [any_covers_cut hle, decide_eq_false hlt, Bool.false_or]

theorem failures_eq (read : List Char) {ps : List Piece} (hp : ∀ p ∈ ps, p.Sound) :
    List.Forall₂ (fun s d => s.token.location = d.location ∧
        s.chars (read ++ ps.flatMap chars) = d.spelled)
      ((stretches read ps).filter (·.token.isError))
      ((diagnostics (Location.start.after read) ps).filter (·.fault ≠ .unexpectedCharacter)) := by
  induction ps generalizing read with
  | nil => exact .nil
  | cons p ps ih =>
      rw [List.forall_mem_cons] at hp
      rw [diagnostics_cons, List.filter_append, List.flatMap_cons]
      cases p with
      | passed c =>
          have hs := ih (read ++ [c]) hp.2
          rw [List.append_assoc, Location.after_append] at hs
          have hd : ((passed c).diagnostic? (Location.start.after read)).toList.filter
              (·.fault ≠ .unexpectedCharacter) = [] := by
            by_cases hl : Lead.ofChar c = .stray <;> simp [diagnostic?, hl]
          rw [hd]
          exact hs
      | cut reading more =>
          have hs := ih (read ++ more) hp.2
          rw [List.append_assoc, Location.after_append] at hs
          obtain ⟨-, hspell, hg⟩ := hp.1
          have hc := chars_cut read more (ps.flatMap chars) reading (Location.start.after read)
          rw [stretches_cut, List.filter_cons]
          cases reading with
          | token kind text =>
              have he : ¬ ((Reading.token kind text).toToken more.length
                  (Location.start.after read)).isError := by
                rw [Token.isError, decide_eq_true_eq]
                exact hg.2
              rw [if_neg he]
              exact hs
          | failure fault text lexeme =>
              have hf : fault ≠ .unexpectedCharacter := hg
              have hd : ((cut (.failure fault text lexeme) more).diagnostic?
                  (Location.start.after read)).toList.filter (·.fault ≠ .unexpectedCharacter) =
                    [⟨fault, lexeme, Location.start.after read⟩] := by
                simp [diagnostic?, Reading.toDiagnostic?, hf]
              have he : ((Reading.failure fault text lexeme).toToken more.length
                  (Location.start.after read)).isError := rfl
              rw [hd, if_pos he]
              exact .cons ⟨rfl, hc.trans hspell.symm⟩ hs

end Piece

/-- The tokens of a text and its strays and blanks share the text out between them. -/
theorem partitions_tokenize (source : String) :
    Partitions source.toList (Lexer.ofString source).tokenize.1.toList
      ((Lexer.ofString source).stretches source.toList)
      (Lexer.ofString source).tokenize.2.diagnostics.toList := by
  have hp := Piece.sound_of_mem_pieces source.toList
  have hflat := flatMap_chars_pieces source.toList
  have hrun : (Lexer.ofString source).stretches source.toList =
      Piece.stretches [] (pieces source.toList) :=
    Lexer.stretches_eq (Lexer.hasRead_ofString source)
  have hmem : ∀ s ∈ Piece.stretches [] (pieces source.toList), ∃ reading more before rest here,
      (Piece.cut reading more).Sound ∧ source.toList = before ++ (more ++ rest) ∧
      s = ⟨reading.toToken more.length here, before.length⟩ := by
    intro s hs
    have h := Piece.of_mem_stretches hp hs
    rwa [hflat] at h
  rw [hrun, Lexer.tokenize_ofString]
  constructor
  case complete =>
    refine ⟨Location.start.after source.toList, ?_⟩
    rw [Piece.map_token_stretches]
    rfl
  case proper =>
    intro s hs
    obtain ⟨reading, more, before, rest, here, ⟨-, -, hg⟩, -, rfl⟩ := hmem s hs
    cases reading <;> simp_all [Reading.toToken, Token.isEnd, Reading.Genuine]
  case nonempty =>
    intro s hs
    obtain ⟨reading, more, before, rest, here, ⟨hne, -, -⟩, -, rfl⟩ := hmem s hs
    rw [Reading.width_toToken]
    exact List.length_pos_iff.2 hne
  case within =>
    intro s hs
    obtain ⟨reading, more, before, rest, here, -, hr, rfl⟩ := hmem s hs
    rw [Piece.stop_cut, hr, List.length_append, List.length_append]
    omega
  case ordered => exact Piece.pairwise_stretches [] _
  case strays =>
    have h := Piece.strays_eq [] hp
    rw [hflat] at h
    rw [List.range_eq_range']
    exact h
  case texts =>
    intro s hs he
    obtain ⟨reading, more, before, rest, here, ⟨-, hspell, -⟩, hr, rfl⟩ := hmem s hs
    rw [hr, Piece.chars_cut]
    cases reading with
    | token kind text => exact hspell.symm
    | failure fault text lexeme => exact absurd rfl he
  case failures =>
    have h := Piece.failures_eq [] hp
    rw [List.nil_append, hflat] at h
    exact h

end TokenScope
