import Mathlib.Algebra.BigOperators.Group.List.Basic
import Mathlib.Algebra.GroupWithZero.Nat
import TokenScope.Proofs.Lexing.Ending
import TokenScope.Proofs.Lexing.Findings

/-!
The counts and lines of a recording agree with its tokens, in whatever state the lexer was that
was recorded. Every token is counted once, every token but the end of input is listed on one
line, and the tokens of a line do not overlap, not even where a string runs on to later lines.
-/

namespace TokenScope

/-- Every kind is counted apart. -/
theorem TokenKind.sum_countP (tokens : List Token) :
    (all.map fun kind => tokens.countP (·.kind = kind)).sum = tokens.length := by
  induction tokens with
  | nil => rfl
  | cons token tokens ih =>
      have hone : (all.map fun kind => if token.kind = kind then 1 else 0).sum = 1 := by
        cases token.kind <;> rfl
      simp only [List.countP_cons, decide_eq_true_eq]
      rw [List.sum_map_add, ih, hone, List.length_cons]

namespace Piece

theorem width_of_token? {p : Piece} {here : Location} {t : Token}
    (h : p.token? here = some t) : t.width = p.chars.length := by
  cases p with
  | passed c => contradiction
  | cut reading read =>
      cases h
      exact Reading.width_toToken _ _ _

/-- A later token of a line starts behind all characters of an earlier one. -/
theorem pairwise_columns (here : Location) (ps : List Piece) :
    (tokens here ps).Pairwise fun t u => t.location.line = u.location.line →
      t.location.column + t.width ≤ u.location.column := by
  rw [tokens, reports, List.pairwise_filterMap]
  apply (pairwise_placed_behind [] ps).imp
  rintro q r ⟨more, hm⟩ t ht u hu hline
  rw [location_of_token? ht, location_of_token? hu, hm, Location.after_append] at *
  rw [Location.column_after_of_line_eq hline.symm, width_of_token? ht, List.length_append]
  omega

end Piece

/-- The tokens of a lexer on one line do not overlap. -/
theorem Lexer.pairwise_columns (lexer : Lexer) :
    lexer.tokenize.1.toList.Pairwise fun t u => t.location.line = u.location.line →
      t.location.column + t.width ≤ u.location.column := by
  rw [toList_tokenize, List.pairwise_append]
  refine ⟨Piece.pairwise_columns _ _, List.pairwise_singleton _ _, ?_⟩
  intro t ht u hu hline
  obtain rfl := List.mem_singleton.1 hu
  obtain ⟨before, p, hp, hpt⟩ := (Piece.mem_reports _ _).1 ht
  obtain ⟨more, rest, hm, hr⟩ := Piece.split_of_mem_placed hp
  rw [List.nil_append] at hm
  subst hm
  rw [flatMap_chars_pieces] at hr
  rw [Piece.location_of_token? hpt] at hline ⊢
  simp only [Token.endOfInput, hr, Location.after_append lexer.location] at hline ⊢
  rw [Location.column_after_of_line_eq hline.symm, Piece.width_of_token? hpt, List.length_append]
  omega

/-- How the counts and lines of a recording agree with its tokens. -/
structure Recording.Agrees (r : Recording) : Prop where
  counted : ∀ kind, r.count kind = r.tokens.toList.countP (·.kind = kind)
  total : (TokenKind.all.map r.count).sum = r.size
  oneEnd : r.count .endOfInput = 1
  /-- A line has the tokens that start on it, and none besides. -/
  listed : ∀ line i t, (i, t) ∈ r.onLine line ↔
    r.tokens[i]? = some t ∧ ¬ t.isEnd ∧ t.location.line = line
  /-- In the order of the recording, one behind the other on the line. -/
  ordered : ∀ line, (r.onLine line).Pairwise fun m n =>
    m.1 < n.1 ∧ m.2.location.column + m.2.width ≤ n.2.location.column
  /-- No index of a line leads nowhere. -/
  inRange : ∀ line, (r.onLine line).map Prod.fst = r.index.onLine line ∧
    ∀ i ∈ r.index.onLine line, i < r.size
  onOneLine : ∀ i t, r.tokens[i]? = some t → ¬ t.isEnd →
    ∃! line, i ∈ r.index.onLine line

theorem Recording.agrees_of_record {lexer : Lexer} {limit : Nat} {r : Recording}
    (hr : record lexer limit = .ok r) : r.Agrees := by
  obtain rfl := Lexer.eq_ofRun_of_record hr
  have hcount (kind : TokenKind) : (ofRun lexer.tokenize.1 lexer.tokenize.2.diagnostics).count
      kind = lexer.tokenize.1.toList.countP (·.kind = kind) :=
    TokenIndex.count_ofTokens _ kind
  have hlisted (line i : Nat) (t : Token) := @mem_onLine_ofRun lexer.tokenize.1
    lexer.tokenize.2.diagnostics 0 line i t
  constructor
  case counted => exact hcount
  case total =>
    rw [funext hcount]
    exact TokenKind.sum_countP _
  case oneEnd =>
    rw [hcount, Lexer.toList_tokenize, List.countP_append, List.countP_eq_zero.2, Nat.zero_add]
    · rfl
    · exact fun t ht => Piece.not_isEnd_of_mem_tokens ht
  case listed =>
    intro line i t
    rw [← Token.startsOn_iff]
    exact hlisted line i t
  case ordered =>
    intro line
    apply (pairwise_onLine_ofRun lexer.pairwise_columns _ 0 line).imp_of_mem
    rintro ⟨i, t⟩ ⟨j, u⟩ ht hu ⟨hij, hcolumns⟩
    have htl := (Token.startsOn_iff.1 ((hlisted line i t).1 ht).2).2
    have hul := (Token.startsOn_iff.1 ((hlisted line j u).1 hu).2).2
    exact ⟨hij, hcolumns (htl.trans hul.symm)⟩
  case inRange =>
    exact fun line => ⟨map_fst_onLine_ofRun _ _ 0 line, fun i hi =>
      TokenIndex.lt_size_of_mem_onLine hi⟩
  case onOneLine =>
    intro i t ht he
    have hline (line : Nat) : i ∈ (TokenIndex.ofTokens lexer.tokenize.1).onLine line ↔
        t.location.line = line := by
      rw [TokenIndex.mem_onLine_ofTokens, show lexer.tokenize.1[i]? = some t from ht]
      simp [Token.startsOn, he]
    exact ⟨t.location.line, (hline _).2 rfl, fun line hl => ((hline line).1 hl).symm⟩

/-- A lexer that has read one token already, with a string over two lines ahead of it. -/
theorem Recording.agrees_of_record_broken_number :
    ∃ r, record ((Lexer.ofString "x \"a\nb\" @ 0x\n y").after 1) 4 = .ok r ∧ r.Agrees := by
  have hsize : ((Lexer.ofString "x \"a\nb\" @ 0x\n y").after 1).tokenize.1.size ≤ 4 := by
    decide +kernel
  have hr := Lexer.record_of_size_le hsize
  exact ⟨_, hr, agrees_of_record hr⟩

end TokenScope
