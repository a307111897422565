import TokenScope.Proofs.Lexing.Stream

/-!
Reading up to a limit, from any state of a lexer. The limit is exact: it is kept if and only
if all that is left to read, the end of input included, is within it. A lexer that hits it has
lost the tokens it read and nothing else; it stands where reading as many tokens one by one
leads, goes on from there, and has kept what it had found and what it has found since.
-/

namespace TokenScope
namespace Lexer

/-- What reading one token finds: each stray before it, then the failure of its own scan. -/
def finds (lexer : Lexer) : List Diagnostic :=
  Piece.diagnostics lexer.location ((lexer.unread.takeWhile Lead.passes).map .passed) ++
    lexer.failure?.toList

/-- What reading the first tokens finds, one after the other. -/
def findings : Lexer → Nat → List Diagnostic
  | _, 0 => []
  | lexer, n + 1 => lexer.finds ++ lexer.next.2.findings n

theorem diagnostics_skip (lexer : Lexer) :
    lexer.skip.diagnostics = lexer.diagnostics ++
      Piece.diagnostics lexer.location ((lexer.unread.takeWhile Lead.passes).map .passed) := by
  simp only [skip, passing_eq]

theorem diagnostics_next_eq_finds (lexer : Lexer) :
    lexer.next.2.diagnostics = lexer.diagnostics ++ lexer.finds := by
  rw [finds, append_list_append, ← diagnostics_skip, failure?]
  cases hf : Lexeme.first? lexer.skip.unread with
  | none => simp [next_of_first?_eq_none hf]
  | some lexeme =>
      rw [next_of_first?_eq_some hf, accept_of_first? hf]
      rfl

/-- Reading adds to the diagnostics of a lexer and takes none away. -/
theorem diagnostics_after (lexer : Lexer) (n : Nat) :
    (lexer.after n).diagnostics = lexer.diagnostics ++ lexer.findings n := by
  induction n generalizing lexer with
  | zero => simp [after, findings]
  | succ n ih => rw [after_succ, ih, diagnostics_next_eq_finds, findings, append_list_append]

theorem diagnostics_tokenize (lexer : Lexer) :
    lexer.tokenize.2.diagnostics =
      lexer.diagnostics ++ lexer.findings lexer.tokenize.1.size := by
  rw [← after_size_tokenize, diagnostics_after]

/-- What is left to read after some tokens is what was left before without them. -/
theorem tokenize_after {lexer : Lexer} {n : Nat} (h : n < lexer.tokenize.1.size) :
    (lexer.after n).tokenize = ((lexer.tokenize.1.toList.drop n).toArray, lexer.tokenize.2) := by
  induction n generalizing lexer with
  | zero => rfl
  | succ n ih =>
      by_cases he : lexer.next.1.isEnd
      · rw [tokenize_of_isEnd he] at h
        exact absurd h (Nat.not_lt_of_le (Nat.succ_le_succ (Nat.zero_le n)))
      · rw [size_tokenize_of_not_isEnd he] at h
        rw [after_succ, ih (Nat.lt_of_succ_lt_succ h), tokenize_of_not_isEnd he,
          Array.toList_append]
        rfl

theorem given_eq_take_tokenize {lexer : Lexer} {n : Nat} (h : n ≤ lexer.tokenize.1.size) :
    lexer.given n = lexer.tokenize.1.toList.take n := by
  rw [given_eq_stream, stream, List.take_append_of_le_length h]

/-- What a lexer that is asked for all its tokens within a limit answers, and what is left. -/
structure ReadsWithin (lexer : Lexer) (limit : Nat) : Prop where
  succeeds : (∃ tokens, (lexer.collect limit).1 = .ok tokens) ↔
    lexer.tokenize.1.size ≤ limit
  whole : lexer.tokenize.1.size ≤ limit →
    lexer.collect limit = (.ok lexer.tokenize.1, lexer.tokenize.2)
  stopped : limit < lexer.tokenize.1.size →
    lexer.collect limit = (.error ⟨limit⟩, lexer.after limit)
  untouched : lexer.collect 0 = (.error ⟨0⟩, lexer)
  /-- The tokens read, which are lost. -/
  lost : limit < lexer.tokenize.1.size →
    lexer.given limit = lexer.tokenize.1.toList.take limit
  /-- All others are still there. -/
  left : limit < lexer.tokenize.1.size →
    (lexer.collect limit).2.tokenize =
      ((lexer.tokenize.1.toList.drop limit).toArray, lexer.tokenize.2)
  found : limit < lexer.tokenize.1.size →
    (lexer.collect limit).2.diagnostics = lexer.diagnostics ++ lexer.findings limit
  recorded : lexer.tokenize.1.size ≤ limit →
    ∃ r, Recording.record lexer limit = .ok r ∧ r.tokens = lexer.tokenize.1 ∧
      r.position = 0 ∧
      r.diagnostics = lexer.diagnostics ++ lexer.findings lexer.tokenize.1.size
  refused : limit < lexer.tokenize.1.size → Recording.record lexer limit = .error ⟨limit⟩

/-- Every limit is exact in every state. -/
theorem readsWithin (lexer : Lexer) (limit : Nat) : lexer.ReadsWithin limit := by
  have stopped (k : Nat) (h : k < lexer.tokenize.1.size) :
      lexer.collect k = (.error ⟨k⟩, lexer.after k) := by
    rw [collect_eq, if_neg (Nat.not_le_of_lt h)]
  constructor
  case succeeds =>
    rw [collect_eq]
    split
    · exact iff_of_true ⟨_, rfl⟩ ‹_›
    · exact iff_of_false (fun ⟨_, ht⟩ => by contradiction) ‹_›
  case whole =>
    intro h
    rw [collect_eq, if_pos h]
  case stopped => exact stopped limit
  case untouched => exact stopped 0 lexer.size_tokenize_pos
  case lost => exact fun h => given_eq_take_tokenize (Nat.le_of_lt h)
  case left =>
    intro h
    rw [stopped limit h]
    exact tokenize_after h
  case found =>
    intro h
    rw [stopped limit h]
    exact diagnostics_after lexer limit
  case recorded =>
    intro h
    rw [record_eq, if_pos h]
    exact ⟨_, rfl, rfl, rfl, diagnostics_tokenize lexer⟩
  case refused =>
    intro h
    rw [record_eq, if_neg (Nat.not_le_of_lt h)]

end Lexer
end TokenScope
