import TokenScope.Proofs.Lexing.Partition
import TokenScope.Proofs.Lexing.Stream

/-!
The end of input among the tokens of a lexer. In whatever state the lexer is, its end of input
comes last and nowhere else, at the place behind all that was left to read; each token before it
takes at least one character.
-/

namespace TokenScope
namespace Lexer

variable {lexer : Lexer}

theorem toList_tokenize (lexer : Lexer) :
    lexer.tokenize.1.toList = Piece.tokens lexer.location (pieces lexer.unread) ++
      [Token.endOfInput (lexer.location.after lexer.unread)] := by
  obtain ⟨unread, here, found⟩ := lexer
  rw [tokenize_eq unread]

theorem size_tokenize_le (lexer : Lexer) :
    lexer.tokenize.1.size ≤ lexer.unread.length + 1 := by
  have hp := Piece.length_tokens_le lexer.location (Piece.sound_of_mem_pieces lexer.unread)
  rw [flatMap_chars_pieces] at hp
  rw [← Array.length_toList, toList_tokenize, List.length_append, List.length_singleton]
  omega

theorem eq_endOfInput_of_mem_tokenize {t : Token} (ht : t ∈ lexer.tokenize.1) (he : t.isEnd) :
    t = .endOfInput (lexer.location.after lexer.unread) := by
  rw [← Array.mem_toList_iff, toList_tokenize, List.mem_append, List.mem_singleton] at ht
  obtain ht | rfl := ht
  · exact absurd he (Piece.not_isEnd_of_mem_tokens ht)
  · rfl

/-- The end of input is the token with the last index. -/
theorem isEnd_iff_of_getElem?_tokenize {i : Nat} {t : Token} (ht : lexer.tokenize.1[i]? = some t) :
    t.isEnd ↔ i + 1 = lexer.tokenize.1.size := by
  rw [← Array.getElem?_toList] at ht
  rw [← Array.length_toList]
  rw [toList_tokenize] at ht ⊢
  rw [List.length_append, List.length_singleton, Nat.add_right_cancel_iff]
  by_cases hi : i < (Piece.tokens lexer.location (pieces lexer.unread)).length
  · rw [List.getElem?_append_left hi] at ht
    exact iff_of_false (Piece.not_isEnd_of_mem_tokens (List.mem_of_getElem? ht)) (Nat.ne_of_lt hi)
  · rw [List.getElem?_append_right (Nat.le_of_not_lt hi), List.getElem?_singleton] at ht
    obtain ⟨hzero, rfl⟩ := Option.ite_some_none_eq_some.1 ht
    exact iff_of_true rfl (Nat.le_antisymm (Nat.sub_eq_zero_iff_le.1 hzero) (Nat.le_of_not_lt hi))

end Lexer
end TokenScope
