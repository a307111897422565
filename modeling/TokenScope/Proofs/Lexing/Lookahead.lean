import TokenScope.Proofs.Lexing.Partition
import TokenScope.Proofs.Lexing.Separation

/-!
How far a scan looks ahead. A scan that stops before the end of the text has seen the
character that stops it, and no scan gives back more than one; hence a lexeme with two
characters behind it is cut from every longer text as well, and so is each one before it.
-/

namespace TokenScope

namespace NumberState

/-- A run that something stops does not ask what comes behind that. -/
theorem run_append_of_ne_nil {state : NumberState} {before rest : List Char} (tail : List Char)
    (h : (state.run before rest).2.2 ≠ []) :
    state.run before (rest ++ tail) =
      ((state.run before rest).1, (state.run before rest).2.1,
        (state.run before rest).2.2 ++ tail) := by
  induction rest generalizing state before with
  | nil => exact absurd rfl h
  | cons c rest ih =>
      rw [List.cons_append, run, run]
      rw [run] at h
      cases hs : state.step c with
      | none => rfl
      | some next =>
          rw [hs] at h
          exact ih h

/-- At most a dot is given back. -/
theorem length_rest_verdict_le (state : NumberState) (read rest : List Char) :
    (state.verdict read rest).rest.length ≤ rest.length + 1 := by
  cases state with
  | pointAfterDigits =>
      cases hr : read.getLast? <;> simp [verdict, hr]
  | _ => exact Nat.le_succ _

end NumberState

namespace Lexeme

theorem number_append (c : Char) {rest : List Char} (tail : List Char)
    (h : 2 ≤ (number c rest).rest.length) :
    number c (rest ++ tail) = (number c rest).followedBy tail := by
  have hleft : ((NumberState.first c).run [c] rest).2.2 ≠ [] := by
    have hle : (number c rest).rest.length ≤
        ((NumberState.first c).run [c] rest).2.2.length + 1 :=
      NumberState.length_rest_verdict_le _ _ _
    exact List.length_pos_iff.1 (by omega)
  simp only [number, NumberState.run_append_of_ne_nil tail hleft]
  exact NumberState.verdict_append _ _ _ _

theorem word_append {source : List Char} (tail : List Char) (h : (word source).rest ≠ []) :
    word (source ++ tail) = (word source).followedBy tail := by
  have hlen : (source.takeWhile isWordCharacter).length ≠ source.length := by
    intro he
    refine h (List.dropWhile_eq_nil_iff.2 ?_)
    exact List.takeWhile_eq_self_iff.1 ((List.takeWhile_prefix _).eq_of_length he)
  have hleft : ¬ (source.dropWhile isWordCharacter).isEmpty := fun he =>
    h (List.isEmpty_iff.1 he)
  simp only [word, List.takeWhile_append, if_neg hlen, List.dropWhile_append, if_neg hleft]
  rfl

/-- A string with something behind it has been closed. -/
theorem closed_quoted {rest : List Char} (h : (quoted rest).rest ≠ []) :
    (quoted rest).reading.Closed := by
  obtain ⟨-, hq⟩ | ⟨body, left, hb, rfl⟩ := quoted_cases rest
  · rw [hq] at h
    exact absurd rfl h
  · rw [quoted_eq left hb]
    trivial

/-- Two characters behind a lexeme settle it. -/
theorem first?_append {source : List Char} {lexeme : Lexeme} (tail : List Char)
    (h : first? source = some lexeme) (hroom : 2 ≤ lexeme.rest.length) :
    first? (source ++ tail) = some (lexeme.followedBy tail) := by
  have hne : lexeme.rest ≠ [] := List.length_pos_iff.1 (Nat.lt_of_succ_lt hroom)
  apply first?_append_of tail h
  · rintro c rest rfl
    exact number_append c tail hroom
  · rintro rest rfl
    exact quoted_append rest tail (closed_quoted hne)
  · rintro source rfl
    exact word_append tail hne

end Lexeme

namespace Piece

/-- A stretch that ends two characters before the end of a text is there in every longer one,
and as many are before it. -/
theorem getElem?_stretches_append {read source : List Char} (tail : List Char) {i : Nat}
    {s : Stretch} (h : (stretches read (pieces source))[i]? = some s)
    (hroom : s.stop + 2 ≤ read.length + source.length) :
    (stretches read (pieces (source ++ tail)))[i]? = some s := by
  induction source using pieces_induction generalizing read i with
  | nil => simp at h
  | passed c rest hp ih =>
      rw [pieces_cons hp, stretches_passed] at h
      rw [List.cons_append, pieces_cons hp, stretches_passed]
      apply ih h
      rw [List.length_append, List.length_singleton]
      rw [List.length_cons] at hroom
      omega
  | cut source lexeme hf ih =>
      have hsplit := congrArg List.length (Lexeme.cutFrom_of_first? hf).2
      rw [List.length_append] at hsplit
      rw [pieces_of_first? hf, stretches_cut] at h
      -- the first stretch ends where the lexeme does, and later ones begin behind it
      have hbehind : read.length + lexeme.read.length ≤ s.stop := by
        cases i with
        | zero =>
            obtain rfl := Option.some.inj h
            exact Nat.le_of_eq stop_cut.symm
        | succ i =>
            have hfirst := first_le_of_mem_stretches (List.mem_of_getElem? h)
            rw [List.length_append] at hfirst
            exact Nat.le_trans hfirst (Nat.le_add_right _ _)
      have hahead : 2 ≤ lexeme.rest.length := by omega
      rw [pieces_of_first? (Lexeme.first?_append tail hf hahead), stretches_cut]
      cases i with
      | zero => exact h
      | succ i =>
          apply ih h
          rw [List.length_append]
          omega

end Piece

namespace Lexer

/-- The tokens before the end of input are those of the stretches. -/
theorem getElem?_tokenize_of_stretches {source : String} {i : Nat} {s : Stretch}
    (h : (Piece.stretches [] (pieces source.toList))[i]? = some s) :
    (ofString source).tokenize.1[i]? = some s.token := by
  have htoken : (Piece.tokens .start (pieces source.toList))[i]? = some s.token := by
    have hmap := Piece.map_token_stretches [] (pieces source.toList)
    rw [Location.after_nil] at hmap
    rw [← hmap, List.getElem?_map, h]
    rfl
  rw [tokenize_ofString, List.getElem?_toArray,
    List.getElem?_append_left (List.getElem?_eq_some_iff.1 htoken).1, htoken]

/-- A token with two characters of the text behind it stays what it is, at its index and at its
place, whatever is appended to the text. -/
theorem getElem?_tokenize_append {source : String} {i : Nat} {s : Stretch}
    (hs : ((ofString source).stretches source.toList)[i]? = some s)
    (hroom : s.stop + 2 ≤ source.toList.length) (more : String) :
    (ofString source).tokenize.1[i]? = some s.token ∧
    (ofString (source ++ more)).tokenize.1[i]? = some s.token ∧
    ((ofString (source ++ more)).stretches (source ++ more).toList)[i]? = some s := by
  rw [stretches_eq (hasRead_ofString source)] at hs
  have hmore : (Piece.stretches [] (pieces (source ++ more).toList))[i]? = some s := by
    rw [String.toList_append]
    exact Piece.getElem?_stretches_append more.toList hs (by simpa using hroom)
  refine ⟨getElem?_tokenize_of_stretches hs, getElem?_tokenize_of_stretches hmore, ?_⟩
  rwa [stretches_eq (hasRead_ofString (source ++ more))]

/-- Digits with a point behind them that is given back, and a character that keeps it so. -/
theorem getElem?_tokenize_append_point :
    let source := "@ 12.x"
    let s : Stretch := ⟨⟨.integer, "12", ⟨1, 3⟩, 2⟩, 2⟩
    ((ofString source).stretches source.toList)[0]? = some s ∧
      s.stop + 2 ≤ source.toList.length ∧
      (ofString (source ++ "5e\"")).tokenize.1[0]? = some s.token := by
  intro source s
  have hs : ((ofString source).stretches source.toList)[0]? = some s := by decide +kernel
  have hroom : s.stop + 2 ≤ source.toList.length := by decide
  exact ⟨hs, hroom, (getElem?_tokenize_append hs hroom "5e\"").2.1⟩

/-- One character behind the digits is too few if it is a point. -/
example : (ofString "12.").tokenize.1[0]? ≠ (ofString "12.5").tokenize.1[0]? := by
  decide +kernel

end Lexer
end TokenScope
