import Mathlib.Data.List.Induction
import Mathlib.Data.List.TakeWhile
import TokenScope.Proofs.Lexing.Pieces

/-!
Places in closed form. A lexer keeps its place character by character, and takes a step
back where a scan gives a dot back; the place is nevertheless always read off the
characters before the read position: one line for each line feed, one column for each
character since the last. Tokens and diagnostics get the places of their first characters.
-/

namespace TokenScope
namespace Location

/-- The place of the character with an index in a text, or of the end. -/
def ofIndex (source : List Char) (i : Nat) : Location :=
  ⟨1 + (source.take i).count '\n', 1 + ((source.take i).reverse.takeWhile (· ≠ '\n')).length⟩

theorem start_after (cs : List Char) :
    start.after cs = ⟨1 + cs.count '\n', 1 + (cs.reverse.takeWhile (· ≠ '\n')).length⟩ := by
  induction cs using List.reverseRecOn with
  | nil => rfl
  | append_singleton cs c ih =>
      rw [after_append, ih, after_cons, after_nil, pass]
      by_cases hc : c = '\n'
      · simp [hc, Nat.add_assoc]
      · simp [hc, Nat.add_comm]

theorem ofIndex_append (read rest : List Char) :
    ofIndex (read ++ rest) read.length = start.after read := by
  rw [ofIndex, List.take_left, start_after]

end Location

namespace Lead

theorem first?_dropWhile_eq_none_iff {cs : List Char} :
    Lexeme.first? (cs.dropWhile passes) = none ↔ cs.dropWhile passes = [] := by
  have hd := List.head?_dropWhile_not (p := passes) cs
  cases h : cs.dropWhile passes with
  | nil => simp [Lexeme.first?]
  | cons c rest =>
      rw [h] at hd
      rw [first?_cons_eq_none_iff]
      simp_all

end Lead

/-- The diagnostic of the character with an index, if it is not a blank. -/
def strayAt (source : List Char) (i : Nat) : Option Diagnostic :=
  match source[i]? with
  | none => none
  | some c =>
      if Lead.isBlank c then none
      else some ⟨.unexpectedCharacter, c.toString, .ofIndex source i⟩

theorem strayAt_append (read : List Char) {c : Char} (rest : List Char) (h : Lead.passes c) :
    strayAt (read ++ c :: rest) read.length =
      (Piece.passed c).diagnostic? (Location.start.after read) := by
  have hp := Lead.passes_iff.1 h
  have hd := Lead.describes_ofChar c
  simp only [strayAt, Location.ofIndex_append, Piece.diagnostic?]
  rcases hp with hp | hp <;> rw [hp] at hd ⊢ <;> simp_all [Lead.Describes]

theorem diagnostics_passed (read gap rest : List Char) (h : ∀ c ∈ gap, Lead.passes c) :
    Piece.diagnostics (Location.start.after read) (gap.map .passed) =
      (List.range' read.length gap.length).filterMap (strayAt (read ++ gap ++ rest)) := by
  induction gap generalizing read with
  | nil => rfl
  | cons c gap ih =>
      have hs := strayAt_append read (gap ++ rest) (h c (by simp))
      have hg := ih (read ++ [c]) fun d hd => h d (by simp [hd])
      rw [Location.after_append, List.length_append, List.append_assoc read] at hg
      rw [List.map_cons, Piece.diagnostics_cons, List.length_cons, List.range'_succ,
        List.append_assoc, List.filterMap_cons, List.cons_append, hs, Piece.chars, hg,
        List.append_assoc]
      cases (Piece.passed c).diagnostic? (Location.start.after read) <;> rfl

namespace Lexer

def after (lexer : Lexer) : Nat → Lexer
  | 0 => lexer
  | n + 1 => (lexer.after n).next.2

/-- The index of the next unread character. -/
def position (lexer : Lexer) (source : List Char) : Nat :=
  source.length - lexer.unread.length

theorem passing_eq (here : Location) (found : Array Diagnostic) (cs : List Char) :
    passing here found cs =
      ⟨cs.dropWhile Lead.passes, here.after (cs.takeWhile Lead.passes),
        found ++ Piece.diagnostics here ((cs.takeWhile Lead.passes).map .passed)⟩ := by
  induction cs generalizing here found with
  | nil => simp [passing, Piece.diagnostics]
  | cons c cs ih =>
      by_cases hp : Lead.passes c
      · rw [passing_cons hp, ih, List.dropWhile_cons_of_pos hp, List.takeWhile_cons_of_pos hp]
        rw [List.map_cons, Piece.diagnostics_cons, append_list_append]
        rfl
      · rw [passing_cons_of_not hp, List.dropWhile_cons_of_neg hp, List.takeWhile_cons_of_neg hp]
        simp [Piece.diagnostics]

/-- The lexer has read the first characters of a text and is placed right after them. -/
structure HasRead (lexer : Lexer) (source read : List Char) : Prop where
  split : read ++ lexer.unread = source
  place : lexer.location = Location.start.after read

theorem after_succ (lexer : Lexer) (n : Nat) : lexer.after (n + 1) = lexer.next.2.after n := by
  induction n with
  | zero => rfl
  | succ n ih => rw [after, ih, after]

namespace HasRead

variable {lexer : Lexer} {source read : List Char}

theorem position_eq (h : lexer.HasRead source read) : lexer.position source = read.length := by
  rw [position, ← h.split, List.length_append, Nat.add_sub_cancel_right]

theorem location_eq (h : lexer.HasRead source read) :
    lexer.location = .ofIndex source (lexer.position source) := by
  rw [h.position_eq, ← h.split, Location.ofIndex_append, h.place]

theorem unread_eq (h : lexer.HasRead source read) :
    lexer.unread = source.drop (lexer.position source) := by
  rw [h.position_eq, ← h.split, List.drop_left]

theorem skip (h : lexer.HasRead source read) :
    lexer.skip.HasRead source (read ++ lexer.unread.takeWhile Lead.passes) := by
  rw [Lexer.skip, passing_eq]
  refine ⟨?_, ?_⟩
  · rw [List.append_assoc, List.takeWhile_append_dropWhile, h.split]
  · rw [Location.after_append, h.place]

theorem next (h : lexer.HasRead source read) : ∃ more, more.length = lexer.next.1.width ∧
    lexer.next.2.HasRead source (read ++ lexer.unread.takeWhile Lead.passes ++ more) := by
  have hs := h.skip
  cases hf : Lexeme.first? lexer.skip.unread with
  | none =>
      rw [next_of_first?_eq_none hf]
      exact ⟨[], rfl, by simpa using hs⟩
  | some lexeme =>
      rw [next_of_first?_eq_some hf, accept_of_first? hf]
      refine ⟨lexeme.read, ?_, ?_, ?_⟩
      · rw [Lexeme.token, Reading.width_toToken]
      · rw [List.append_assoc, (Lexeme.cutFrom_of_first? hf).2, hs.split]
      · rw [Location.after_append, hs.place]

end HasRead

theorem hasRead_ofString (source : String) : (ofString source).HasRead source.toList [] :=
  ⟨rfl, rfl⟩

theorem hasRead_after (source : String) (n : Nat) :
    ∃ read, ((ofString source).after n).HasRead source.toList read := by
  induction n with
  | zero => exact ⟨[], hasRead_ofString source⟩
  | succ n ih =>
      obtain ⟨read, h⟩ := ih
      obtain ⟨more, -, hn⟩ := h.next
      exact ⟨_, hn⟩

/-- The diagnostic of the scan that makes the next token, if that scan fails. -/
def failure? (lexer : Lexer) : Option Diagnostic :=
  (Lexeme.first? lexer.skip.unread).bind fun lexeme => lexeme.diagnostic? lexer.skip.location

theorem isSome_failure?_iff (lexer : Lexer) : lexer.failure?.isSome ↔ lexer.next.1.isError := by
  rw [failure?]
  cases hf : Lexeme.first? lexer.skip.unread with
  | none => simp [next_of_first?_eq_none hf, Token.endOfInput, Token.isError]
  | some lexeme =>
      have hg := (Lexeme.spells_of_first? hf).2
      rw [next_of_first?_eq_some hf]
      cases hr : lexeme.reading <;>
        simp_all [Lexeme.token, Lexeme.diagnostic?, Reading.toToken, Reading.toDiagnostic?,
          Token.isError, Reading.Genuine]

theorem location_of_mem_failure? {lexer : Lexer} {d : Diagnostic} (h : d ∈ lexer.failure?) :
    d.location = lexer.skip.location := by
  obtain ⟨lexeme, -, hd⟩ := Option.bind_eq_some_iff.1 h
  rw [Lexeme.diagnostic?] at hd
  cases hr : lexeme.reading with
  | token kind text =>
      rw [hr] at hd
      contradiction
  | failure fault text word =>
      rw [hr] at hd
      cases hd
      rfl

theorem location_next (lexer : Lexer) : lexer.next.1.location = lexer.skip.location := by
  cases hf : Lexeme.first? lexer.skip.unread with
  | none => rw [next_of_first?_eq_none hf]; rfl
  | some lexeme =>
      rw [next_of_first?_eq_some hf, Lexeme.token, Reading.location_toToken]

theorem isEnd_next_iff (lexer : Lexer) : lexer.next.1.isEnd ↔ lexer.skip.unread = [] := by
  cases hf : Lexeme.first? lexer.skip.unread with
  | none =>
      rw [next_of_first?_eq_none hf]
      rw [skip, passing_eq, Lead.first?_dropWhile_eq_none_iff] at hf
      simp [skip, passing_eq, hf]
  | some lexeme =>
      rw [next_of_first?_eq_some hf]
      have he := Lexeme.not_isEnd_of_first? lexer.skip.location hf
      refine ⟨fun h => absurd h he, fun h => ?_⟩
      rw [h] at hf
      simp [Lexeme.first?] at hf

/-- What one token adds to the diagnostics: each stray before it, then its own failure. -/
theorem diagnostics_next {lexer : Lexer} {source read : List Char}
    (h : lexer.HasRead source read) :
    lexer.next.2.diagnostics.toList = lexer.diagnostics.toList ++
      (List.range' (lexer.position source)
        (lexer.skip.position source - lexer.position source)).filterMap (strayAt source) ++
      lexer.failure?.toList := by
  have hs : lexer.skip.diagnostics.toList = lexer.diagnostics.toList ++
      (List.range' (lexer.position source)
        (lexer.skip.position source - lexer.position source)).filterMap (strayAt source) := by
    rw [h.skip.position_eq, h.position_eq, List.length_append, Nat.add_sub_cancel_left]
    have hg := diagnostics_passed read (lexer.unread.takeWhile Lead.passes)
      (lexer.unread.dropWhile Lead.passes) fun c hc => List.mem_takeWhile_imp hc
    rw [List.append_assoc, List.takeWhile_append_dropWhile, h.split] at hg
    rw [skip, passing_eq, h.place, hg]
    simp
  rw [← hs]
  rw [failure?]
  cases hf : Lexeme.first? lexer.skip.unread with
  | none => simp [next_of_first?_eq_none hf]
  | some lexeme =>
      rw [next_of_first?_eq_some hf, accept_of_first? hf]
      simp

/-- A lexer's place is that of its next unread character; the next token has the place of
its first character, at the end of input that of the end of the text; every stray before
it has its own place, and a failed scan has that of the error token. -/
structure Exact (lexer : Lexer) (source : List Char) : Prop where
  within : lexer.position source ≤ source.length
  unread : lexer.unread = source.drop (lexer.position source)
  place : lexer.location = .ofIndex source (lexer.position source)
  forward : lexer.position source ≤ lexer.skip.position source
  width : lexer.skip.position source + lexer.next.1.width = lexer.next.2.position source
  token : lexer.next.1.location = .ofIndex source (lexer.skip.position source)
  ending : lexer.next.1.isEnd ↔ lexer.skip.position source = source.length
  found : ∃ failure : Option Diagnostic,
    lexer.next.2.diagnostics.toList = lexer.diagnostics.toList ++
      (List.range' (lexer.position source)
        (lexer.skip.position source - lexer.position source)).filterMap (strayAt source) ++
      failure.toList ∧
    (failure.isSome ↔ lexer.next.1.isError) ∧
    ∀ d ∈ failure, d.location = .ofIndex source (lexer.skip.position source)

theorem HasRead.exact {lexer : Lexer} {source read : List Char} (h : lexer.HasRead source read) :
    lexer.Exact source := by
  obtain ⟨more, hw, hn⟩ := h.next
  have hfirst := h.skip.location_eq
  constructor
  case within => exact Nat.sub_le _ _
  case unread => exact h.unread_eq
  case place => exact h.location_eq
  case forward =>
    rw [h.position_eq, h.skip.position_eq, List.length_append]
    omega
  case width =>
    rw [h.skip.position_eq, hn.position_eq, List.length_append, List.length_append,
      List.length_append, hw]
  case token => rw [location_next, hfirst]
  case ending =>
    have hl := congrArg List.length h.skip.split
    rw [List.length_append] at hl
    rw [isEnd_next_iff, h.skip.position_eq, ← List.length_eq_zero_iff]
    omega
  case found =>
    refine ⟨lexer.failure?, diagnostics_next h, isSome_failure?_iff lexer, ?_⟩
    intro d hd
    rw [location_of_mem_failure? hd, hfirst]

/-- Places are exact after any number of tokens. -/
theorem locations_exact (source : String) (n : Nat) :
    ((ofString source).after n).Exact source.toList := by
  obtain ⟨read, h⟩ := hasRead_after source n
  exact h.exact

end Lexer
end TokenScope
