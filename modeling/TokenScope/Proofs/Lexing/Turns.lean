import TokenScope.Proofs.Lexing.Pieces

/-!
One token read turn by turn. Reading loops over blanks and strays, then over the characters of
one lexeme; a turn is one pass through one of these loops. The loop over a number goes on with
or without a character, and each state has to find out for itself that none is left. Every turn
leaves the token to come as it was and leaves less to do, so that a number of turns known
beforehand gives the token.
-/

namespace TokenScope
namespace NumberState

/-- The state after the first turn, whether there is a character or not. -/
def start (ch : Option Char) : NumberState :=
  if ch = some '0' then zero else if ch = some '.' then leadingPoint else digits

def wholeOnward (ch : Option Char) : Option NumberState :=
  if ch = some '.' then some pointAfterDigits
  else if ch.any isExponentMarker then some exponentMarker
  else if ch.any Char.isDigit then some digits
  else none

/-- The state after one more turn, or nothing where the loop is left. -/
def onward : NumberState → Option Char → Option NumberState
  | zero, ch => if ch = some 'x' ∨ ch = some 'X' then some hexMarker else wholeOnward ch
  | hexMarker, ch | hexDigits, ch => if ch.any isHexDigit then some hexDigits else none
  | digits, ch => wholeOnward ch
  | leadingPoint, ch | pointAfterDigits, ch => if ch.any Char.isDigit then some fraction else none
  | fraction, ch =>
      if ch.any isExponentMarker then some exponentMarker
      else if ch.any Char.isDigit then some fraction
      else none
  | exponentMarker, ch =>
      if ch = some '+' ∨ ch = some '-' then some exponentSign
      else if ch.any Char.isDigit then some exponentDigits
      else none
  | exponentSign, ch | exponentDigits, ch =>
      if ch.any Char.isDigit then some exponentDigits else none

@[simp] theorem start_some (c : Char) : start (some c) = first c := by
  simp only [start, first, Option.some.injEq]

@[simp] theorem onward_some (state : NumberState) (c : Char) :
    state.onward (some c) = state.step c := by
  cases state <;> simp [onward, step, wholeOnward, whole]

/-- No state stays in the loop at the end of input. -/
@[simp] theorem onward_none (state : NumberState) : state.onward none = none := by
  cases state <;> simp [onward, wholeOnward]

/-- What the rest of the loop makes of the characters it took, latest first, and those left. -/
def scanned (state : NumberState) (taken left : List Char) : Lexeme :=
  let (last, read, rest) := state.run taken left
  last.verdict read rest

theorem scanned_of_step {state next : NumberState} {c : Char} (h : state.step c = some next)
    (taken left : List Char) : state.scanned taken (c :: left) = next.scanned (c :: taken) left := by
  simp only [scanned, run, h]

theorem scanned_of_not_step {state : NumberState} {c : Char} (h : state.step c = none)
    (taken left : List Char) :
    state.scanned taken (c :: left) = state.verdict taken.reverse (c :: left) := by
  simp only [scanned, run, h]

end NumberState

namespace Lexeme

/-- A string literal of which the body is read: closed by what is left, or never closed. -/
def closing (body : List Char) : List Char → Lexeme
  | [] => ⟨.failure .unterminatedString badCharacter (String.ofList body), '"' :: body, [], none⟩
  | quote :: left => ⟨.token .string (String.ofList body), '"' :: body ++ [quote], left, none⟩

theorem quoted_eq_closing (rest : List Char) :
    quoted rest = closing (rest.takeWhile (· ≠ '"')) (rest.dropWhile (· ≠ '"')) := by
  unfold quoted closing
  cases rest.dropWhile (· ≠ '"') <;> rfl

/-- A word of which all characters are read. -/
def ofWord (read rest : List Char) : Lexeme :=
  ⟨.token ((TokenKind.ofReserved? (String.ofList read)).getD .identifier) (String.ofList read),
    read, rest, none⟩

end Lexeme

/-- The token of a lexeme, and the lexer behind it. -/
def Lexer.finish (ready : Lexer) (lexeme : Lexeme) : Token × Lexer :=
  (lexeme.token ready.location, ready.accept lexeme)

theorem Lexer.next_eq_finish {ready : Lexer} {lexeme : Lexeme}
    (h : Lexeme.first? ready.unread = some lexeme) : ready.next = ready.finish lexeme := by
  have hs : ready.skip = ready := skip_of_first? ready.location ready.diagnostics h
  rw [next_of_first?_eq_some (hs.symm ▸ h), hs, finish]

/-- Where reading a token stands. A scan keeps the lexer that stood in front of the lexeme, the
characters it has taken, latest first, and those it has left. -/
inductive Reader where
  | seeking (lexer : Lexer)
  /-- Without a state before the first turn. -/
  | number (ready : Lexer) (state : Option NumberState) (taken left : List Char)
  /-- Behind the opening quote. -/
  | string (ready : Lexer) (taken left : List Char)
  | word (ready : Lexer) (taken left : List Char)

namespace Reader

/-- One turn of the loop that the reader is in: it goes on, or it gives the token. -/
def turn : Reader → Reader ⊕ (Token × Lexer)
  | seeking ⟨[], here, found⟩ => .inr (.endOfInput here, ⟨[], here, found⟩)
  | seeking ⟨c :: rest, here, found⟩ =>
      match Lead.ofChar c with
      | .blank => .inl (seeking ⟨rest, here.pass c, found⟩)
      | .stray =>
          .inl (seeking ⟨rest, here.pass c, found.push ⟨.unexpectedCharacter, c.toString, here⟩⟩)
      | .number => .inl (number ⟨c :: rest, here, found⟩ none [] (c :: rest))
      | .quote => .inl (string ⟨c :: rest, here, found⟩ [] rest)
      | .word => .inl (word ⟨c :: rest, here, found⟩ [] (c :: rest))
      | .sign kind =>
          .inr (Lexer.finish ⟨c :: rest, here, found⟩ ⟨.token kind c.toString, [c], rest, none⟩)
  -- A number takes the character that there is, and goes on without one if there is none.
  | number ready none taken left =>
      .inl (number ready (some (.start left.head?)) (left.head?.toList ++ taken) left.tail)
  | number ready (some state) taken left =>
      match state.onward left.head? with
      | some next => .inl (number ready (some next) (left.head?.toList ++ taken) left.tail)
      | none => .inr (ready.finish (state.verdict taken.reverse left))
  | string ready taken [] => .inr (ready.finish (.closing taken.reverse []))
  | string ready taken (c :: left) =>
      if c = '"' then .inr (ready.finish (.closing taken.reverse (c :: left)))
      else .inl (string ready (c :: taken) left)
  | word ready taken [] => .inr (ready.finish (.ofWord taken.reverse []))
  | word ready taken (c :: left) =>
      if isWordCharacter c then .inl (word ready (c :: taken) left)
      else .inr (ready.finish (.ofWord taken.reverse (c :: left)))

/-- What comes of so many turns, if they are enough. -/
def turns : Nat → Reader → Option (Token × Lexer)
  | 0, _ => none
  | n + 1, reader =>
      match reader.turn with
      | .inl later => later.turns n
      | .inr given => some given

/-- The token to come and the lexer behind it. -/
def outcome : Reader → Token × Lexer
  | seeking lexer => lexer.next
  | number ready none taken left =>
      ready.finish
        ((NumberState.start left.head?).scanned (left.head?.toList ++ taken) left.tail)
  | number ready (some state) taken left => ready.finish (state.scanned taken left)
  | string ready taken left =>
      ready.finish
        (.closing (taken.reverse ++ left.takeWhile (· ≠ '"')) (left.dropWhile (· ≠ '"')))
  | word ready taken left =>
      ready.finish
        (.ofWord (taken.reverse ++ left.takeWhile isWordCharacter)
          (left.dropWhile isWordCharacter))

/-- No more turns than these go on. -/
def remaining : Reader → Nat
  | seeking lexer => lexer.unread.length + 2
  | number _ none _ left => left.length + 1
  | number _ (some _) _ left | string _ _ left | word _ _ left => left.length

/-- A turn that goes on leaves the outcome as it is and less to do; one that does not go on
gives the outcome. -/
def LeadsTo (reader : Reader) : Reader ⊕ (Token × Lexer) → Prop
  | .inl later => later.outcome = reader.outcome ∧ later.remaining < reader.remaining
  | .inr given => given = reader.outcome

variable (ready : Lexer) (taken left : List Char)

theorem leadsTo_turn_seeking (lexer : Lexer) : (seeking lexer).LeadsTo (seeking lexer).turn := by
  obtain ⟨unread, here, found⟩ := lexer
  cases unread with
  | nil => exact Lexer.next_nil.symm
  | cons c rest =>
      simp only [turn]
      cases hl : Lead.ofChar c with
      | blank =>
          have hp : (Lexer.mk (c :: rest) here found).next = _ :=
            Lexer.next_passed (Lead.passes_iff.2 (.inl hl))
          exact ⟨by simp [outcome, hp, Piece.diagnostic?, hl], Nat.lt_succ_self _⟩
      | stray =>
          have hp : (Lexer.mk (c :: rest) here found).next = _ :=
            Lexer.next_passed (Lead.passes_iff.2 (.inr hl))
          exact ⟨by simp [outcome, hp, Piece.diagnostic?, hl], Nat.lt_succ_self _⟩
      | number =>
          have hf : Lexeme.first? (c :: rest) = some (.number c rest) := by
            simp [Lexeme.first?, hl]
          refine ⟨?_, Nat.lt_succ_self _⟩
          rw [outcome, outcome, Lexer.next_eq_finish hf]
          simp [Lexeme.number, NumberState.scanned]
      | quote =>
          have hf : Lexeme.first? (c :: rest) = some (.quoted rest) := by
            simp [Lexeme.first?, hl]
          refine ⟨?_, ?_⟩
          · rw [outcome, outcome, Lexer.next_eq_finish hf, Lexeme.quoted_eq_closing]
            rfl
          · simp only [remaining, List.length_cons]
            omega
      | word =>
          have hf : Lexeme.first? (c :: rest) = some (.word (c :: rest)) := by
            simp [Lexeme.first?, hl]
          refine ⟨?_, ?_⟩
          · rw [outcome, outcome, Lexer.next_eq_finish hf]
            rfl
          · simp only [remaining, List.length_cons]
            omega
      | sign kind =>
          have hf : Lexeme.first? (c :: rest) =
              some ⟨.token kind c.toString, [c], rest, none⟩ := by
            simp [Lexeme.first?, hl]
          exact (Lexer.next_eq_finish hf).symm

theorem leadsTo_turn_number (state : Option NumberState) :
    (number ready state taken left).LeadsTo (number ready state taken left).turn := by
  cases state with
  | none =>
      -- The first turn may take nothing, but it is made only once.
      refine ⟨rfl, ?_⟩
      simp only [remaining, List.length_tail]
      omega
  | some state =>
      cases left with
      | nil =>
          simp only [turn, List.head?_nil, NumberState.onward_none]
          rfl
      | cons c left =>
          simp only [turn, List.head?_cons, NumberState.onward_some]
          cases hs : state.step c with
          | none =>
              simp only [LeadsTo, outcome, NumberState.scanned_of_not_step hs]
          | some next =>
              refine ⟨?_, Nat.lt_succ_self _⟩
              simp only [outcome, NumberState.scanned_of_step hs]
              rfl

theorem leadsTo_turn_string :
    (string ready taken left).LeadsTo (string ready taken left).turn := by
  cases left with
  | nil => simp [turn, LeadsTo, outcome]
  | cons c left =>
      by_cases hc : c = '"'
      · simp [turn, hc, LeadsTo, outcome]
      · rw [turn, if_neg hc]
        exact ⟨by simp [outcome, hc], Nat.lt_succ_self _⟩

theorem leadsTo_turn_word :
    (word ready taken left).LeadsTo (word ready taken left).turn := by
  cases left with
  | nil => simp [turn, LeadsTo, outcome]
  | cons c left =>
      by_cases hc : isWordCharacter c
      · rw [turn, if_pos hc]
        exact ⟨by simp [outcome, hc], Nat.lt_succ_self _⟩
      · simp [turn, hc, LeadsTo, outcome]

theorem leadsTo_turn (reader : Reader) : reader.LeadsTo reader.turn := by
  cases reader with
  | seeking lexer => exact leadsTo_turn_seeking lexer
  | number ready state taken left => exact leadsTo_turn_number ready taken left state
  | string ready taken left => exact leadsTo_turn_string ready taken left
  | word ready taken left => exact leadsTo_turn_word ready taken left

/-- More turns than can go on give the outcome. -/
theorem turns_eq (reader : Reader) {n : Nat} (h : reader.remaining < n) :
    reader.turns n = some reader.outcome := by
  induction n generalizing reader with
  | zero => contradiction
  | succ n ih =>
      have hl := leadsTo_turn reader
      rw [turns]
      cases ht : reader.turn with
      | inr given =>
          rw [ht] at hl
          exact congrArg some hl
      | inl later =>
          rw [ht] at hl
          obtain ⟨houtcome, hless⟩ := hl
          rw [← houtcome]
          exact ih later (by omega)

end Reader

/-- However much is left to read, three turns more than it has characters give the next token. -/
theorem Lexer.turns_seeking (lexer : Lexer) {n : Nat} (h : lexer.unread.length + 2 < n) :
    (Reader.seeking lexer).turns n = some lexer.next :=
  Reader.turns_eq (.seeking lexer) h

/-- One turn finds the number, three take its characters, and in the fifth none is left. -/
example : ((Reader.seeking (.ofString "12.")).turns 4).isNone ∧
    (Reader.seeking (.ofString "12.")).turns 5 = some (Lexer.ofString "12.").next :=
  ⟨rfl, rfl⟩

end TokenScope
