import TokenScope.Lexeme

/-!
Numbers and the dot. An automaton runs over the unread characters as far as it
can; the state it stops in decides what was read. A dot after digits that no
digit follows is given back, so `12.x` is a number, a dot and a word. The lexeme
is always a nonempty front of what was unread, whatever state the run ends in.
-/

namespace TokenScope

def isHexDigit (c : Char) : Bool :=
  c.isDigit || ('a' ≤ c && c ≤ 'f') || ('A' ≤ c && c ≤ 'F')

inductive NumberState where
  | zero | hexMarker | hexDigits
  | digits
  | leadingPoint | pointAfterDigits | fraction
  | exponentMarker | exponentSign | exponentDigits
deriving DecidableEq

namespace NumberState

/-- The state after the first character, which is a digit or a dot. -/
def first (c : Char) : NumberState :=
  if c = '0' then zero else if c = '.' then leadingPoint else digits

def isExponentMarker (c : Char) : Bool := c = 'e' || c = 'E'

def whole (c : Char) : Option NumberState :=
  if c = '.' then some pointAfterDigits
  else if isExponentMarker c then some exponentMarker
  else if c.isDigit then some digits
  else none

/-- The state after one more character, or nothing where the run stops. -/
def step : NumberState → Char → Option NumberState
  | zero, c => if c = 'x' ∨ c = 'X' then some hexMarker else whole c
  | hexMarker, c | hexDigits, c => if isHexDigit c then some hexDigits else none
  | digits, c => whole c
  | leadingPoint, c | pointAfterDigits, c => if c.isDigit then some fraction else none
  | fraction, c =>
      if isExponentMarker c then some exponentMarker
      else if c.isDigit then some fraction
      else none
  | exponentMarker, c =>
      if c = '+' ∨ c = '-' then some exponentSign
      else if c.isDigit then some exponentDigits
      else none
  | exponentSign, c | exponentDigits, c => if c.isDigit then some exponentDigits else none

/-- Runs as far as possible: the last state, what was read and what was not.
The characters read before are given latest first. -/
def run (state : NumberState) (before : List Char) :
    List Char → NumberState × List Char × List Char
  | [] => (state, before.reverse, [])
  | c :: rest =>
      match state.step c with
      | some next => next.run (c :: before) rest
      | none => (state, before.reverse, c :: rest)

/-- What a run that stopped in a state has read. -/
def verdict (state : NumberState) (read rest : List Char) : Lexeme :=
  let text := String.ofList read
  match state with
  | zero | digits | hexDigits => ⟨.token .integer text, read, rest, none⟩
  | fraction | exponentDigits => ⟨.token .double text, read, rest, none⟩
  | leadingPoint => ⟨.token .dot text, read, rest, none⟩
  | pointAfterDigits =>
      ⟨.token .integer (String.ofList read.dropLast), read.dropLast,
        read.getLast?.toList ++ rest, read.getLast?⟩
  | hexMarker => ⟨.failure .malformedHex Lexeme.badCharacter text, read, rest, none⟩
  | exponentMarker => ⟨.failure .malformedExponent Lexeme.badCharacter text, read, rest, none⟩
  | exponentSign => ⟨.failure .malformedExponent text text, read, rest, none⟩

/-- Something was read, and in the state after digits and a dot it ends with that
dot and has more before it. -/
private def Supports (state : NumberState) (before : List Char) : Prop :=
  before ≠ [] ∧ (state = pointAfterDigits → ∃ ds, ds ≠ [] ∧ before = '.' :: ds)

private theorem step_eq_pointAfterDigits {state : NumberState} {c : Char}
    (h : state.step c = some pointAfterDigits) : c = '.' := by
  cases state <;> simp only [step, whole] at h <;> (repeat' split at h) <;> simp_all

private theorem Supports.step {state next : NumberState} {before : List Char} {c : Char}
    (h : state.Supports before) (hs : state.step c = some next) :
    next.Supports (c :: before) := by
  refine ⟨by simp, fun hn => ⟨before, h.1, ?_⟩⟩
  subst hn
  rw [step_eq_pointAfterDigits hs]

private theorem verdict_cutFrom {state : NumberState} {before rest : List Char}
    (h : state.Supports before) :
    (state.verdict before.reverse rest).CutFrom (before.reverse ++ rest) ∧
      ∀ c ∈ (state.verdict before.reverse rest).returned, c = '.' := by
  obtain ⟨hne, hdot⟩ := h
  cases state with
  | pointAfterDigits =>
      obtain ⟨ds, hds, rfl⟩ := hdot rfl
      simp [verdict, Lexeme.CutFrom, hds]
  | zero | hexMarker | hexDigits | digits | leadingPoint | fraction | exponentMarker
  | exponentSign | exponentDigits => simp [verdict, Lexeme.CutFrom, hne]

private theorem verdict_run_cutFrom (rest : List Char) {state : NumberState} {before : List Char}
    (h : state.Supports before) :
    let (last, read, left) := state.run before rest
    (last.verdict read left).CutFrom (before.reverse ++ rest) ∧
      ∀ c ∈ (last.verdict read left).returned, c = '.' := by
  induction rest generalizing state before with
  | nil => exact verdict_cutFrom h
  | cons c rest ih =>
      cases hs : state.step c with
      | none =>
          simp only [run, hs]
          exact verdict_cutFrom h
      | some next =>
          simp only [run, hs]
          simpa using ih (h.step hs)

end NumberState

/-- The number or dot that starts with `c`. -/
def Lexeme.number (c : Char) (rest : List Char) : Lexeme :=
  let (last, read, left) := (NumberState.first c).run [c] rest
  last.verdict read left

/-- Nothing is lost, and only a dot is ever given back. -/
theorem Lexeme.number_cutFrom (c : Char) (rest : List Char) :
    (number c rest).CutFrom (c :: rest) ∧ ∀ d ∈ (number c rest).returned, d = '.' := by
  have h : (NumberState.first c).Supports [c] := by
    refine ⟨by simp, fun h => ?_⟩
    simp only [NumberState.first] at h
    repeat' split at h
    all_goals simp at h
  simpa [number] using NumberState.verdict_run_cutFrom rest h

end TokenScope
