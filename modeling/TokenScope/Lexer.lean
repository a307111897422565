import TokenScope.Lexeme.Lead

/-!
A lexer holds the unread characters of a text, the place it has reached and the
diagnostics recorded so far. Reading a token passes the blanks and strays before
it and then takes one lexeme. Every token but the end of input takes at least one
character, so draining a lexer ends; at the end of input nothing changes any more.
-/

namespace TokenScope

structure Lexer where
  unread : List Char
  location : Location
  /-- Oldest first. -/
  diagnostics : Array Diagnostic
deriving Inhabited

/-- More tokens were there than the limit allows. -/
structure LimitExceeded where
  limit : Nat
deriving DecidableEq

def LimitExceeded.message (e : LimitExceeded) : String :=
  "Token limit exceeded: more than " ++ toString e.limit ++ " tokens"

namespace Lexer

def ofString (source : String) : Lexer :=
  ⟨source.toList, .start, #[]⟩

/-- The lexer at the first unread character that is neither blank nor stray. -/
def passing (here : Location) (found : Array Diagnostic) : List Char → Lexer
  | [] => ⟨[], here, found⟩
  | c :: rest =>
      match Lead.ofChar c with
      | .blank => passing (here.pass c) found rest
      | .stray => passing (here.pass c) (found.push ⟨.unexpectedCharacter, c.toString, here⟩) rest
      | _ => ⟨c :: rest, here, found⟩

/-- Passes blanks in silence and records each stray. -/
def skip (lexer : Lexer) : Lexer :=
  passing lexer.location lexer.diagnostics lexer.unread

def accept (lexer : Lexer) (lexeme : Lexeme) : Lexer where
  unread := lexeme.rest
  location := lexeme.stop lexer.location
  diagnostics :=
    match lexeme.diagnostic? lexer.location with
    | some diagnostic => lexer.diagnostics.push diagnostic
    | none => lexer.diagnostics

def next (lexer : Lexer) : Token × Lexer :=
  let ready := lexer.skip
  match Lexeme.first? ready.unread with
  | none => (.endOfInput ready.location, ready)
  | some lexeme => (lexeme.token ready.location, ready.accept lexeme)

theorem length_passing_le (here : Location) (found : Array Diagnostic) (cs : List Char) :
    (passing here found cs).unread.length ≤ cs.length := by
  induction cs generalizing here found with
  | nil => simp [passing]
  | cons c cs ih =>
      simp only [passing]
      split
      · exact Nat.le_succ_of_le (ih _ _)
      · exact Nat.le_succ_of_le (ih _ _)
      · simp

theorem length_skip_le (lexer : Lexer) : lexer.skip.unread.length ≤ lexer.unread.length :=
  length_passing_le _ _ _

theorem next_of_first?_eq_none {lexer : Lexer}
    (h : Lexeme.first? lexer.skip.unread = none) :
    lexer.next = (.endOfInput lexer.skip.location, lexer.skip) := by
  simp [next, h]

theorem next_of_first?_eq_some {lexer : Lexer} {lexeme : Lexeme}
    (h : Lexeme.first? lexer.skip.unread = some lexeme) :
    lexer.next = (lexeme.token lexer.skip.location, lexer.skip.accept lexeme) := by
  simp [next, h]

/-- A token that is not the end of input takes at least one character. -/
theorem length_next_lt {lexer : Lexer} (h : ¬ lexer.next.1.isEnd) :
    lexer.next.2.unread.length < lexer.unread.length := by
  cases hf : Lexeme.first? lexer.skip.unread with
  | none => simp [next_of_first?_eq_none hf] at h
  | some lexeme =>
      rw [next_of_first?_eq_some hf]
      exact Nat.lt_of_lt_of_le (Lexeme.cutFrom_of_first? hf).rest_length_lt lexer.length_skip_le

def drain (lexer : Lexer) (before : Array Token) : Array Token × Lexer :=
  let step := lexer.next
  if _ : step.1.isEnd then (before.push step.1, step.2)
  else step.2.drain (before.push step.1)
termination_by lexer.unread.length
decreasing_by exact length_next_lt ‹_›

/-- All that is left to read, the end of input included. -/
def tokenize (lexer : Lexer) : Array Token × Lexer :=
  lexer.drain #[]

/-- Reads on through the end of input unless the limit is reached first. -/
def drainWithin (limit : Nat) (lexer : Lexer) (before : Array Token) :
    Except LimitExceeded (Array Token) × Lexer :=
  if limit ≤ before.size then (.error ⟨limit⟩, lexer)
  else
    let step := lexer.next
    if _ : step.1.isEnd then (.ok (before.push step.1), step.2)
    else step.2.drainWithin limit (before.push step.1)
termination_by lexer.unread.length
decreasing_by exact length_next_lt ‹_›

/-- All that is left to read, if that is at most `limit` tokens with the end of input
among them. Past the limit the tokens read are lost and the lexer stays where it is. -/
def collect (lexer : Lexer) (limit : Nat) : Except LimitExceeded (Array Token) × Lexer :=
  lexer.drainWithin limit #[]

def takeDiagnostics (lexer : Lexer) : Array Diagnostic × Lexer :=
  (lexer.diagnostics, { lexer with diagnostics := #[] })

/-- How many tokens a lexer gives when nobody asks for fewer. -/
def defaultLimit : Nat := 1000000

end Lexer
end TokenScope
