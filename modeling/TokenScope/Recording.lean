import TokenScope.Lexer
import TokenScope.Recording.Index

/-!
A recording is everything one lexer gave, with a cursor on one of its tokens.
The cursor steps one token at a time, and says so when it stands at an end, or
jumps to either end. Nothing but the cursor ever changes.
-/

namespace TokenScope

/-- The cursor is already at the end it was asked to step beyond. -/
inductive StepError where
  | atStart | atEnd
deriving DecidableEq

def StepError.message : StepError → String
  | atStart => "Already at the first token"
  | atEnd => "Already at the last token"

structure Recording where
  tokens : Array Token
  diagnostics : Array Diagnostic
  position : Nat
  index : TokenIndex

namespace Recording

def ofRun (tokens : Array Token) (diagnostics : Array Diagnostic) : Recording :=
  ⟨tokens, diagnostics, 0, .ofTokens tokens⟩

/-- Records all that a lexer gives through the end of its input. Diagnostics that the lexer
already held come first. -/
def record (lexer : Lexer) (limit : Nat) : Except LimitExceeded Recording :=
  match lexer.collect limit with
  | (.ok tokens, drained) => .ok (ofRun tokens drained.diagnostics)
  | (.error e, _) => .error e

def size (r : Recording) : Nat := r.tokens.size

def isEmpty (r : Recording) : Bool := r.tokens.isEmpty

def current? (r : Recording) : Option Token := r.tokens[r.position]?

def atStart (r : Recording) : Bool := r.position = 0

def atEnd (r : Recording) : Bool := r.size ≤ r.position + 1

def count (r : Recording) (kind : TokenKind) : Nat := r.index.count kind

def errorCount (r : Recording) : Nat := r.count .error

def onLine (r : Recording) (line : Nat) : List (Nat × Token) :=
  (r.index.onLine line).filterMap fun i => r.tokens[i]?.map (i, ·)

def forward (r : Recording) : Except StepError Recording :=
  if r.atEnd then .error .atEnd else .ok { r with position := r.position + 1 }

def back (r : Recording) : Except StepError Recording :=
  if r.atStart then .error .atStart else .ok { r with position := r.position - 1 }

def toStart (r : Recording) : Recording := { r with position := 0 }

def toEnd (r : Recording) : Recording := { r with position := r.size - 1 }

inductive Move where
  | forward | back | toStart | toEnd
deriving DecidableEq

/-- The recording after a move, and the reason if the cursor could not make it. -/
def move (r : Recording) : Move → Recording × Option StepError
  | .forward => match r.forward with
      | .ok later => (later, none)
      | .error e => (r, some e)
  | .back => match r.back with
      | .ok earlier => (earlier, none)
      | .error e => (r, some e)
  | .toStart => (r.toStart, none)
  | .toEnd => (r.toEnd, none)

end Recording
end TokenScope
