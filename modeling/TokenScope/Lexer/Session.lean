import TokenScope.Recording

/-!
A session answers requests on one lexer, one after the other. All ways of asking
for tokens read from the same stream. A request to record takes the lexer away,
whether the recording succeeds or not, and later requests find it gone.
-/

namespace TokenScope

inductive Request where
  | next
  /-- The next token, or nothing at the end of input. -/
  | item
  | tokenize
  | diagnostics | takeDiagnostics
  | collect (limit : Nat)
  | record (limit : Nat)
deriving DecidableEq

inductive Answer where
  | token (token : Token)
  | item (token : Option Token)
  | tokens (tokens : Array Token)
  | diagnostics (diagnostics : Array Diagnostic)
  | recording (recording : Recording)
  | limitExceeded (e : LimitExceeded)
  | consumed

inductive Session where
  | ready (lexer : Lexer)
  | consumed

namespace Lexer

def item (lexer : Lexer) : Option Token × Lexer :=
  let (token, later) := lexer.next
  (if token.isEnd then none else some token, later)

def answer (lexer : Lexer) : Request → Answer × Session
  | .next =>
      let (token, later) := lexer.next
      (.token token, .ready later)
  | .item =>
      let (token, later) := lexer.item
      (.item token, .ready later)
  | .tokenize =>
      let (tokens, later) := lexer.tokenize
      (.tokens tokens, .ready later)
  | .diagnostics => (.diagnostics lexer.diagnostics, .ready lexer)
  | .takeDiagnostics =>
      let (taken, later) := lexer.takeDiagnostics
      (.diagnostics taken, .ready later)
  | .collect limit =>
      match lexer.collect limit with
      | (.ok tokens, later) => (.tokens tokens, .ready later)
      | (.error e, later) => (.limitExceeded e, .ready later)
  | .record limit =>
      match Recording.record lexer limit with
      | .ok recording => (.recording recording, .consumed)
      | .error e => (.limitExceeded e, .consumed)

end Lexer

namespace Session

/-- Why a consumed session answers nothing. -/
def consumedMessage : String := "the lexer was moved into a history"

def answer : Session → Request → Answer × Session
  | ready lexer, request => lexer.answer request
  | consumed, _ => (.consumed, consumed)

def run (session : Session) : List Request → List Answer × Session
  | [] => ([], session)
  | request :: rest =>
      let (first, later) := session.answer request
      let (answers, last) := later.run rest
      (first :: answers, last)

end Session
end TokenScope
