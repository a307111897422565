import Std.Data.HashMap
import TokenScope.Token

/-!
An index over a run of tokens, built in one pass: how many tokens there are of
each kind, and which of them start on each line. The end of input counts as a
token of its kind but starts on no line.
-/

namespace TokenScope

structure TokenIndex where
  counts : Std.HashMap TokenKind Nat
  /-- For a line, the indices of the tokens that start on it, latest first. -/
  starts : Std.HashMap Nat (List Nat)

namespace TokenIndex

def empty : TokenIndex := ⟨∅, ∅⟩

def add (index : TokenIndex) (i : Nat) (token : Token) : TokenIndex where
  counts := index.counts.insert token.kind (index.counts.getD token.kind 0 + 1)
  starts :=
    if token.isEnd then index.starts
    else index.starts.insert token.location.line
      (i :: index.starts.getD token.location.line [])

/-- Adds tokens that stand at consecutive indices. -/
def addAll (index : TokenIndex) (i : Nat) : List Token → TokenIndex
  | [] => index
  | token :: rest => (index.add i token).addAll (i + 1) rest

def ofTokens (tokens : Array Token) : TokenIndex :=
  empty.addAll 0 tokens.toList

def count (index : TokenIndex) (kind : TokenKind) : Nat :=
  index.counts.getD kind 0

/-- The indices of the tokens that start on a line, in order. -/
def onLine (index : TokenIndex) (line : Nat) : List Nat :=
  (index.starts.getD line []).reverse

end TokenIndex
end TokenScope
