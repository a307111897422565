import TokenScope.Location
import TokenScope.Token.Kind

/-!
A token remembers where it started and how many characters it took, so that a
pane can point back into the text. Neither takes part when tokens are compared.
-/

namespace TokenScope

structure Token where
  kind : TokenKind
  text : String
  location : Location
  /-- How many characters were taken, quotes included. -/
  width : Nat
deriving DecidableEq, Inhabited

namespace Token

def endOfInput (here : Location) : Token :=
  ⟨.endOfInput, "", here, 0⟩

def isEnd (token : Token) : Bool := token.kind = .endOfInput

def isError (token : Token) : Bool := token.kind = .error

/-- Tokens of one kind and text are alike, wherever they stand. -/
def alike (a b : Token) : Bool :=
  a.kind = b.kind && a.text = b.text

def render (token : Token) : String :=
  "<" ++ token.kind.name ++ ", " ++ token.text ++ ">"

@[simp] theorem isEnd_endOfInput (here : Location) : (endOfInput here).isEnd = true := rfl

end Token
end TokenScope
