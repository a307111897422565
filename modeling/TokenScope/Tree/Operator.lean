import TokenScope.Token.Kind

/-!
The operators an expression node can carry: six that join two operands, three
that wrap one, and one that marks a leaf.
-/

namespace TokenScope

inductive Operator where
  | pow | add | sub | mod | mul | div
  | neg | pos
  | paren
  | leaf
deriving DecidableEq, Inhabited

namespace Operator

def all : List Operator := [pow, add, sub, mod, mul, div, neg, pos, paren, leaf]

def ofKind? : TokenKind → Option Operator
  | .add => some add
  | .sub => some sub
  | .mul => some mul
  | .div => some div
  | _ => none

def isBinary : Operator → Bool
  | pow | add | sub | mod | mul | div => true
  | _ => false

def isUnary : Operator → Bool
  | neg | pos | paren => true
  | _ => false

/-- How the operator opens the written form of its node. -/
def symbol : Operator → String
  | pow => "^"
  | add => "+"
  | sub => "-"
  | mod => "%"
  | mul => "*"
  | div => "/"
  | neg => "neg"
  | pos => "pos"
  | paren => "paren"
  | leaf => "atom"

def longName : Operator → String
  | pow => "Pow"
  | add => "Add"
  | sub => "Sub"
  | mod => "Mod"
  | mul => "Mul"
  | div => "Div"
  | neg => "UnaryNeg"
  | pos => "UnaryPos"
  | paren => "Paren"
  | leaf => "AtomRef"

/-- A sign before an operand: minus negates and plus keeps; others stay as they are. -/
def asSign : Operator → Operator
  | sub => neg
  | add => pos
  | op => op

end Operator
end TokenScope
