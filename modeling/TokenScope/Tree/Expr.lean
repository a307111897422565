import TokenScope.Token
import TokenScope.Tree.Chain
import TokenScope.Tree.Operator

/-!
Expression trees. A node has an operator, up to two operands and perhaps an atom;
a call is an atom that holds the callee's name and its arguments. Any combination
can be put together; the checked constructors build the sensible ones and refuse
an operator of the wrong arity. Two trees are the same when their shapes agree and
every name, text and operator in them does. A copy is made part by part, and the
arguments of its calls are pushed anew.
-/

namespace TokenScope

inductive AtomKind where
  | string | integer | float | char | var | call
deriving DecidableEq, Inhabited

namespace AtomKind

def all : List AtomKind := [string, integer, float, char, var, call]

def ofKind? : TokenKind → Option AtomKind
  | .integer => some integer
  | .double => some float
  | .string => some string
  | .identifier => some var
  | _ => none

def longName : AtomKind → String
  | string => "String"
  | integer => "Integer"
  | float => "Float"
  | char => "Char"
  | var => "Var"
  | call => "FuncCallRef"

end AtomKind

mutual

structure Expr where
  op : Operator
  left : Option Expr
  right : Option Expr
  atom : Option Atom

/-- The call is there exactly when the kind says so, if the atom is made by
`Atom.plain` or `Atom.ofCall`. -/
structure Atom where
  kind : AtomKind
  text : String
  call : Option Call

structure Call where
  name : String
  arguments : Option (Chain Expr)

end

/-- A part was put where it does not belong. -/
inductive Misuse where
  | callAsPlainAtom
  | notUnary
  | notBinary
deriving DecidableEq

def Misuse.message : Misuse → String
  | callAsPlainAtom => "use Atom::call for calls"
  | notUnary => "assertion failed: op.is_unary()"
  | notBinary => "assertion failed: op.is_binary()"

namespace Atom

def plain (kind : AtomKind) (text : String) : Except Misuse Atom :=
  if kind = .call then .error .callAsPlainAtom else .ok ⟨kind, text, none⟩

/-- A call; the text of the atom is the callee's name. -/
def ofCall (call : Call) : Atom := ⟨.call, call.name, some call⟩

def ofToken? (token : Token) : Option Atom :=
  (AtomKind.ofKind? token.kind).map fun kind => ⟨kind, token.text, none⟩

end Atom

namespace Expr

def leaf (atom : Atom) : Expr := ⟨.leaf, none, none, some atom⟩

def unary (op : Operator) (operand : Expr) : Except Misuse Expr :=
  if op.isUnary then .ok ⟨op, some operand, none, none⟩ else .error .notUnary

def binary (op : Operator) (left right : Expr) : Except Misuse Expr :=
  if op.isBinary then .ok ⟨op, some left, some right, none⟩ else .error .notBinary

def paren (inner : Expr) : Expr := ⟨.paren, some inner, none, none⟩

def isLeaf (e : Expr) : Bool := e.left.isNone && e.right.isNone && e.atom.isSome

theorem unary_paren (inner : Expr) : unary .paren inner = .ok inner.paren := rfl

def nest (e : Expr) (op : Operator) : Nat → Except Misuse Expr
  | 0 => .ok e
  | n + 1 => (e.nest op n).bind (unary op)

def extend (e : Expr) (op : Operator) (right : Expr) : Nat → Except Misuse Expr
  | 0 => .ok e
  | n + 1 => (e.extend op right n).bind fun left => binary op left right

end Expr

mutual

/-- How many expression nodes a tree has, those in the arguments of its calls included. -/
def Expr.nodes : Expr → Nat
  | ⟨_, left, right, atom⟩ =>
      1 + Expr.nodesOfOperand left + Expr.nodesOfOperand right + Expr.nodesOfAtom atom

def Expr.nodesOfOperand : Option Expr → Nat
  | none => 0
  | some e => e.nodes

def Expr.nodesOfAtom : Option Atom → Nat
  | none | some ⟨_, _, none⟩ | some ⟨_, _, some ⟨_, none⟩⟩ => 0
  | some ⟨_, _, some ⟨_, some arguments⟩⟩ => Expr.nodesOfChain arguments

def Expr.nodesOfChain : Chain Expr → Nat
  | .single e => e.nodes
  | .link e older => e.nodes + Expr.nodesOfChain older

end

mutual

/-- The written form: a leaf shows its atom, any other node its operator and operands. -/
def Expr.render : Expr → String
  | ⟨_, none, none, some atom⟩ => atom.render
  | ⟨op, some l, some r, _⟩ => "(" ++ op.symbol ++ " " ++ l.render ++ " " ++ r.render ++ ")"
  | ⟨op, some operand, none, _⟩ => "(" ++ op.symbol ++ " " ++ operand.render ++ ")"
  | ⟨op, _, _, _⟩ => "(" ++ op.symbol ++ ")"

def Atom.render : Atom → String
  | ⟨.call, _, some call⟩ => call.render
  | ⟨.string, text, _⟩ => "\"" ++ text ++ "\""
  | ⟨.char, text, _⟩ => "'" ++ text ++ "'"
  | ⟨_, text, _⟩ => text

def Call.render : Call → String
  | ⟨name, none⟩ => "(call " ++ name ++ ")"
  | ⟨name, some arguments⟩ => "(call " ++ name ++ Call.renderArguments arguments ++ ")"

/-- The arguments in the order of the text, each after a space. -/
def Call.renderArguments : Chain Expr → String
  | .single e => " " ++ e.render
  | .link e older => Call.renderArguments older ++ " " ++ e.render

end

mutual

def Expr.same : Expr → Expr → Bool
  | ⟨op, l, r, a⟩, ⟨op', l', r', a'⟩ =>
      op = op' && Expr.sameOperand l l' && Expr.sameOperand r r' && Expr.sameAtom a a'

def Expr.sameOperand : Option Expr → Option Expr → Bool
  | none, none => true
  | some e, some e' => e.same e'
  | _, _ => false

def Expr.sameAtom : Option Atom → Option Atom → Bool
  | none, none => true
  | some a, some a' => a.same a'
  | _, _ => false

def Atom.same : Atom → Atom → Bool
  | ⟨kind, text, call⟩, ⟨kind', text', call'⟩ =>
      kind = kind' && text = text' && Atom.sameCall call call'

def Atom.sameCall : Option Call → Option Call → Bool
  | none, none => true
  | some call, some call' => call.same call'
  | _, _ => false

def Call.same : Call → Call → Bool
  | ⟨name, none⟩, ⟨name', none⟩ => name = name'
  | ⟨name, some arguments⟩, ⟨name', some arguments'⟩ =>
      name = name' && Call.sameArguments arguments arguments'
  | _, _ => false

def Call.sameArguments : Chain Expr → Chain Expr → Bool
  | .single e, .single e' => e.same e'
  | .link e older, .link e' older' => e.same e' && Call.sameArguments older older'
  | _, _ => false

end

mutual

def Expr.copy : Expr → Expr
  | ⟨op, left, right, atom⟩ =>
      ⟨op, Expr.copyOperand left, Expr.copyOperand right, Expr.copyAtom atom⟩

def Expr.copyOperand : Option Expr → Option Expr
  | none => none
  | some e => some e.copy

def Expr.copyAtom : Option Atom → Option Atom
  | none => none
  | some atom => some atom.copy

def Atom.copy : Atom → Atom
  | ⟨kind, text, call⟩ => ⟨kind, text, Atom.copyCall call⟩

def Atom.copyCall : Option Call → Option Call
  | none => none
  | some call => some call.copy

def Call.copy : Call → Call
  | ⟨name, none⟩ => ⟨name, none⟩
  | ⟨name, some arguments⟩ => ⟨name, some (Call.copyArguments arguments)⟩

def Call.copyArguments : Chain Expr → Chain Expr
  | .single e => .single e.copy
  | .link e older => .push e.copy (Chain.ofList? (Call.argumentCopies [] older))

/-- Copies of the arguments in the order of the text, before those of `later`. -/
def Call.argumentCopies (later : List Expr) : Chain Expr → List Expr
  | .single e => e.copy :: later
  | .link e older => Call.argumentCopies (e.copy :: later) older

end
end TokenScope
