import TokenScope.Tree.Expr
import TokenScope.Tree.PrimitiveType

/-!
A workbench builds expressions from tokens by shifting and reducing. Shifting puts
the next token on the stack of its sort; a reduction takes operands and an operator
off the stacks and puts the tree made of them back. With too few of them a reduction
does nothing.
-/

namespace TokenScope

/-- The stacks have their top in front. -/
structure Workbench where
  pending : List Token
  values : List Expr
  operators : List Operator
  types : List PrimitiveType

namespace Workbench

inductive Step where
  | shift
  | binary
  /-- Makes the top operator a sign of the top value. -/
  | sign
  | paren
  /-- Calls the value below the top `count` values with these as arguments. -/
  | call (count : Nat)
deriving DecidableEq

inductive Deed where
  | atom | operator | type | skipped | exhausted
  | reduced | underflow
deriving DecidableEq

def Deed.name : Deed → String
  | atom => "atom"
  | operator => "operator"
  | type => "type"
  | skipped => "skipped"
  | exhausted => "exhausted"
  | reduced => "ok"
  | underflow => "underflow"

def ofTokens (tokens : List Token) : Workbench := ⟨tokens, [], [], []⟩

def shift (bench : Workbench) : Deed × Workbench :=
  match bench.pending with
  | [] => (.exhausted, bench)
  | token :: pending =>
      let bench := { bench with pending }
      match Atom.ofToken? token with
      | some atom => (.atom, { bench with values := .leaf atom :: bench.values })
      | none =>
          match Operator.ofKind? token.kind with
          | some op => (.operator, { bench with operators := op :: bench.operators })
          | none =>
              match PrimitiveType.ofKind? token.kind with
              | some type => (.type, { bench with types := type :: bench.types })
              | none => (.skipped, bench)

def deliver (bench : Workbench) : Except Misuse Expr → Except Misuse Deed × Workbench
  | .ok e => (.ok .reduced, { bench with values := e :: bench.values })
  | .error e => (.error e, bench)

/-- Takes a step. What a refused tree was to be made of is lost. -/
def take (bench : Workbench) : Step → Except Misuse Deed × Workbench
  | .shift =>
      let (deed, later) := bench.shift
      (.ok deed, later)
  | .binary =>
      match bench.values, bench.operators with
      | right :: left :: values, op :: operators =>
          { bench with values, operators }.deliver (Expr.binary op left right)
      | _, _ => (.ok .underflow, bench)
  | .sign =>
      match bench.values, bench.operators with
      | operand :: values, op :: operators =>
          { bench with values, operators }.deliver (Expr.unary op.asSign operand)
      | _, _ => (.ok .underflow, bench)
  | .paren =>
      match bench.values with
      | inner :: values => { bench with values }.deliver (.ok inner.paren)
      | [] => (.ok .underflow, bench)
  | .call count =>
      match bench.values.drop count with
      | callee :: values =>
          let arguments := Chain.ofList? (bench.values.take count).reverse
          { bench with values }.deliver (.ok (.leaf (.ofCall ⟨callee.render, arguments⟩)))
      | [] => (.ok .underflow, bench)

end Workbench
end TokenScope
