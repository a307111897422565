import TokenScope.Tree.Expr
import TokenScope.Tree.PrimitiveType

/-!
Statements: an expression, or the definition of a function with parameters and a
body. An outline of a statement lists what a reader sees of it, with expressions
in their written form and lists in the order of the text.
-/

namespace TokenScope

structure Param where
  type : PrimitiveType
  name : String
deriving DecidableEq, Inhabited

inductive Stmt where
  | expr (e : Expr)
  | function (returns : PrimitiveType) (name : String)
      (params : Option (Chain Param)) (body : Option (Chain Stmt))

namespace Stmt

def paramCount : Option (Chain Param) → Nat
  | none => 0
  | some params => params.size

end Stmt

def Param.sameList : Option (Chain Param) → Option (Chain Param) → Bool
  | none, none => true
  | some params, some params' => params.same (· = ·) params'
  | _, _ => false

mutual

def Stmt.same : Stmt → Stmt → Bool
  | .expr e, .expr e' => e.same e'
  | .function returns name params body, .function returns' name' params' body' =>
      returns = returns' && name = name' && Param.sameList params params' &&
        Stmt.sameBody body body'
  | _, _ => false

def Stmt.sameBody : Option (Chain Stmt) → Option (Chain Stmt) → Bool
  | none, none => true
  | some body, some body' => Stmt.sameChain body body'
  | _, _ => false

def Stmt.sameChain : Chain Stmt → Chain Stmt → Bool
  | .single s, .single s' => s.same s'
  | .link s older, .link s' older' => s.same s' && Stmt.sameChain older older'
  | _, _ => false

end

def Param.copy : Param → Param
  | ⟨type, name⟩ => ⟨type, name⟩

mutual

def Stmt.copy : Stmt → Stmt
  | .expr e => .expr e.copy
  | .function returns name params body =>
      .function returns name (params.map (Chain.copy Param.copy)) (Stmt.copyBody body)

def Stmt.copyBody : Option (Chain Stmt) → Option (Chain Stmt)
  | none => none
  | some body => some (Stmt.copyChain body)

def Stmt.copyChain : Chain Stmt → Chain Stmt
  | .single s => .single s.copy
  | .link s older => .push s.copy (Chain.ofList? (Stmt.chainCopies [] older))

/-- Copies of the statements in the order of the text, before those of `later`. -/
def Stmt.chainCopies (later : List Stmt) : Chain Stmt → List Stmt
  | .single s => s.copy :: later
  | .link s older => Stmt.chainCopies (s.copy :: later) older

end

inductive Outline where
  | expr (written : String) (nodes : Nat)
  | function (returns : PrimitiveType) (name : String) (paramCount : Nat)
      (params : Option (List Param)) (body : Option (List Outline))

mutual

def Stmt.outline : Stmt → Outline
  | .expr e => .expr e.render e.nodes
  | .function returns name params body =>
      .function returns name (Stmt.paramCount params) (params.map Chain.inOrder)
        (Stmt.outlineBody body)

def Stmt.outlineBody : Option (Chain Stmt) → Option (List Outline)
  | none => none
  | some body => some (Stmt.outlineChain [] body)

/-- The outlines in the order of the text, before those of `later`. -/
def Stmt.outlineChain (later : List Outline) : Chain Stmt → List Outline
  | .single s => s.outline :: later
  | .link s older => Stmt.outlineChain (s.outline :: later) older

end
end TokenScope
