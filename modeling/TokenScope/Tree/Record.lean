import TokenScope.Text.Escape
import TokenScope.Tree.Stmt

/-!
The record form of a tree: every field of every node by name, on one line. Chains
are written from the newest item on, which is how they are held; an absent part is
`None`, so the form tells apart trees whose written forms agree.
-/

namespace TokenScope
namespace Record

def fields (name : String) (entries : List (String × String)) : String :=
  name ++ " \x7b " ++ ", ".intercalate (entries.map fun (key, value) => key ++ ": " ++ value) ++
    " \x7d"

def wrap (name inner : String) : String := name ++ "(" ++ inner ++ ")"

def present (inner : String) : String := wrap "Some" inner

def absent : String := "None"

def list (items : List String) : String := "[" ++ ", ".intercalate items ++ "]"

end Record

mutual

def Expr.record : Expr → String
  | ⟨op, left, right, atom⟩ =>
      Record.fields "Expr" [("op", op.longName), ("left", Expr.recordOperand left),
        ("right", Expr.recordOperand right), ("atom", Expr.recordAtom atom)]

def Expr.recordOperand : Option Expr → String
  | none => Record.absent
  | some e => Record.present e.record

def Expr.recordAtom : Option Atom → String
  | none => Record.absent
  | some atom => Record.present atom.record

def Atom.record : Atom → String
  | ⟨kind, text, call⟩ =>
      Record.fields "Atom" [("kind", kind.longName), ("text", quote text),
        ("call", Atom.recordCall call)]

def Atom.recordCall : Option Call → String
  | none => Record.absent
  | some call => Record.present call.record

def Call.record : Call → String
  | ⟨name, none⟩ => Record.fields "FuncCall" [("name", quote name), ("args", Record.absent)]
  | ⟨name, some arguments⟩ =>
      Record.fields "FuncCall" [("name", quote name),
        ("args", Record.present (Record.list (Call.recordArguments arguments)))]

def Call.recordArguments : Chain Expr → List String
  | .single e => [e.record]
  | .link e older => e.record :: Call.recordArguments older

end

def Param.record (p : Param) : String :=
  Record.fields "Arg" [("ty", p.type.longName), ("name", quote p.name)]

def Param.recordList : Option (Chain Param) → String
  | none => Record.absent
  | some params => Record.present (Record.list (params.newestFirst.map Param.record))

mutual

def Stmt.record : Stmt → String
  | .expr e => Record.wrap "Expr" e.record
  | .function returns name params body =>
      Record.wrap "FuncDef" (Record.fields "FuncDef" [("return_type", returns.longName),
        ("name", quote name), ("params", Param.recordList params),
        ("body", Stmt.recordBody body)])

def Stmt.recordBody : Option (Chain Stmt) → String
  | none => Record.absent
  | some body => Record.present (Record.list (Stmt.recordChain body))

def Stmt.recordChain : Chain Stmt → List String
  | .single s => [s.record]
  | .link s older => s.record :: Stmt.recordChain older

end

def Chain.record {α : Type} (recordItem : α → String) (chain : Chain α) : String :=
  Record.list (chain.newestFirst.map recordItem)

end TokenScope
