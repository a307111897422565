import TokenScope.Token.Kind

/-!
The primitive types of the language. Each is named by one reserved word.
-/

namespace TokenScope

inductive PrimitiveType where
  | int | double | bool | graph
deriving DecidableEq, Inhabited

namespace PrimitiveType

def all : List PrimitiveType := [int, double, bool, graph]

def ofKind? : TokenKind → Option PrimitiveType
  | .wordInt => some int
  | .wordDouble => some double
  | .wordBool => some bool
  | .wordGraph => some graph
  | _ => none

def render : PrimitiveType → String
  | int => "int"
  | double => "double"
  | bool => "bool"
  | graph => "graph"

def longName : PrimitiveType → String
  | int => "Int"
  | double => "Double"
  | bool => "Bool"
  | graph => "Graph"

end PrimitiveType
end TokenScope
