/-!
The kinds of token of the language and the classes the tree and the browser
ask about. A kind has a short written name; the names are pairwise different,
so a name picks its kind.
-/

namespace TokenScope

inductive TokenKind where
  | endOfInput
  /-- Stands for characters that make no token; its text is a report, not a lexeme. -/
  | error
  | integer | double | string
  | identifier
  | wordInt | wordDouble | wordBool | wordGraph | wordTrue | wordFalse | wordReturn
  | dot | add | sub | mul | div
deriving DecidableEq, Hashable, Inhabited

namespace TokenKind

def all : List TokenKind :=
  [endOfInput, error, integer, double, string, identifier, wordInt, wordDouble, wordBool,
    wordGraph, wordTrue, wordFalse, wordReturn, dot, add, sub, mul, div]

theorem mem_all (kind : TokenKind) : kind ∈ all := by
  cases kind <;> decide

def name : TokenKind → String
  | endOfInput => "eof"
  | error => "error"
  | integer => "integer"
  | double => "double"
  | string => "string"
  | identifier => "id"
  | wordInt => "kw_int"
  | wordDouble => "kw_double"
  | wordBool => "kw_bool"
  | wordGraph => "kw_graph"
  | wordTrue => "kw_true"
  | wordFalse => "kw_false"
  | wordReturn => "kw_return"
  | dot => "dot"
  | add => "add"
  | sub => "sub"
  | mul => "mul"
  | div => "div"

def ofName? (name : String) : Option TokenKind :=
  all.find? fun kind => kind.name = name

def longName : TokenKind → String
  | endOfInput => "EndOfInput"
  | error => "Error"
  | integer => "IntegerLiteral"
  | double => "DoubleLiteral"
  | string => "StringLiteral"
  | identifier => "Identifier"
  | wordInt => "KwInt"
  | wordDouble => "KwDouble"
  | wordBool => "KwBool"
  | wordGraph => "KwGraph"
  | wordTrue => "KwTrue"
  | wordFalse => "KwFalse"
  | wordReturn => "KwReturn"
  | dot => "Dot"
  | add => "Add"
  | sub => "Sub"
  | mul => "Mul"
  | div => "Div"

def isLiteral : TokenKind → Bool
  | integer | double | string => true
  | _ => false

def isOperator : TokenKind → Bool
  | add | sub | mul | div => true
  | _ => false

def isTypeWord : TokenKind → Bool
  | wordInt | wordDouble | wordBool | wordGraph => true
  | _ => false

def isReserved : TokenKind → Bool
  | wordTrue | wordFalse | wordReturn => true
  | kind => kind.isTypeWord

/-- The one spelling of a kind that has only one. -/
def spelling? : TokenKind → Option String
  | wordInt => some "int"
  | wordDouble => some "double"
  | wordBool => some "bool"
  | wordGraph => some "graph"
  | wordTrue => some "true"
  | wordFalse => some "false"
  | wordReturn => some "return"
  | dot => some "."
  | add => some "+"
  | sub => some "-"
  | mul => some "*"
  | div => some "/"
  | _ => none

/-- The reserved word with a given spelling. A word is reserved only as a whole. -/
def ofReserved? (word : String) : Option TokenKind :=
  all.find? fun kind => kind.isReserved && kind.spelling? == some word

end TokenKind
end TokenScope
