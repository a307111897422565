import TokenScope.Location

/-!
What can go wrong while a text is read. A diagnostic names its cause, the
characters concerned and the place where they start.
-/

namespace TokenScope

inductive Fault where
  /-- No hexadecimal digit follows the marker. -/
  | malformedHex
  /-- Neither sign nor digit follows the exponent marker, or no digit the sign. -/
  | malformedExponent
  /-- The text ends before the closing quote. -/
  | unterminatedString
  /-- The character starts no token and is skipped. -/
  | unexpectedCharacter
deriving DecidableEq, Inhabited

def Fault.describe : Fault → String
  | malformedHex => "malformed hexadecimal literal"
  | malformedExponent => "malformed exponent"
  | unterminatedString => "unterminated string literal"
  | unexpectedCharacter => "unexpected character"

structure Diagnostic where
  fault : Fault
  /-- The characters read before the failure, or the one character skipped. -/
  lexeme : String
  location : Location
deriving DecidableEq, Inhabited

def Diagnostic.message (d : Diagnostic) : String :=
  "Lexer error at line " ++ toString d.location.line ++ ", column " ++
    toString d.location.column ++ ": " ++ d.fault.describe ++ " '" ++ d.lexeme ++ "'"

end TokenScope
