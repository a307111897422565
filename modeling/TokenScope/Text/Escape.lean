import TokenScope.Text.Printable

/-!
Text on one line of printable characters. Controls that have a short name are
written by it, quotes and the backslash are marked, and other characters that do
not print are written by their code point. A combining mark would attach to what
is written before the text, so it is escaped where it comes first.
-/

namespace TokenScope

structure EscapeRule where
  singleQuotes : Bool
  /-- Escapes marks wherever they stand, not only in front. -/
  everyMark : Bool

/-- For text that is listed on its own. -/
def EscapeRule.listed : EscapeRule := ⟨true, false⟩

/-- For text between double quotes in a record form. -/
def EscapeRule.quoted : EscapeRule := ⟨false, true⟩

/-- A character by its code point in lower-case hexadecimal. -/
def escapeCode (c : Char) : String :=
  "\\u\x7b" ++ String.ofList (Nat.toDigits 16 c.toNat) ++ "\x7d"

def EscapeRule.escapeChar (rule : EscapeRule) (inFront : Bool) (c : Char) : String :=
  match c with
  | '\x00' => "\\0"
  | '\t' => "\\t"
  | '\r' => "\\r"
  | '\n' => "\\n"
  | '\\' => "\\\\"
  | '"' => "\\\""
  | '\'' => if rule.singleQuotes then "\\'" else "'"
  | c =>
      if (inFront || rule.everyMark) && isMark c then escapeCode c
      else if isPrintable c then c.toString
      else escapeCode c

def EscapeRule.escape (rule : EscapeRule) (text : String) : String :=
  match text.toList with
  | [] => ""
  | c :: rest => String.join (rule.escapeChar true c :: rest.map (rule.escapeChar false))

/-- Text between double quotes, as a record form writes it. -/
def quote (text : String) : String :=
  "\"" ++ EscapeRule.quoted.escape text ++ "\""

end TokenScope
