import TokenScope.Lexeme

/-!
Identifiers are read as far as they go; only the complete word is looked up
among the reserved ones, so a longer word that starts with one is an identifier.
-/

namespace TokenScope

def isWordStart (c : Char) : Bool := c = '_' || c.isAlpha

def isWordCharacter (c : Char) : Bool := isWordStart c || c.isDigit

namespace Lexeme

/-- The word at the front of `source`. -/
def word (source : List Char) : Lexeme :=
  let read := source.takeWhile isWordCharacter
  let text := String.ofList read
  ⟨.token ((TokenKind.ofReserved? text).getD .identifier) text, read,
    source.dropWhile isWordCharacter, none⟩

theorem word_cutFrom {c : Char} (rest : List Char) (h : isWordStart c) :
    (word (c :: rest)).CutFrom (c :: rest) :=
  ⟨by simp [word, isWordCharacter, h],
    List.takeWhile_append_dropWhile⟩

end Lexeme
end TokenScope
