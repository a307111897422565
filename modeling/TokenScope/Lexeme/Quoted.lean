import TokenScope.Lexeme

/-!
String literals run from one quote to the next, line feeds included; there is no
way to write a quote inside one. Without a second quote all that is left is read.
-/

namespace TokenScope
namespace Lexeme

/-- The string literal whose opening quote stands before `rest`. -/
def quoted (rest : List Char) : Lexeme :=
  let body := rest.takeWhile (· ≠ '"')
  let text := String.ofList body
  match rest.dropWhile (· ≠ '"') with
  | [] => ⟨.failure .unterminatedString badCharacter text, '"' :: body, [], none⟩
  | quote :: left => ⟨.token .string text, '"' :: body ++ [quote], left, none⟩

theorem quoted_cutFrom (rest : List Char) : (quoted rest).CutFrom ('"' :: rest) := by
  have h := List.takeWhile_append_dropWhile (p := (· ≠ '"')) (l := rest)
  unfold quoted CutFrom
  split <;> rename_i hd <;> rw [hd] at h <;> simpa using h

theorem quoted_returned (rest : List Char) : (quoted rest).returned = none := by
  unfold quoted
  split <;> rfl

end Lexeme
end TokenScope
