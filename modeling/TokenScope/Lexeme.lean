import TokenScope.Token
import TokenScope.Diagnostic

/-!
The outcome of one scan: the characters it read, those it left, and what it made
of them. A scan may pass one character more than it reads and give it back. A lexeme
knows nothing of places; a place turns it into a token and, if the scan failed, into
a diagnostic.
-/

namespace TokenScope

inductive Reading where
  | token (kind : TokenKind) (text : String)
  /-- The scan failed: `text` goes into the error token, `lexeme` into the diagnostic. -/
  | failure (fault : Fault) (text lexeme : String)
deriving DecidableEq

structure Lexeme where
  reading : Reading
  read : List Char
  rest : List Char
  /-- The character that was passed and given back; it stands in front of `rest` again. -/
  returned : Option Char
deriving DecidableEq

def Lexeme.badCharacter : String := "bad character"

namespace Reading

def toToken (reading : Reading) (width : Nat) (here : Location) : Token :=
  match reading with
  | .token kind text => ⟨kind, text, here, width⟩
  | .failure _ text _ => ⟨.error, text, here, width⟩

def toDiagnostic? (reading : Reading) (here : Location) : Option Diagnostic :=
  match reading with
  | .token _ _ => none
  | .failure fault _ text => some ⟨fault, text, here⟩

@[simp] theorem width_toToken (reading : Reading) (width : Nat) (here : Location) :
    (reading.toToken width here).width = width := by
  cases reading <;> rfl

@[simp] theorem location_toToken (reading : Reading) (width : Nat) (here : Location) :
    (reading.toToken width here).location = here := by
  cases reading <;> rfl

end Reading

namespace Lexeme

def token (lexeme : Lexeme) (here : Location) : Token :=
  lexeme.reading.toToken lexeme.read.length here

def diagnostic? (lexeme : Lexeme) (here : Location) : Option Diagnostic :=
  lexeme.reading.toDiagnostic? here

/-- The place after the scan. A character that was given back is passed first. -/
def stop (lexeme : Lexeme) (here : Location) : Location :=
  let there := here.after lexeme.read
  match lexeme.returned with
  | none => there
  | some c => (there.pass c).back

/-- The lexeme was cut from the front of `source`, and something was cut. -/
def CutFrom (lexeme : Lexeme) (source : List Char) : Prop :=
  lexeme.read ≠ [] ∧ lexeme.read ++ lexeme.rest = source

theorem CutFrom.rest_length_lt {lexeme : Lexeme} {source : List Char}
    (h : lexeme.CutFrom source) : lexeme.rest.length < source.length := by
  rw [← h.2, List.length_append]
  have := List.length_pos_iff.2 h.1
  omega

/-- Giving a character back undoes its passing, unless it is a line feed. -/
theorem stop_eq_after {lexeme : Lexeme} (here : Location)
    (hr : ∀ c ∈ lexeme.returned, c ≠ '\n') (h : lexeme.read ≠ []) :
    lexeme.stop here = here.after lexeme.read := by
  unfold stop
  cases hc : lexeme.returned with
  | none => rfl
  | some c => exact Location.back_pass (here.column_after_pos_of_ne_nil h) (hr c hc)

end Lexeme
end TokenScope
