import TokenScope.Lexeme.Number
import TokenScope.Lexeme.Quoted
import TokenScope.Lexeme.Word

/-!
The first character decides which scan reads on. Blanks and strays start no
lexeme: the six blanks are passed in silence, every other such character is a
stray. All five scans cut a nonempty lexeme from the front of what is unread.
-/

namespace TokenScope

inductive Lead where
  | blank | number | quote | word | stray
  | sign (kind : TokenKind)
deriving DecidableEq

namespace Lead

/-- Space, tab, line feed, vertical tab, form feed and carriage return. -/
def isBlank (c : Char) : Bool :=
  c = ' ' || c = '\t' || c = '\n' || c = '\x0b' || c = '\x0c' || c = '\r'

def ofSign? : Char → Option TokenKind
  | '+' => some .add
  | '-' => some .sub
  | '*' => some .mul
  | '/' => some .div
  | _ => none

def ofChar (c : Char) : Lead :=
  if isBlank c then blank
  else if c = '.' || c.isDigit then number
  else if c = '"' then quote
  else if isWordStart c then word
  else match ofSign? c with
    | some kind => sign kind
    | none => stray

/-- What a character is when it leads in a given way. -/
def Describes : Lead → Char → Prop
  | blank, c => isBlank c
  | number, c => c = '.' ∨ c.isDigit
  | quote, c => c = '"'
  | word, c => isWordStart c
  | sign kind, c => ofSign? c = some kind
  | stray, c =>
      ¬ isBlank c ∧ c ≠ '.' ∧ ¬ c.isDigit ∧ c ≠ '"' ∧ ¬ isWordStart c ∧ ofSign? c = none

theorem describes_ofChar (c : Char) : (ofChar c).Describes c := by
  unfold ofChar
  repeat' split
  all_goals simp_all [Describes]

end Lead

namespace Lexeme

/-- The lexeme at the front of `source`, if one starts there. -/
def first? : List Char → Option Lexeme
  | [] => none
  | c :: rest =>
      match Lead.ofChar c with
      | .blank | .stray => none
      | .number => some (number c rest)
      | .quote => some (quoted rest)
      | .word => some (word (c :: rest))
      | .sign kind => some ⟨.token kind c.toString, [c], rest, none⟩

/-- The four ways a lexeme starts. -/
theorem first?_cases {c : Char} {rest : List Char} {lexeme : Lexeme}
    (h : first? (c :: rest) = some lexeme) :
    ((c = '.' ∨ c.isDigit) ∧ lexeme = number c rest) ∨
    (c = '"' ∧ lexeme = quoted rest) ∨
    (isWordStart c ∧ lexeme = word (c :: rest)) ∨
    ∃ kind, Lead.ofSign? c = some kind ∧ lexeme = ⟨.token kind c.toString, [c], rest, none⟩ := by
  have hd := Lead.describes_ofChar c
  simp only [first?] at h
  cases hl : Lead.ofChar c with
  | blank | stray => simp [hl] at h
  | number =>
      simp only [hl, Option.some.injEq] at h hd
      exact .inl ⟨hd, h.symm⟩
  | quote =>
      simp only [hl, Option.some.injEq] at h hd
      exact .inr (.inl ⟨hd, h.symm⟩)
  | word =>
      simp only [hl, Option.some.injEq] at h hd
      exact .inr (.inr (.inl ⟨hd, h.symm⟩))
  | sign kind =>
      simp only [hl, Option.some.injEq] at h hd
      exact .inr (.inr (.inr ⟨kind, hd, h.symm⟩))

theorem cutFrom_of_first? {source : List Char} {lexeme : Lexeme}
    (h : first? source = some lexeme) : lexeme.CutFrom source := by
  cases source with
  | nil => simp [first?] at h
  | cons c rest =>
      obtain ⟨-, rfl⟩ | ⟨rfl, rfl⟩ | ⟨hw, rfl⟩ | ⟨kind, -, rfl⟩ := first?_cases h
      · exact (number_cutFrom c rest).1
      · exact quoted_cutFrom rest
      · exact word_cutFrom rest hw
      · exact ⟨by simp, by simp⟩

/-- No scan gives back a line feed. -/
theorem returned_of_first? {source : List Char} {lexeme : Lexeme}
    (h : first? source = some lexeme) : ∀ c ∈ lexeme.returned, c ≠ '\n' := by
  cases source with
  | nil => simp [first?] at h
  | cons c rest =>
      obtain ⟨-, rfl⟩ | ⟨rfl, rfl⟩ | ⟨-, rfl⟩ | ⟨kind, -, rfl⟩ := first?_cases h
      · intro d hd
        rw [(number_cutFrom c rest).2 d hd]
        decide
      · simp [quoted_returned]
      · simp [word]
      · simp

end Lexeme
end TokenScope
