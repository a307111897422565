/-!
Places in a source text. Lines and columns count from one, and a column counts
characters, so the place after a run of characters is a fold over the run.
-/

namespace TokenScope

structure Location where
  line : Nat
  column : Nat
deriving DecidableEq, Inhabited

namespace Location

/-- The place of the first character of a text. -/
def start : Location := ⟨1, 1⟩

/-- The place after one character. A line feed alone opens a new line. -/
def pass (here : Location) (c : Char) : Location :=
  if c = '\n' then ⟨here.line + 1, 1⟩ else ⟨here.line, here.column + 1⟩

/-- The place after a run of characters. -/
def after (here : Location) (cs : List Char) : Location :=
  cs.foldl pass here

/-- The place one character back on the same line. A line feed cannot be taken back. -/
def back (here : Location) : Location := ⟨here.line, max (here.column - 1) 1⟩

/-- Reading order: an earlier line, or an earlier column of the same line. -/
def Before (here there : Location) : Prop :=
  here.line < there.line ∨ here.line = there.line ∧ here.column < there.column

def render (here : Location) : String :=
  toString here.line ++ ":" ++ toString here.column

@[simp] theorem after_nil (here : Location) : here.after [] = here := rfl

@[simp] theorem after_cons (here : Location) (c : Char) (cs : List Char) :
    here.after (c :: cs) = (here.pass c).after cs := rfl

theorem after_append (here : Location) (cs ds : List Char) :
    here.after (cs ++ ds) = (here.after cs).after ds :=
  List.foldl_append

/-- Columns stay positive. -/
theorem column_after_pos {here : Location} (h : 0 < here.column) (cs : List Char) :
    0 < (here.after cs).column := by
  induction cs generalizing here with
  | nil => exact h
  | cons c cs ih =>
      apply ih
      unfold pass
      split <;> simp

/-- After a character the column is positive, whatever it was before. -/
theorem column_after_pos_of_ne_nil (here : Location) {cs : List Char} (h : cs ≠ []) :
    0 < (here.after cs).column := by
  obtain ⟨c, cs, rfl⟩ := List.exists_cons_of_ne_nil h
  have hc : 0 < (here.pass c).column := by
    unfold pass
    split <;> simp
  exact column_after_pos hc cs

theorem back_pass {here : Location} {c : Char} (h : 0 < here.column) (hc : c ≠ '\n') :
    (here.pass c).back = here := by
  simp only [pass, hc, if_false, back, Nat.add_sub_cancel, Nat.max_eq_left h]

end Location
end TokenScope
