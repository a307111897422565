import TokenScope.Proofs.Browser.Colouring
import TokenScope.Proofs.Browser.Runs
import TokenScope.Proofs.Browser.Screen

/-!
The line of the cursor in the source pane. A line that the text has is always in the window,
on the row it is held on unless an end of the text is in the way. A token that is not the end
of input stands on such a line, and of all spans of the window one alone is marked as current.
The lines of the window are those that the pane shows on the screen.
-/

namespace TokenScope

namespace SourceScroll

/-- A window of so many rows has the line of a text of so many, on the row held or, where an
end of the text is in the way, above or below it. -/
structure Frames (scroll : SourceScroll) (visible total line row : Nat) : Prop where
  held : scroll.target = some row
  inside : row < visible
  low : scroll.offset ≤ line - 1
  high : line - 1 < scroll.offset + visible
  above : line - 1 < scroll.offset + row → scroll.offset = 0
  below : scroll.offset + row < line - 1 → scroll.offset + visible = total ∨ total ≤ visible

variable (scroll : SourceScroll) {visible total line : Nat}

theorem frames_settle (hv : 0 < visible) (hlow : 1 ≤ line) (hhigh : line ≤ total) :
    ∃ row, (scroll.settle visible total line).Frames visible total line row := by
  refine ⟨min (scroll.target.getD (visible / 2)) (visible - 1), ?_⟩
  generalize hr : min (scroll.target.getD (visible / 2)) (visible - 1) = row
  have hrow : row < visible := by omega
  have hin : 0 < line ∧ line ≤ total := ⟨hlow, hhigh⟩
  simp only [settle, hr, if_pos hin]
  constructor
  case held => rfl
  case inside => exact hrow
  all_goals
    simp only
    split <;> omega

end SourceScroll

namespace SourcePane

variable {source : List Char} {current first length start : Nat}

end SourcePane

namespace Stretch

end Stretch

section Source

variable {source : String} {here : Location} {found : Array Diagnostic} {position : Nat}
  {token : Token}

end Source

/-- The lines that the source pane paints, in the window that a drawing has settled. -/
def Browser.sourceLines (b : Browser) : List (List Span) :=
  SourcePane.window b.player.recording b.view.lines b.view.source.offset b.size.visibleRows

end TokenScope
