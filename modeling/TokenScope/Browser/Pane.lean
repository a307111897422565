import TokenScope.Browser.Cells

/-!
A bordered pane with a title. The border takes one cell on each side as long as
there is room: a pane of one column keeps its left side, one of one row its top.
The content fills what is inside.
-/

namespace TokenScope

structure Pane where
  title : String
  border : Style

namespace Pane

/-- The rows a pane of some height counts on, which is at least one. -/
def visibleRows (height : Nat) : Nat := max 1 (height - 2)

def paint (pane : Pane) (chars : List Char) : Row := chars.map (Cell.ofChar · pane.border)

/-- A row between two border characters, the left of which stays when there is one column. -/
def between (pane : Pane) (left right : Char) (width : Nat) (inner : Row) : Row :=
  match width with
  | 0 => []
  | 1 => pane.paint [left]
  | _ => pane.paint [left] ++ inner ++ pane.paint [right]

def top (pane : Pane) (width : Nat) : Row :=
  let title := pane.title.toList.take (width - 2)
  let inner := title ++ List.replicate (width - 2 - title.length) '─'
  pane.between '┌' '┐' width (pane.paint inner)

def bottom (pane : Pane) (width : Nat) : Row :=
  pane.between '└' '┘' width (pane.paint (List.replicate (width - 2) '─'))

/-- The rows of a pane. Content rows are as wide as the inside; missing ones are blank. -/
def rows (pane : Pane) (width height : Nat) (content : List Row) : List Row :=
  match height with
  | 0 => []
  | 1 => [pane.top width]
  | inside + 2 =>
      let blank := List.replicate (width - 2) Cell.blank
      let shown := content.take inside
      let filled := shown ++ List.replicate (inside - shown.length) blank
      pane.top width :: filled.map (pane.between '│' '│' width) ++ [pane.bottom width]

theorem length_rows (pane : Pane) (width height : Nat) (content : List Row) :
    (pane.rows width height content).length = height := by
  match height with
  | 0 => rfl
  | 1 => rfl
  | inside + 2 =>
      simp only [rows, List.cons_append, List.length_cons, List.length_append, List.length_map,
        List.length_take, List.length_replicate, List.length_nil]
      omega

end Pane
end TokenScope
