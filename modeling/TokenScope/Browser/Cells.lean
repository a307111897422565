import TokenScope.Browser.Style
import TokenScope.Text.Width

/-!
Rows of a terminal. A row is made from spans of styled text, cluster by cluster from
the left, and ends with the last one that fits. A wide cluster holds its first cell,
and the terminal leaves the next one blank; clusters of no width hold none.
-/

namespace TokenScope

structure Span where
  text : List Char
  style : Style
deriving DecidableEq

def Span.of (text : String) (style : Style) : Span := ⟨text.toList, style⟩

structure Cell where
  symbol : Cluster
  style : Style
deriving DecidableEq

namespace Cell

def ofChar (c : Char) (style : Style) : Cell := ⟨[c], style⟩

def blank : Cell := ofChar ' ' .plain

end Cell

abbrev Row := List Cell

structure Glyph where
  cluster : Cluster
  style : Style
deriving DecidableEq

/-- Clusters do not reach from one span into the next. -/
def Span.glyphs (span : Span) : List Glyph := (clusters span.text).map (⟨·, span.style⟩)

namespace Glyph

def width (glyph : Glyph) : Nat := clusterWidth glyph.cluster

/-- The cells a glyph fills. Behind the blank that a wide one hides, the filler shows. -/
def cells (filler : Cell) (glyph : Glyph) : Row :=
  match glyph.width with
  | 0 => []
  | 1 => [⟨glyph.cluster, glyph.style⟩]
  | n + 2 => ⟨glyph.cluster, glyph.style⟩ :: Cell.blank :: List.replicate n filler

/-- Glyphs after a held one. One of no width shares the cell of a narrow glyph before it, and
is hidden by a wide one. -/
def attachTo (held : Glyph) : List Glyph → List Glyph
  | [] => [held]
  | glyph :: rest =>
      if 0 < glyph.width then held :: attachTo glyph rest
      else if held.width = 1 then
        attachTo { held with cluster := held.cluster ++ glyph.cluster } rest
      else attachTo held rest

def attach : List Glyph → List Glyph
  | [] => []
  | glyph :: rest => attachTo glyph rest

theorem length_cells (filler : Cell) (glyph : Glyph) :
    (glyph.cells filler).length = glyph.width := by
  unfold cells
  split <;> simp_all

end Glyph

namespace Row

/-- The cells of as many of the glyphs as fit into `room` cells. -/
def fit (filler : Cell) : Nat → List Glyph → Row
  | _, [] => []
  | room, glyph :: rest =>
      if glyph.width ≤ room then glyph.cells filler ++ fit filler (room - glyph.width) rest
      else []

/-- A row of running text on a ground of fillers. A glyph that no row of the width could hold
is passed over. -/
def ofText (width : Nat) (filler : Cell) (spans : List Span) : Row :=
  fit filler width ((spans.flatMap Span.glyphs).filter (·.width ≤ width))

/-- A row of a list. -/
def ofItem (width : Nat) (spans : List Span) : Row :=
  fit .blank width (spans.flatMap fun span => Glyph.attach span.glyphs)

def fillRight (width : Nat) (filler : Cell) (row : Row) : Row :=
  row ++ List.replicate (width - row.length) filler

def fillLeft (width : Nat) (filler : Cell) (row : Row) : Row :=
  List.replicate (width - row.length) filler ++ row

theorem length_fit_le (filler : Cell) (room : Nat) (glyphs : List Glyph) :
    (fit filler room glyphs).length ≤ room := by
  induction glyphs generalizing room with
  | nil => simp [fit]
  | cons glyph rest ih =>
      simp only [fit]
      split
      · have := ih (room - glyph.width)
        rw [List.length_append, Glyph.length_cells]
        omega
      · simp

theorem length_fillRight {width : Nat} {row : Row} (filler : Cell) (h : row.length ≤ width) :
    (fillRight width filler row).length = width := by
  simp only [fillRight, List.length_append, List.length_replicate]
  omega

theorem length_fillLeft {width : Nat} {row : Row} (filler : Cell) (h : row.length ≤ width) :
    (fillLeft width filler row).length = width := by
  simp only [fillLeft, List.length_append, List.length_replicate]
  omega

end Row
end TokenScope
