import TokenScope.Browser

/-!
What is painted on the screen. The screen has the size of the terminal, and inside the borders
of a pane each row shows one line or item of those that the pane was built from, first to last,
as long as there is room. In a row each glyph is in the cell behind the glyphs before it, up to
the first that does not fit.
-/

namespace TokenScope

namespace Glyph

/-- The cells that glyphs fill together. -/
def room : List Glyph → Nat
  | [] => 0
  | glyph :: rest => glyph.width + room rest

theorem length_flatMap_cells (filler : Cell) (glyphs : List Glyph) :
    (glyphs.flatMap (cells filler)).length = room glyphs := by
  induction glyphs with
  | nil => rfl
  | cons glyph rest ih => rw [List.flatMap_cons, List.length_append, length_cells, ih, room]

/-- A glyph is in the first of its cells. -/
theorem cells_eq_cons {glyph : Glyph} (h : 0 < glyph.width) (filler : Cell) :
    ∃ more, glyph.cells filler = ⟨glyph.cluster, glyph.style⟩ :: more := by
  unfold cells
  split
  · omega
  · exact ⟨_, rfl⟩
  · exact ⟨_, rfl⟩

end Glyph

/-- What a row is to show: glyphs, and a ground behind them. -/
structure Content where
  glyphs : List Glyph
  ground : Cell

namespace Content

def nothing : Content := ⟨[], .blank⟩

/-- What is for a row, if contents are for the first rows. -/
def forRow (contents : List Content) (k : Nat) : Content := contents[k]?.getD nothing

end Content

namespace Row

/-- A row of a width that shows each glyph that fits, and behind the last of them the ground. -/
structure Shows (row : Row) (width : Nat) (content : Content) : Prop where
  length : row.length = width
  placed : ∀ before glyph after, content.glyphs = before ++ glyph :: after → 0 < glyph.width →
    Glyph.room before + glyph.width ≤ width →
      row[Glyph.room before]? = some ⟨glyph.cluster, glyph.style⟩
  ground : ∀ j, Glyph.room content.glyphs ≤ j → j < width → row[j]? = some content.ground

theorem fit_nil (filler : Cell) (room : Nat) : fit filler room [] = [] := by
  cases room <;> rfl

theorem fit_append {filler : Cell} {room : Nat} {before : List Glyph} (rest : List Glyph)
    (h : Glyph.room before ≤ room) :
    fit filler room (before ++ rest) =
      before.flatMap (Glyph.cells filler) ++ fit filler (room - Glyph.room before) rest := by
  induction before generalizing room with
  | nil => rfl
  | cons glyph before ih =>
      rw [Glyph.room] at h ⊢
      rw [List.cons_append, fit, if_pos (by omega), ih (by omega), List.flatMap_cons,
        List.append_assoc, Nat.sub_sub]

theorem length_ofText_le (width : Nat) (filler : Cell) (spans : List Span) :
    (ofText width filler spans).length ≤ width :=
  length_fit_le _ _ _

theorem shows_fillRight_fit (width : Nat) (filler : Cell) (content : Content) :
    Shows (fillRight width content.ground (fit filler width content.glyphs)) width content := by
  constructor
  case length => exact length_fillRight _ (length_fit_le _ _ _)
  case placed =>
    intro before glyph after heq hpos hroom
    obtain ⟨more, hcells⟩ := Glyph.cells_eq_cons hpos filler
    have hfits : glyph.width ≤ width - Glyph.room before := by omega
    rw [fillRight, heq, fit_append _ (by omega), fit, if_pos hfits, hcells, List.append_assoc,
      ← Glyph.length_flatMap_cells filler, List.getElem?_append_right (Nat.le_refl _),
      Nat.sub_self]
    rfl
  case ground =>
    intro j hlow hhigh
    have hall : fit filler width content.glyphs =
        content.glyphs.flatMap (Glyph.cells filler) := by
      have hfit := @fit_append filler width content.glyphs [] (Nat.le_of_lt (by omega))
      rwa [List.append_nil, fit_nil, List.append_nil] at hfit
    rw [fillRight, hall, List.getElem?_append_right, Glyph.length_flatMap_cells,
      List.getElem?_replicate, if_pos (by omega)]
    rwa [Glyph.length_flatMap_cells]

end Row

namespace Pane

variable {pane : Pane} {left right : Char} {width height : Nat} {inner : Row}

theorem length_between (h : inner.length = width - 2) :
    (pane.between left right width inner).length = width := by
  match width with
  | 0 => rfl
  | 1 => rfl
  | inside + 2 =>
      simp only [between, paint, List.length_append, List.length_map, List.length_singleton, h]
      omega

theorem length_of_mem_rows {content : List Row}
    (h : ∀ row ∈ content, row.length = width - 2) :
    ∀ row ∈ pane.rows width height content, row.length = width := by
  have htop : (pane.top width).length = width := by
    refine length_between ?_
    simp only [paint, List.length_map, List.length_append, List.length_take,
      List.length_replicate]
    omega
  have hbottom : (pane.bottom width).length = width :=
    length_between (by simp only [paint, List.length_map, List.length_replicate])
  intro row hrow
  match height with
  | 0 => contradiction
  | 1 =>
      obtain rfl := List.mem_singleton.1 hrow
      exact htop
  | inside + 2 =>
      simp only [rows, List.cons_append, List.mem_cons, List.mem_append, List.mem_map,
        List.mem_replicate, List.not_mem_nil, or_false] at hrow
      obtain rfl | ⟨inner, hinner | ⟨-, rfl⟩, rfl⟩ | rfl := hrow
      · exact htop
      · exact length_between (h inner (List.mem_of_mem_take hinner))
      · exact length_between List.length_replicate
      · exact hbottom

end Pane

/-- A part of the screen. -/
structure Area where
  left : Nat
  top : Nat
  width : Nat
  height : Nat

namespace Area

/-- The screen as far as it is in the area. -/
def cut (area : Area) (screen : List Row) : List Row :=
  ((screen.drop area.top).take area.height).map fun row => (row.drop area.left).take area.width

/-- The whole area is on the screen, and its rows show contents from the first on. Rows behind
the last are blank. -/
structure Shows (area : Area) (screen : List Row) (contents : List Content) : Prop where
  height : (area.cut screen).length = area.height
  rows : ∀ (k : Nat) (row : Row), (area.cut screen)[k]? = some row →
    Row.Shows row area.width (Content.forRow contents k)

end Area

namespace Size

variable (size : Size)

theorem sourceWidth_le : size.sourceWidth ≤ size.width := by
  unfold sourceWidth
  omega

end Size

namespace SourcePane

/-- A line of the source in a row of a width. Glyphs wider than the row are passed over. -/
def content (width : Nat) (line : List Span) : Content :=
  ⟨(line.flatMap Span.glyphs).filter (·.width ≤ width), .blank⟩

theorem shows_row (line : List Span) (width : Nat) :
    Row.Shows ((Row.ofText width .blank line).fillRight width .blank) width
      (content width line) :=
  Row.shows_fillRight_fit width .blank (content width line)

variable {r : Recording} {lines : List (List Char)} {focused : Bool} {scroll : SourceScroll}
  {width height : Nat}

theorem length_of_mem_rows :
    ∀ row ∈ rows r lines focused scroll width height, row.length = width := by
  refine Pane.length_of_mem_rows fun row hrow => ?_
  obtain ⟨line, -, rfl⟩ := List.mem_map.1 hrow
  exact (shows_row line _).length

end SourcePane

namespace TokenPane

def Item.content (item : Item) : Content where
  glyphs := item.spans.flatMap fun span =>
    Glyph.attach (Span.glyphs { span with style := span.style.laidOver item.style })
  ground := .ofChar ' ' item.style

theorem Item.shows_row (item : Item) (width : Nat) :
    Row.Shows (item.row width) width item.content := by
  have h := Row.shows_fillRight_fit width .blank item.content
  simp only [content] at h
  rw [row, Row.ofItem, List.flatMap_map]
  exact h

variable {r : Recording} {focused : Bool} {scroll : TokenScroll} {width height : Nat}

theorem length_of_mem_rows :
    ∀ row ∈ rows r focused scroll width height, row.length = width := by
  refine Pane.length_of_mem_rows fun row hrow => ?_
  obtain ⟨item, -, rfl⟩ := List.mem_map.1 hrow
  exact (item.shows_row _).length

end TokenPane

theorem StatusBar.length_row (r : Recording) (message : String) (playing : Bool) (width : Nat) :
    (row r message playing width).length = width := by
  rw [row, List.length_append, Row.length_fillRight _ (Row.length_ofText_le _ _ _),
    Row.length_fillLeft _ (Row.length_ofText_le _ _ _)]
  omega

namespace View

variable (view : View) (p : Player) (size : Size)

/-- The screen has the size of the terminal. -/
theorem paint_fills :
    (view.paint p size).length = size.height ∧
      ∀ row ∈ view.paint p size, row.length = size.width := by
  unfold paint
  split
  case isTrue h => exact ⟨h.symm, fun row hrow => by contradiction⟩
  case isFalse h =>
    constructor
    · rw [List.length_append, List.length_zipWith, SourcePane.rows, TokenPane.rows,
        Pane.length_rows, Pane.length_rows, Nat.min_self, Size.paneHeight, List.length_singleton]
      omega
    · intro row hrow
      obtain hrow | hrow := List.mem_append.1 hrow
      · obtain ⟨k, hk⟩ := List.mem_iff_getElem?.1 hrow
        obtain ⟨left, right, hleft, hright, rfl⟩ := List.getElem?_zipWith_eq_some.1 hk
        have hl := SourcePane.length_of_mem_rows left (List.mem_of_getElem? hleft)
        have hr := TokenPane.length_of_mem_rows right (List.mem_of_getElem? hright)
        rw [List.length_append, hl, hr, Size.tokenWidth]
        exact Nat.add_sub_cancel' size.sourceWidth_le
      · rw [List.mem_singleton.1 hrow, StatusBar.length_row]

end View

end TokenScope
