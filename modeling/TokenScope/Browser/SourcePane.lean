import TokenScope.Browser.Pane
import TokenScope.Recording
import TokenScope.Text.Layout

/-!
The pane that shows the source. Colours come from the recorded tokens: each token
that starts on a line is a span of its own, whatever lies between two tokens is
plain. The pane keeps the line of the cursor on the same row of the window while
the ends of the text allow it.
-/

namespace TokenScope

structure SourceScroll where
  offset : Nat
  /-- The row the current line is held on, unknown before the first drawing. -/
  target : Option Nat
deriving DecidableEq

namespace SourceScroll

def start : SourceScroll := ⟨0, none⟩

/-- The scroll state that shows a line of a text of `total` lines in a window of `visible`
rows. A line the text does not have moves nothing. -/
def settle (scroll : SourceScroll) (visible total line : Nat) : SourceScroll :=
  let target := min (scroll.target.getD (visible / 2)) (visible - 1)
  let offset := if 0 < line ∧ line ≤ total then line - 1 - target else scroll.offset
  ⟨if visible < total then min offset (total - visible) else 0, some target⟩

/-- Holds the current line one row further down, once it is held at all. -/
def lower (scroll : SourceScroll) : SourceScroll :=
  { scroll with target := scroll.target.map (· + 1) }

/-- Holds the current line one row further up. -/
def raise (scroll : SourceScroll) : SourceScroll :=
  { scroll with target := scroll.target.map (· - 1) }

end SourceScroll

namespace SourcePane

def tokenSpan (kind : TokenKind) (isCurrent : Bool) (text : List Char) : Span :=
  if isCurrent then ⟨text, (kind.style.withBack Palette.currentToken).emphasised⟩
  else ⟨text, kind.style⟩

def gap (text : List Char) : List Span :=
  if text.isEmpty then [] else [⟨text, .plain⟩]

/-- The spans of what is left of a line of `length` characters after the first `done`.
A token that starts before them is passed over. -/
def spansFrom (length current done : Nat) (left : List Char) : List (Nat × Token) → List Span
  | [] => gap left
  | (i, token) :: rest =>
      let first := min (token.location.column - 1) length
      let last := min (first + token.width) length
      if first < done then spansFrom length current done left rest
      else
        let fromToken := left.drop (first - done)
        gap (left.take (first - done)) ++
          tokenSpan token.kind (i = current) (fromToken.take (last - first)) ::
            spansFrom length current last (fromToken.drop (last - first)) rest

/-- The spans of a line. Together they are the line. -/
def spans (r : Recording) (number : Nat) (line : List Char) : List Span :=
  spansFrom line.length r.position 0 line (r.onLine number)

def currentLine (r : Recording) : Nat :=
  match r.current? with
  | some token => token.location.line
  | none => 0

/-- A line as it is shown: its number, and its spans with the current line tinted. -/
def numbered (r : Recording) (number : Nat) (line : List Char) : List Span :=
  let label := alignRight 4 (toString number) ++ " "
  let content := spans r number line
  if number = currentLine r then
    .of label (Style.ofFore Palette.secondary).emphasised ::
      content.map fun span => { span with style := span.style.tinted Palette.currentLine }
  else .of label (.ofFore Palette.dim) :: content

def numberedFrom (r : Recording) (number : Nat) : List (List Char) → List (List Span)
  | [] => []
  | line :: rest => numbered r number line :: numberedFrom r (number + 1) rest

def window (r : Recording) (lines : List (List Char)) (offset visible : Nat) :
    List (List Span) :=
  numberedFrom r (offset + 1) ((lines.drop offset).take visible)

def rows (r : Recording) (lines : List (List Char)) (focused : Bool) (scroll : SourceScroll)
    (width height : Nat) : List Row :=
  let pane : Pane := ⟨" Source ", borderStyle focused⟩
  let shown := window r lines scroll.offset (Pane.visibleRows height)
  pane.rows width height <| shown.map fun line =>
    (Row.ofText (width - 2) .blank line).fillRight (width - 2) .blank

end SourcePane
end TokenScope
