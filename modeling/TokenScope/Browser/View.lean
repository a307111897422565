import TokenScope.Browser.Player
import TokenScope.Browser.SourcePane
import TokenScope.Browser.StatusBar
import TokenScope.Browser.TokenPane

/-!
What the browser shows: the text, the pane in focus and the two scroll states.
Drawing first settles the scroll states for the size of the terminal and the place
of the cursor, then paints; settling is all that drawing leaves behind.
-/

namespace TokenScope

structure Size where
  width : Nat
  height : Nat
deriving DecidableEq

namespace Size

/-- The most cells a terminal can have. -/
def mostCells : Nat := 65535

/-- The size a terminal takes when a size is asked for. One of too many cells is cut down with
its proportions kept. -/
def limited (size : Size) : Size :=
  if size.width * size.height ≤ mostCells then size
  else
    let ratio := size.width.toFloat / size.height.toFloat
    let height := (mostCells.toFloat / ratio).sqrt
    ⟨(height * ratio).toUInt16.toNat, height.toUInt16.toNat⟩

/-- Both panes stand above the one row of the status bar. -/
def paneHeight (size : Size) : Nat := size.height - 1

/-- Three fifths of the width, a half rounded up. -/
def sourceWidth (size : Size) : Nat := (6 * size.width + 5) / 10

def tokenWidth (size : Size) : Nat := size.width - size.sourceWidth

def visibleRows (size : Size) : Nat := Pane.visibleRows size.paneHeight

end Size

inductive Focus where
  | source | tokens
deriving DecidableEq

def Focus.next : Focus → Focus
  | source => tokens
  | tokens => source

structure View where
  /-- The lines of the text shown, which need not be the one recorded. -/
  lines : List (List Char)
  focus : Focus
  source : SourceScroll
  tokens : TokenScroll

namespace View

def start (text : String) : View := ⟨linesOf text, .source, .start, .start⟩

def settle (view : View) (r : Recording) (size : Size) : View :=
  { view with
    source := view.source.settle size.visibleRows view.lines.length (SourcePane.currentLine r)
    tokens := view.tokens.settle size.visibleRows r.size r.position }

/-- Up and down scroll the pane in focus. -/
def press (view : View) : Key → View
  | .tab => { view with focus := view.focus.next }
  | .up => match view.focus with
      | .source => { view with source := view.source.lower }
      | .tokens => { view with tokens := view.tokens.up }
  | .down => match view.focus with
      | .source => { view with source := view.source.raise }
      | .tokens => { view with tokens := view.tokens.down }
  | .left | .right | .enter | .backspace | .char _ | .heldSpace | .other => view

def paint (view : View) (p : Player) (size : Size) : List Row :=
  if size.height = 0 then []
  else
    let source := SourcePane.rows p.recording view.lines (view.focus = .source) view.source
      size.sourceWidth size.paneHeight
    let tokens := TokenPane.rows p.recording (view.focus = .tokens) view.tokens
      size.tokenWidth size.paneHeight
    List.zipWith (· ++ ·) source tokens ++
      [StatusBar.row p.recording p.message p.playing size.width]

end View
end TokenScope
