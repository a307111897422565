import TokenScope.Browser.Pane
import TokenScope.Recording
import TokenScope.Text.Escape
import TokenScope.Text.Layout

/-!
The pane that lists the tokens, one to a row. The window follows the cursor when it
has moved and stays where it was put by hand until then; it never runs past the last
token while there are enough to fill it.
-/

namespace TokenScope

structure TokenScroll where
  offset : Nat
  /-- The position of the cursor when the window last followed it. -/
  followed : Option Nat
deriving DecidableEq

namespace TokenScroll

def start : TokenScroll := ⟨0, none⟩

/-- Brings a position into a window of `visible` rows by the least move, if it is new. -/
def follow (scroll : TokenScroll) (visible position : Nat) : TokenScroll :=
  if scroll.followed = some position then scroll
  else
    let offset :=
      if position < scroll.offset then position
      else if scroll.offset + visible ≤ position then position + 1 - visible
      else scroll.offset
    ⟨offset, some position⟩

/-- The largest offset that leaves no row empty. -/
def bound (visible total : Nat) : Nat := total - visible

def settle (scroll : TokenScroll) (visible total position : Nat) : TokenScroll :=
  let scroll := scroll.follow visible position
  { scroll with offset := min scroll.offset (bound visible total) }

def up (scroll : TokenScroll) : TokenScroll := { scroll with offset := scroll.offset - 1 }

def down (scroll : TokenScroll) : TokenScroll := { scroll with offset := scroll.offset + 1 }

end TokenScroll

namespace TokenPane

def shownText (token : Token) : String :=
  match token.kind with
  | .endOfInput => "(end of input)"
  | .string => "\"" ++ EscapeRule.listed.escape token.text ++ "\""
  | _ => EscapeRule.listed.escape token.text

structure Item where
  index : Nat
  token : Token
  isCurrent : Bool

def window (r : Recording) (offset visible : Nat) : List Item :=
  (r.tokens.extract offset (offset + visible)).toList.mapIdx fun i token =>
    ⟨offset + i, token, offset + i = r.position⟩

def Item.spans (item : Item) : List Span :=
  let dim := Style.ofFore Palette.dim
  let marker := if item.isCurrent then "▶" else " "
  [.of (marker ++ " " ++ alignRight 5 (toString item.index) ++ " ") dim,
    .of (alignRight 8 item.token.location.render ++ " ") dim,
    .of (alignLeft 10 item.token.kind.name ++ " ") item.token.kind.style,
    .of (shownText item.token) (.ofFore Palette.text)]

def Item.style (item : Item) : Style :=
  if item.isCurrent then (Style.ofBack Palette.currentLine).emphasised else .plain

def Item.row (item : Item) (width : Nat) : Row :=
  let spans := item.spans.map fun span => { span with style := span.style.laidOver item.style }
  (Row.ofItem width spans).fillRight width (.ofChar ' ' item.style)

def title (r : Recording) : String :=
  let size := toString r.size
  if r.errorCount = 0 then " Tokens (" ++ size ++ ") "
  else " Tokens (" ++ size ++ ", " ++ toString r.errorCount ++ " errors) "

def rows (r : Recording) (focused : Bool) (scroll : TokenScroll) (width height : Nat) :
    List Row :=
  let pane : Pane := ⟨title r, borderStyle focused⟩
  let shown := window r scroll.offset (Pane.visibleRows height)
  pane.rows width height (shown.map (·.row (width - 2)))

end TokenPane
end TokenScope
