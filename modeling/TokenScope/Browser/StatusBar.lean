import TokenScope.Browser.Cells
import TokenScope.Recording

/-!
The bottom row. Its left half tells where the cursor is and what happened last; its
right half lists the keys and holds the badges, pushed to the right end if it fits.
-/

namespace TokenScope
namespace StatusBar

def onError (r : Recording) : Bool :=
  match r.current? with
  | some token => token.isError
  | none => false

def badgeStyle (colour : Colour) : Style := ⟨some .black, some colour, true, false⟩

def keyStyle : Style := ⟨some .black, some Palette.dim, false, false⟩

def onBar (colour : Colour) : Style := (Style.ofFore colour).withBack Palette.currentLine

def left (r : Recording) (message : String) : List Span :=
  let place := " Token " ++ toString (r.position + 1) ++ "/" ++ toString r.size ++ " "
  [.of place (badgeStyle (if onError r then Palette.error else Palette.primary)),
    .of " | " (onBar Palette.dim),
    .of (" " ++ message ++ " ") (onBar (if onError r then Palette.error else Palette.text))]

def separator : Span := .of "│" (onBar Palette.dim)

def keys : List Span :=
  let describe (text : String) : Span := .of text (onBar Palette.text)
  [.of " ←/→ " keyStyle, describe " step ", separator, describe " ",
    .of " ⎵ " keyStyle, describe " play ", separator, describe " ",
    .of " ↵ / ⌫ " keyStyle, describe " end/start ", separator, describe " ",
    .of "q" keyStyle, describe " quit "]

def warnings (r : Recording) : List Span :=
  if r.diagnostics.isEmpty then []
  else [separator, .of (" ⚠ " ++ toString r.diagnostics.size ++ " ") (badgeStyle Palette.error)]

/-- Playing is shown before an end, and the last token before the first. -/
def badge (r : Recording) (playing : Bool) : List Span :=
  if playing then [separator, .of " ▶ PLAYING " (badgeStyle Palette.secondary)]
  else if r.atEnd then [separator, .of " END " (badgeStyle Palette.error)]
  else if r.atStart then [separator, .of " START " (badgeStyle Palette.success)]
  else []

def right (r : Recording) (playing : Bool) : List Span :=
  keys ++ warnings r ++ badge r playing

def row (r : Recording) (message : String) (playing : Bool) (width : Nat) : Row :=
  let leftWidth := (width + 1) / 2
  let rightWidth := width - leftWidth
  let filler := Cell.ofChar ' ' (.ofBack Palette.currentLine)
  (Row.ofText leftWidth filler (left r message)).fillRight leftWidth filler ++
    (Row.ofText rightWidth filler (right r playing)).fillLeft rightWidth filler

end StatusBar
end TokenScope
