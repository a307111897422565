import TokenScope.Browser.View

/-!
The browser on its terminal. A turn draws, stops if the user has quit, lets
auto-play act if its interval has passed, and handles at most one key. Keys act on
the player and on the view apart, and nothing of the view reaches the player.
-/

namespace TokenScope

structure Browser where
  player : Player
  view : View
  size : Size

inductive Event where
  | resize (size : Size)
  /-- A turn, in which the interval of auto-play has passed or not and a key was pressed or
  not. -/
  | turn (due : Bool) (key : Option Key)
deriving DecidableEq

namespace Browser

def start (recording : Recording) (text : String) (size : Size) : Browser :=
  ⟨.start recording, .start text, size.limited⟩

def draw (b : Browser) : Browser :=
  { b with view := b.view.settle b.player.recording b.size }

def screen (b : Browser) : List Row :=
  b.draw.view.paint b.player b.size

def press (b : Browser) (key : Key) : Browser :=
  { b with player := b.player.press key, view := b.view.press key }

def turn (b : Browser) (due : Bool) (key : Option Key) : Browser :=
  let drawn := b.draw
  if drawn.player.quitting then drawn
  else
    let played := if due then { drawn with player := drawn.player.tick } else drawn
    match key with
    | some key => played.press key
    | none => played

def handle (b : Browser) : Event → Browser
  | .resize size => { b with size := size.limited }
  | .turn due key => b.turn due key

def run (b : Browser) (events : List Event) : Browser := events.foldl handle b

end Browser
end TokenScope
