import TokenScope.Recording

/-!
The part of the browser that the keys act on: the recording with its cursor, the
auto-play switch, the wish to quit, and the message about what happened last. It
knows nothing of windows and sizes.
-/

namespace TokenScope

/-- The description of the current token: its diagnostic if it is an error. -/
def Recording.describe? (r : Recording) : Option String :=
  r.current?.map fun token =>
    if token.isError then
      match r.diagnostics.find? fun d => d.location = token.location with
      | some diagnostic => diagnostic.message
      | none => "Error at " ++ token.location.render ++ ": " ++ token.text
    else token.render ++ " at " ++ token.location.render

/-- Steps forward up to `n` times, and tells how many steps there were. -/
def Recording.advance (r : Recording) : Nat → Nat × Recording
  | 0 => (0, r)
  | n + 1 =>
      match r.forward with
      | .error _ => (0, r)
      | .ok later =>
          let (steps, last) := later.advance n
          (steps + 1, last)

inductive Key where
  | left | right | up | down
  | tab | enter | backspace
  | char (c : Char)
  /-- A space that follows the last one too soon to be meant. -/
  | heldSpace
  | other
deriving DecidableEq

structure Player where
  recording : Recording
  playing : Bool
  quitting : Bool
  message : String

namespace Player

def describe (p : Player) : Player :=
  match p.recording.describe? with
  | some message => { p with message }
  | none => p

def start (recording : Recording) : Player :=
  describe ⟨recording, false, false, "Ready!"⟩

def stepped (p : Player) (result : Except StepError Recording) : Player :=
  match result with
  | .ok recording => { p with recording, playing := false }.describe
  | .error e => { p with playing := false, message := "Cannot step: " ++ e.message }

/-- Steps forward several times and tells if the end came first. -/
def leap (p : Player) (n : Nat) : Player :=
  let (steps, recording) := p.recording.advance n
  let landed := { p with recording, playing := false }.describe
  if steps < n then
    { landed with message := "Stepped forward " ++ toString steps ++ " token(s)" }
  else landed

def togglePlay (p : Player) : Player :=
  if p.playing then { p with playing := false, message := "Paused" }
  else { p with playing := true, message := "Playing..." }

/-- What auto-play does when its interval has passed. At the last token it ends. -/
def tick (p : Player) : Player :=
  if p.playing then
    match p.recording.forward with
    | .ok recording => { p with recording }.describe
    | .error _ => { p with playing := false, message := "Playback complete" }
  else p

def pressChar (p : Player) (c : Char) : Player :=
  if c = 'q' ∨ c = 'Q' then { p with quitting := true }
  else if '1' ≤ c ∧ c ≤ '9' then p.leap (c.toNat - '0'.toNat)
  else if c = ' ' then p.togglePlay
  else p

def press (p : Player) : Key → Player
  | .left => p.stepped p.recording.back
  | .right => p.stepped p.recording.forward
  | .enter =>
      { p with recording := p.recording.toEnd, playing := false, message := "Jumped to end" }
  | .backspace =>
      { p with recording := p.recording.toStart, playing := false, message := "Jumped to start" }
  | .char c => p.pressChar c
  | .up | .down | .tab | .heldSpace | .other => p

end Player
end TokenScope
