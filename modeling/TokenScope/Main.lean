import TokenScope.Browser.Ansi
import TokenScope.Command.Outcome

/-!
The program. It looks up what a path names, writes what the command reports, and
runs the browser on the terminal, one turn for each key read.
-/

namespace TokenScope

/-- What a path names. What is there but cannot be read as a file is a directory. -/
def lookUp (path : String) : IO Entry := do
  try
    return .file (← IO.FS.readBinFile path)
  catch
    | .noFileOrDirectory .. => return .missing
    | _ => return .directory

def readByte (input : IO.FS.Stream) : IO (Option UInt8) := do
  return (← input.read 1).data[0]?

/-- The next key, or nothing when the input has ended. -/
def readKey (input : IO.FS.Stream) : IO (Option Key) := do
  let first ← readByte input
  if first = some 27 then
    if (← readByte input) = some 91 then return (← readByte input).map Key.ofEscaped
    else return some .other
  else return first.map Key.ofByte

/-- The time in milliseconds between two steps of auto-play. -/
def playInterval : Nat := 500

/-- The time in milliseconds within which a second space is ignored. -/
def spaceInterval : Nat := 200

/-- Runs turns until the user quits or the input ends. The times are those of the last step
of auto-play and of the last space that counted. -/
partial def browse (input output : IO.FS.Stream) (b : Browser) (played spaced : Nat) :
    IO Unit := do
  output.putStr (screenText b.screen)
  output.flush
  if b.player.quitting then return
  if let some key ← readKey input then
    let now ← IO.monoMsNow
    let due := b.player.playing && played + playInterval ≤ now
    let isSpace : Bool := key = .char ' '
    let held := isSpace && now < spaced + spaceInterval
    let later := b.turn due (some (if held then .heldSpace else key))
    let started := !b.player.playing && later.player.playing
    let played := if due then now else if started then now - playInterval else played
    browse input output later played (if isSpace && !held then now else spaced)

end TokenScope

open TokenScope in
def main (arguments : List String) : IO UInt32 := do
  let entry ← match Invocation.ofArguments Lexer.defaultLimit arguments with
    | .ok (.run options) => lookUp options.input
    | _ => pure .missing
  match Command.start arguments fun _ => entry with
  | .done report =>
      IO.print report.output
      IO.eprint report.notes
      return UInt32.ofNat report.status
  | .browse notes recording source =>
      IO.eprint notes
      let output ← IO.getStdout
      output.putStr clearText
      browse (← IO.getStdin) output (.start recording source ⟨80, 24⟩) 0 0
      output.putStr clearText
      return 0
