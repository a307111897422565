import TokenScope.Command.Arguments
import TokenScope.Command.Entry
import TokenScope.Recording

/-!
What the command does, as a function of its arguments and of what the input names.
A dump writes a token a line and every diagnostic; it fails when a token is an error
or the limit is passed, and a failed limit still shows the diagnostics met before it.
Otherwise the input is recorded and handed to the browser.
-/

namespace TokenScope

/-- What a command leaves behind: an exit status and two texts. -/
structure Report where
  status : Nat
  output : String
  notes : String
deriving DecidableEq

inductive Outcome where
  | done (report : Report)
  /-- The notes are written before the browser opens. -/
  | browse (notes : String) (recording : Recording) (source : String)

namespace Command

def versionText : String := "grapher 0.1.0\n"

def helpText : String :=
  String.join <| List.map (· ++ "\n") [
    "Tokenizer, AST model and terminal token browser for the Grapher language",
    "",
    "Usage: grapher [OPTIONS] <INPUT>",
    "",
    "Arguments:",
    "  <INPUT>  Grapher source file to tokenize",
    "",
    "Options:",
    "  -d, --dump                     " ++
      "Print the token stream as `<kind, text>` lines instead of opening the browser",
    "      --max-tokens <MAX_TOKENS>  " ++
      "Give up if the file produces more tokens than this [default: 1000000]",
    "  -h, --help                     Print help",
    "  -V, --version                  Print version"]

/-- A line that tells why the command failed. -/
def errorLine (message : String) : String := "Error: " ++ message ++ "\n"

def failure (message : String) : Report := ⟨1, "", errorLine message⟩

def diagnosticLines (diagnostics : Array Diagnostic) : String :=
  String.join (diagnostics.toList.map fun d => d.message ++ "\n")

/-- Every token but the end of input, each on a line of its own unless its text has more. -/
def tokenLines (tokens : Array Token) : String :=
  String.join ((tokens.toList.filter (!·.isEnd)).map fun t => t.render ++ "\n")

def dump (lexer : Lexer) (limit : Nat) : Report :=
  match lexer.collect limit with
  | (.ok tokens, drained) =>
      ⟨if tokens.any (·.isError) then 1 else 0, tokenLines tokens,
        diagnosticLines drained.diagnostics⟩
  | (.error e, stopped) =>
      ⟨1, "", diagnosticLines stopped.diagnostics ++ errorLine e.message⟩

def browse (input source : String) (limit : Nat) : Outcome :=
  let opening := "Lexing " ++ input ++ "...\n"
  match Recording.record (.ofString source) limit with
  | .error e => .done ⟨1, "", opening ++ errorLine e.message⟩
  | .ok recording =>
      let summary := "Recorded " ++ toString recording.size ++ " tokens (" ++
        toString recording.diagnostics.size ++ " diagnostics).\n"
      .browse (opening ++ summary) recording source

def run (options : Options) (entry : Entry) : Outcome :=
  if entry.isMissing then .done (failure ("File '" ++ options.input ++ "' not found"))
  else match entry.text with
    | .error e => .done (failure e.message)
    | .ok source =>
        if options.dump then .done (dump (.ofString source) options.limit)
        else browse options.input source options.limit

/-- The command as a whole. A path is looked up only if the arguments ask for it. -/
def start (arguments : List String) (lookUp : String → Entry) : Outcome :=
  match Invocation.ofArguments Lexer.defaultLimit arguments with
  | .error e => .done ⟨2, "", "error: " ++ e.message ++ "\n"⟩
  | .ok .help => .done ⟨0, helpText, ""⟩
  | .ok .version => .done ⟨0, versionText, ""⟩
  | .ok (.run options) => run options (lookUp options.input)

end Command
end TokenScope
