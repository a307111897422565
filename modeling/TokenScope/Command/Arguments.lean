/-!
The arguments of the command line, read from left to right. The first problem
wins, and a request for help or for the version is served as soon as it is met. An
option takes the next argument as its value only if that does not look like an
option; after `--` everything is an input.
-/

namespace TokenScope

inductive UsageError where
  | unknownOption (argument : String)
  | repeatedOption (name : String)
  | unexpectedValue (name : String)
  | missingValue (name : String)
  | badNumber (value : String)
  | emptyInput
  | extraInput (argument : String)
  | missingInput
deriving DecidableEq

def UsageError.message : UsageError → String
  | unknownOption argument => "unknown option " ++ argument
  | repeatedOption name => "option " ++ name ++ " is given twice"
  | unexpectedValue name => "option " ++ name ++ " takes no value"
  | missingValue name => "option " ++ name ++ " needs a value"
  | badNumber value => "not a number of tokens: " ++ value
  | emptyInput => "the input has no name"
  | extraInput argument => "more than one input: " ++ argument
  | missingInput => "no input is given"

structure Options where
  input : String
  dump : Bool
  limit : Nat
deriving DecidableEq

inductive Invocation where
  | help
  | version
  | run (options : Options)
deriving DecidableEq

/-- What has been read of the arguments. -/
structure Draft where
  input : Option String
  dump : Bool
  limit : Option Nat

/-- The largest limit that can be asked for, which takes 64 bits. -/
def largestLimit : Nat := 18446744073709551615

/-- A number up to the largest limit: digits with perhaps a plus sign before them. -/
def parseLimit? (value : String) : Option Nat :=
  let digits := match value.toList with
    | '+' :: rest => rest
    | cs => cs
  if digits.isEmpty || digits.any (!·.isDigit) then none
  else
    let n := digits.foldl (fun n c => 10 * n + (c.toNat - '0'.toNat)) 0
    if n ≤ largestLimit then some n else none

/-- Anything after a dash, but not the dash alone. -/
def looksLikeOption (argument : String) : Bool :=
  match argument.toList with
  | '-' :: _ :: _ => true
  | _ => false

namespace Draft

def empty : Draft := ⟨none, false, none⟩

def addInput (draft : Draft) (argument : String) : Except UsageError Draft :=
  if draft.input.isSome then .error (.extraInput argument)
  else if argument.isEmpty then .error .emptyInput
  else .ok { draft with input := some argument }

def addDump (draft : Draft) : Except UsageError Draft :=
  if draft.dump then .error (.repeatedOption "dump") else .ok { draft with dump := true }

def addLimit (draft : Draft) (value : String) : Except UsageError Draft :=
  if draft.limit.isSome then .error (.repeatedOption "max-tokens")
  else match parseLimit? value with
    | some limit => .ok { draft with limit := some limit }
    | none => .error (.badNumber value)

def addInputs (draft : Draft) : List String → Except UsageError Draft
  | [] => .ok draft
  | argument :: rest => do (← draft.addInput argument).addInputs rest

def finish (draft : Draft) (defaultLimit : Nat) : Except UsageError Invocation :=
  match draft.input with
  | some input => .ok (.run ⟨input, draft.dump, draft.limit.getD defaultLimit⟩)
  | none => .error .missingInput

/-- Flags written together after one dash. Ends early where one of them asks for help
or for the version. -/
def addFlags (draft : Draft) : List Char → Except UsageError (Draft × Option Invocation)
  | [] => .ok (draft, none)
  | 'd' :: rest => do (← draft.addDump).addFlags rest
  | 'h' :: _ => .ok (draft, some .help)
  | 'V' :: _ => .ok (draft, some .version)
  | c :: _ => .error (.unknownOption c.toString)

end Draft

/-- The name of a long option and the value attached to it by an equals sign. -/
def splitValue (option : List Char) : String × Option String :=
  let name := String.ofList (option.takeWhile (· ≠ '='))
  match option.dropWhile (· ≠ '=') with
  | [] => (name, none)
  | _ :: value => (name, some (String.ofList value))

def Draft.readAll (defaultLimit : Nat) (draft : Draft) :
    List String → Except UsageError Invocation
  | [] => draft.finish defaultLimit
  | argument :: rest =>
      match argument.toList with
      | ['-', '-'] => do (← draft.addInputs rest).finish defaultLimit
      | '-' :: '-' :: option =>
          match splitValue option with
          | ("help", none) => .ok .help
          | ("version", none) => .ok .version
          | ("dump", none) => do (← draft.addDump).readAll defaultLimit rest
          | ("max-tokens", some value) => do
              (← draft.addLimit value).readAll defaultLimit rest
          | ("max-tokens", none) =>
              match rest with
              | value :: rest =>
                  if looksLikeOption value then .error (.missingValue "max-tokens")
                  else do (← draft.addLimit value).readAll defaultLimit rest
              | [] => .error (.missingValue "max-tokens")
          | (name, some _) =>
              if name ∈ ["help", "version", "dump"] then .error (.unexpectedValue name)
              else .error (.unknownOption argument)
          | (_, none) => .error (.unknownOption argument)
      | '-' :: flag :: flags => do
          match ← draft.addFlags (flag :: flags) with
          | (_, some invocation) => .ok invocation
          | (draft, none) => draft.readAll defaultLimit rest
      | _ => do (← draft.addInput argument).readAll defaultLimit rest

/-- What a list of arguments asks for. -/
def Invocation.ofArguments (defaultLimit : Nat) (arguments : List String) :
    Except UsageError Invocation :=
  Draft.empty.readAll defaultLimit arguments

end TokenScope
