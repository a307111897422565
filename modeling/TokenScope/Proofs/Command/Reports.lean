import TokenScope.Command.Outcome
import TokenScope.Proofs.Lexing.Findings

/-!
What a dump leaves behind, for every text and every limit. It tells what the lexer gives and
finds, no more and no less; past its limit it tells what was found on the way and no token.
It fails where a recording of the same text fails, and where something is found that is not a
stray.
-/

namespace TokenScope

/-- The number that digits write. -/
theorem parseLimit?_ofList {digits : List Char} (hn : digits ≠ [])
    (hd : ∀ c ∈ digits, c.isDigit) (h : Nat.ofDigitChars 10 digits 0 ≤ largestLimit) :
    parseLimit? (String.ofList digits) = some (Nat.ofDigitChars 10 digits 0) := by
  have hplain : ¬ (digits.isEmpty || digits.any (!·.isDigit)) := by
    simpa [hn] using hd
  rw [Nat.ofDigitChars_eq_foldl] at h ⊢
  unfold parseLimit?
  rw [String.toList_ofList]
  split
  · exact absurd (hd '+' (.head _)) (by decide)
  · exact (if_neg hplain).trans (if_pos h)

theorem isDigit_of_mem_decimal {n : Nat} {c : Char} (h : c ∈ Nat.toDigits 10 n) : c.isDigit :=
  Nat.isDigit_of_mem_toDigits (by decide) (by decide) h

/-- A number that is written out is read back, as far as a limit can go. -/
theorem parseLimit?_toString {limit : Nat} (h : limit ≤ largestLimit) :
    parseLimit? (toString limit) = some limit := by
  have hvalue : Nat.ofDigitChars 10 (Nat.toDigits 10 limit) 0 = limit :=
    Nat.ofDigitChars_ten_toDigits
  have hread := parseLimit?_ofList Nat.toDigits_ne_nil (fun _ => isDigit_of_mem_decimal)
    (hvalue.symm ▸ h)
  rwa [hvalue, ← Nat.toString_eq_ofList_toDigits] at hread

/-- The command line asks for a dump of what a path names, within a limit. -/
def AsksDump (arguments : List String) (path : String) (limit : Nat) : Prop :=
  Invocation.ofArguments Lexer.defaultLimit arguments = .ok (.run ⟨path, true, limit⟩)

theorem not_looksLikeOption_toString (limit : Nat) : ¬ looksLikeOption (toString limit) := by
  rw [Nat.toString_eq_ofList_toDigits]
  unfold looksLikeOption
  rw [String.toList_ofList]
  split
  · rename_i hl
    have hdash : '-' ∈ Nat.toDigits 10 limit := hl ▸ .head _
    exact absurd (isDigit_of_mem_decimal hdash) (by decide)
  · exact Bool.false_ne_true

namespace Draft

variable (draft : Draft) (rest : List String)

theorem readAll_dump (h : draft.dump = false) :
    draft.readAll Lexer.defaultLimit ("--dump" :: rest) =
      ({ draft with dump := true } : Draft).readAll Lexer.defaultLimit rest := by
  rw [readAll.eq_def]
  change (do (← draft.addDump).readAll Lexer.defaultLimit rest) = _
  rw [addDump, h]
  rfl

theorem readAll_limit (h : draft.limit = none) {limit : Nat} (hl : limit ≤ largestLimit) :
    draft.readAll Lexer.defaultLimit ("--max-tokens" :: toString limit :: rest) =
      ({ draft with limit := some limit } : Draft).readAll Lexer.defaultLimit rest := by
  rw [readAll]
  change (if looksLikeOption (toString limit) then .error (.missingValue "max-tokens")
    else (do (← draft.addLimit (toString limit)).readAll Lexer.defaultLimit rest)) = _
  rw [if_neg (not_looksLikeOption_toString limit), addLimit, h, parseLimit?_toString hl]
  rfl

theorem addInput_of (h : draft.input = none) {path : String} (hp : path ≠ "") :
    draft.addInput path = .ok { draft with input := some path } := by
  have hs : ¬ path.isEmpty := by simpa using hp
  rw [addInput, h, if_neg hs]
  rfl

theorem readAll_input (h : draft.input = none) {path : String} (hp : path ≠ "")
    (ho : ¬ looksLikeOption path) :
    draft.readAll Lexer.defaultLimit (path :: rest) =
      ({ draft with input := some path } : Draft).readAll Lexer.defaultLimit rest := by
  rw [readAll.eq_def]
  have hplain : ∀ c cs, path.toList ≠ '-' :: c :: cs := by
    intro c cs hl
    rw [looksLikeOption, hl] at ho
    exact ho rfl
  dsimp only
  split
  · exact absurd ‹_› (hplain _ _)
  · exact absurd ‹_› (hplain _ _)
  · exact absurd ‹_› (hplain _ _)
  · rw [draft.addInput_of h hp]
    rfl

theorem readAll_separated (h : draft.input = none) {path : String} (hp : path ≠ "") :
    draft.readAll Lexer.defaultLimit ["--", path] =
      ({ draft with input := some path } : Draft).finish Lexer.defaultLimit := by
  rw [readAll.eq_def]
  change (do (← draft.addInputs [path]).finish Lexer.defaultLimit) = _
  rw [addInputs, draft.addInput_of h hp]
  rfl

end Draft

/-- After two dashes any path can stand, elsewhere one that does not look like an option. -/
theorem asksDump_arguments {path : String} (hp : path ≠ "") {limit : Nat}
    (h : limit ≤ largestLimit) :
    AsksDump ["--dump", "--max-tokens", toString limit, "--", path] path limit ∧
    (¬ looksLikeOption path →
      AsksDump ["--dump", "--max-tokens", toString limit, path] path limit) := by
  constructor
  · rw [AsksDump, Invocation.ofArguments, Draft.readAll_dump _ _ rfl,
      Draft.readAll_limit _ _ rfl h, Draft.readAll_separated _ rfl hp]
    rfl
  · intro ho
    rw [AsksDump, Invocation.ofArguments, Draft.readAll_dump _ _ rfl,
      Draft.readAll_limit _ _ rfl h, Draft.readAll_input _ _ rfl hp ho]
    rfl

/-- Texts, each on a line of its own. -/
def listing (texts : List String) : String := String.join (texts.map (· ++ "\n"))

namespace Command

theorem diagnosticLines_eq (diagnostics : Array Diagnostic) :
    diagnosticLines diagnostics = listing (diagnostics.toList.map (·.message)) := by
  rw [diagnosticLines, listing, List.map_map]
  rfl

theorem tokenLines_eq (tokens : Array Token) :
    tokenLines tokens = listing ((tokens.toList.filter (!·.isEnd)).map (·.render)) := by
  rw [tokenLines, listing, List.map_map]
  rfl

/-- Whatever the arguments stand for, a text that is found is what is dumped. -/
theorem start_of_asksDump {arguments : List String} {path : String} {limit : Nat}
    (asked : AsksDump arguments path limit) {lookUp : String → Entry} {source : String}
    (found : lookUp path = .file source.toUTF8) :
    start arguments lookUp = .done (dump (.ofString source) limit) := by
  rw [start, asked]
  dsimp only
  rw [run, found, Entry.text_file]
  rfl

theorem errorLine_limitExceeded (limit : Nat) :
    errorLine (LimitExceeded.mk limit).message =
      "Error: Token limit exceeded: more than " ++ toString limit ++ " tokens\n" := by
  unfold errorLine LimitExceeded.message
  generalize toString limit = digits
  apply String.toList_inj.1
  simp

/-- Past the limit a dump and a recording of the text fail together, and the dump shows what
was found on the way; within it both have all tokens and all that was found. -/
structure Agrees (source : String) (limit : Nat) (outcome : Outcome) : Prop where
  exceeded (h : limit < (Lexer.ofString source).tokenize.1.size) :
    outcome = .done ⟨1, "",
      listing (((Lexer.ofString source).after limit).diagnostics.toList.map (·.message)) ++
        ("Error: Token limit exceeded: more than " ++ toString limit ++ " tokens\n")⟩ ∧
    Recording.record (.ofString source) limit = .error ⟨limit⟩
  within (h : (Lexer.ofString source).tokenize.1.size ≤ limit) :
    outcome = .done ⟨
      if (Lexer.ofString source).tokenize.2.diagnostics.any (·.fault ≠ .unexpectedCharacter)
        then 1 else 0,
      listing (((Lexer.ofString source).tokenize.1.toList.filter (!·.isEnd)).map (·.render)),
      listing ((Lexer.ofString source).tokenize.2.diagnostics.toList.map (·.message))⟩ ∧
    ∃ r, Recording.record (.ofString source) limit = .ok r ∧
      r.tokens = (Lexer.ofString source).tokenize.1 ∧
      r.diagnostics = (Lexer.ofString source).tokenize.2.diagnostics

theorem agrees_dump (source : String) (limit : Nat) :
    Agrees source limit (.done (dump (.ofString source) limit)) := by
  constructor
  case exceeded =>
    intro h
    have hl := Nat.not_le.2 h
    rw [dump, Lexer.collect_eq, if_neg hl, Lexer.record_eq, if_neg hl, ← diagnosticLines_eq,
      ← errorLine_limitExceeded]
    exact ⟨rfl, rfl⟩
  case within =>
    intro h
    have herror := (accounts_tokenize source).any_isError
    rw [Array.any_toList, Array.any_toList] at herror
    rw [dump, Lexer.collect_eq, if_pos h, Lexer.record_eq, if_pos h, ← diagnosticLines_eq,
      ← tokenLines_eq, ← herror]
    exact ⟨rfl, _, rfl, rfl, rfl⟩

/-- Every command line that asks for a dump of a text gets what the lexer and a recording have,
and every text and limit can be asked for. -/
theorem dump_agrees {path : String} {lookUp : String → Entry} {source : String}
    (found : lookUp path = .file source.toUTF8) (limit : Nat) :
    (∀ arguments, AsksDump arguments path limit →
      Agrees source limit (start arguments lookUp)) ∧
    (path ≠ "" → limit ≤ largestLimit →
      AsksDump ["--dump", "--max-tokens", toString limit, "--", path] path limit ∧
      (¬ looksLikeOption path →
        AsksDump ["--dump", "--max-tokens", toString limit, path] path limit)) := by
  constructor
  · intro arguments asked
    rw [start_of_asksDump asked found]
    exact agrees_dump source limit
  · intro hp h
    exact asksDump_arguments hp h

/-- A stray, a number and a number that breaks off, with just enough tokens and with too few. -/
theorem dump_agrees_broken_number :
    let lookUp : String → Entry := fun _ => .file "@ 7 0x".toUTF8
    let stray := "Lexer error at line 1, column 1: unexpected character '@'\n"
    start ["--dump", "--max-tokens", "3", "text"] lookUp = .done ⟨1,
      "<integer, 7>\n<error, bad character>\n",
      stray ++ "Lexer error at line 1, column 5: malformed hexadecimal literal '0x'\n"⟩ ∧
    start ["--dump", "--max-tokens", "1", "text"] lookUp = .done ⟨1, "",
      stray ++ "Error: Token limit exceeded: more than 1 tokens\n"⟩ := by
  intro lookUp stray
  have found : lookUp "text" = .file "@ 7 0x".toUTF8 := rfl
  have hthree := dump_agrees found 3
  have hone := dump_agrees found 1
  have within := (hthree.1 _ ((hthree.2 (by decide) (by decide)).2 (by decide))).within
    (by decide +kernel)
  have exceeded := (hone.1 _ ((hone.2 (by decide) (by decide)).2 (by decide))).exceeded
    (by decide +kernel)
  constructor
  · exact within.1.trans (congrArg Outcome.done (by decide +kernel))
  · exact exceeded.1.trans (congrArg Outcome.done (by decide +kernel))

end Command
end TokenScope
