import Mathlib.Data.List.Nodup
import TokenScope.Proofs.Lexing.Order
import TokenScope.Proofs.Lexing.Partition
import TokenScope.Proofs.Lexing.Stream
import TokenScope.Proofs.Recording.Index

/-!
Diagnostics beside tokens, after any number of tokens. Error tokens and failed scans go
together one by one, diagnostics are found at ever later places, and no stray stands where a
token does. A recording therefore counts as many errors as it has failures.
-/

namespace TokenScope

/-- What the diagnostics found so far have to do with the tokens given so far. -/
structure Accounts (tokens : List Token) (found : List Diagnostic) : Prop where
  failures : (found.filter (·.fault ≠ .unexpectedCharacter)).map (·.location) =
    (tokens.filter (·.isError)).map (·.location)
  ordered : found.Pairwise fun d e => d.location.Before e.location
  apart : ∀ d ∈ found, d.fault = .unexpectedCharacter →
    ∀ t ∈ tokens, ¬ t.isEnd → d.location ≠ t.location

namespace Lexer

variable {lexer other : Lexer}

theorem given_congr (h : lexer.next = other.next) (n : Nat) :
    lexer.given (n + 1) = other.given (n + 1) := by
  rw [given, given, h]

theorem after_congr (h : lexer.next = other.next) (n : Nat) :
    lexer.after (n + 1) = other.after (n + 1) := by
  rw [after_succ, after_succ, h]

/-- What a lexer has read through after some tokens: the first pieces of the text, and
perhaps its end again and again. -/
structure Reaches (source : List Char) (here : Location) (found : Array Diagnostic) (n : Nat)
    (ps : List Piece) : Prop where
  front : ps <+: pieces source
  tokens : ∃ k, (Lexer.mk source here found).given n =
    Piece.tokens here ps ++ List.replicate k (Token.endOfInput (here.after source))
  diagnostics : ((Lexer.mk source here found).after n).diagnostics =
    found ++ Piece.diagnostics here ps

theorem exists_reaches (source : List Char) (here : Location)
    (found : Array Diagnostic) (n : Nat) : ∃ ps, Reaches source here found n ps := by
  induction source using pieces_induction generalizing here found n with
  | nil =>
      refine ⟨[], List.nil_prefix, ⟨n, ?_⟩, ?_⟩
      · exact given_of_isEnd (by rw [next_nil]; rfl) n
      · induction n with
        | zero => simp [after, Piece.diagnostics]
        | succ n ih => rwa [after_succ, next_nil]
  | passed c rest h ih =>
      cases n with
      | zero => exact ⟨[], List.nil_prefix, ⟨0, rfl⟩, by simp [after, Piece.diagnostics]⟩
      | succ n =>
          have hn := @next_passed here found c rest h
          obtain ⟨ps, hfront, ⟨k, htokens⟩, hfound⟩ :=
            ih (here.pass c) (found ++ ((Piece.passed c).diagnostic? here).toList) (n + 1)
          refine ⟨.passed c :: ps, ?_, ⟨k, ?_⟩, ?_⟩
          · rw [pieces_cons h]
            exact List.cons_prefix_cons.2 ⟨rfl, hfront⟩
          · rw [given_congr hn, htokens, Piece.tokens_cons]
            rfl
          · rw [after_congr hn, hfound, Piece.diagnostics_cons, append_list_append]
            rfl
  | cut source lexeme h ih =>
      cases n with
      | zero => exact ⟨[], List.nil_prefix, ⟨0, rfl⟩, by simp [after, Piece.diagnostics]⟩
      | succ n =>
          have hn := next_cut here found h
          have ha : here.after source = (here.after lexeme.read).after lexeme.rest := by
            rw [← Location.after_append, (Lexeme.cutFrom_of_first? h).2]
          obtain ⟨ps, hfront, ⟨k, htokens⟩, hfound⟩ :=
            ih (here.after lexeme.read) (found ++ (lexeme.diagnostic? here).toList) n
          refine ⟨.cut lexeme.reading lexeme.read :: ps, ?_, ⟨k, ?_⟩, ?_⟩
          · rw [pieces_of_first? h]
            exact List.cons_prefix_cons.2 ⟨rfl, hfront⟩
          · rw [given, hn, htokens, Piece.tokens_cons, ha]
            rfl
          · rw [after_succ, hn, hfound, Piece.diagnostics_cons, append_list_append]
            rfl

end Lexer

namespace Piece

theorem Sound.chars_ne_nil {p : Piece} (h : p.Sound) : p.chars ≠ [] := by
  cases p with
  | passed c => exact List.cons_ne_nil c []
  | cut reading read => exact h.1

theorem location_of_diagnostic? {p : Piece} {here : Location} {d : Diagnostic}
    (h : p.diagnostic? here = some d) : d.location = here := by
  cases p with
  | passed c =>
      simp only [diagnostic?, Option.ite_none_right_eq_some, Option.some.injEq] at h
      rw [← h.2]
  | cut reading read =>
      cases reading with
      | token kind text => contradiction
      | failure fault text lexeme =>
          cases h
          rfl

theorem location_of_token? {p : Piece} {here : Location} {t : Token}
    (h : p.token? here = some t) : t.location = here := by
  cases p with
  | passed c => contradiction
  | cut reading read =>
      cases h
      exact Reading.location_toToken _ _ _

/-- A stray is reported where no lexeme starts. -/
theorem Sound.token?_of_stray {p : Piece} (h : p.Sound) {here : Location} {d : Diagnostic}
    (hd : p.diagnostic? here = some d) (hf : d.fault = .unexpectedCharacter) :
    p.token? here = none := by
  cases p with
  | passed c => rfl
  | cut reading read =>
      cases reading with
      | token kind text => contradiction
      | failure fault text lexeme =>
          cases hd
          exact absurd hf h.2.2

theorem failures_locations (here : Location) {ps : List Piece} (h : ∀ p ∈ ps, p.Sound) :
    ((diagnostics here ps).filter (·.fault ≠ .unexpectedCharacter)).map (·.location) =
      ((tokens here ps).filter (·.isError)).map (·.location) := by
  induction ps generalizing here with
  | nil => rfl
  | cons p ps ih =>
      rw [List.forall_mem_cons] at h
      rw [diagnostics_cons, tokens_cons, List.filter_append, List.filter_append, List.map_append,
        List.map_append, ih _ h.2]
      congr 1
      cases p with
      | passed c =>
          by_cases hl : Lead.ofChar c = .stray
          · simp [diagnostic?, token?, hl]
          · simp [diagnostic?, token?, hl]
      | cut reading read =>
          obtain ⟨-, -, hg⟩ := h.1
          cases reading with
          | token kind text =>
              have he : ¬ kind = .error := hg.2
              simp [diagnostic?, token?, Reading.toDiagnostic?, Reading.toToken, Token.isError, he]
          | failure fault text lexeme =>
              have hf : fault ≠ .unexpectedCharacter := hg
              simp [diagnostic?, token?, Reading.toDiagnostic?, Reading.toToken, Token.isError, hf]

theorem pairwise_diagnostics (here : Location) {ps : List Piece} (h : ∀ p ∈ ps, p.Sound) :
    (diagnostics here ps).Pairwise fun d e => d.location.Before e.location := by
  rw [diagnostics, reports, List.pairwise_filterMap]
  apply (pairwise_placed here [] fun p hp => (h p hp).chars_ne_nil).imp
  intro q r hqr d hd e he
  rwa [location_of_diagnostic? hd, location_of_diagnostic? he]

/-- Two placed pieces at one place are the same. -/
theorem eq_of_mem_placed {here : Location} {ps : List Piece} (h : ∀ p ∈ ps, p.chars ≠ [])
    {q r : List Char × Piece} (hq : q ∈ placed [] ps) (hr : r ∈ placed [] ps)
    (he : here.after q.1 = here.after r.1) : q = r := by
  have hn : ((placed [] ps).map fun q => here.after q.1).Nodup :=
    List.pairwise_map.2 ((pairwise_placed here [] h).imp fun hqr => hqr.ne)
  exact List.inj_on_of_nodup_map hn hq hr he

theorem stray_apart {here : Location} {ps : List Piece} (h : ∀ p ∈ ps, p.Sound)
    {d : Diagnostic} (hd : d ∈ diagnostics here ps) (hf : d.fault = .unexpectedCharacter)
    {t : Token} (ht : t ∈ tokens here ps) : d.location ≠ t.location := by
  obtain ⟨before, p, hp, hpd⟩ := (mem_reports _ _).1 hd
  obtain ⟨before', p', hp', hpt⟩ := (mem_reports _ _).1 ht
  intro he
  rw [location_of_diagnostic? hpd, location_of_token? hpt] at he
  have hsame := eq_of_mem_placed (fun p hp => (h p hp).chars_ne_nil) hp hp' he
  cases hsame
  have hm : p ∈ ps := mem_of_mem_placed hp
  rw [(h p hm).token?_of_stray hpd hf] at hpt
  contradiction

theorem accounts (here : Location) {ps : List Piece} (h : ∀ p ∈ ps, p.Sound) :
    Accounts (tokens here ps) (diagnostics here ps) where
  failures := failures_locations here h
  ordered := pairwise_diagnostics here h
  apart _ hd hf _ ht _ := stray_apart h hd hf ht

end Piece

/-- Ends of input make no difference. -/
theorem Accounts.append_end {tokens : List Token} {found : List Diagnostic}
    (h : Accounts tokens found) (k : Nat) (here : Location) :
    Accounts (tokens ++ List.replicate k (Token.endOfInput here)) found := by
  constructor
  case failures =>
    have hn : (List.replicate k (Token.endOfInput here)).filter (·.isError) = [] := by
      simp [Token.endOfInput, Token.isError]
    rw [List.filter_append, hn, List.append_nil]
    exact h.failures
  case ordered => exact h.ordered
  case apart =>
    intro d hd hf t ht he
    rw [List.mem_append] at ht
    obtain ht | ht := ht
    · exact h.apart d hd hf t ht he
    · rw [(List.mem_replicate.1 ht).2] at he
      exact absurd rfl he

theorem Accounts.countP_failures {tokens : List Token} {found : List Diagnostic}
    (h : Accounts tokens found) :
    found.countP (·.fault ≠ .unexpectedCharacter) = tokens.countP (·.isError) := by
  have hl := congrArg List.length h.failures
  rwa [List.length_map, List.length_map, ← List.countP_eq_length_filter,
    ← List.countP_eq_length_filter] at hl

/-- There is an error token if and only if there is a failure. -/
theorem Accounts.any_isError {tokens : List Token} {found : List Diagnostic}
    (h : Accounts tokens found) :
    tokens.any (·.isError) = found.any (·.fault ≠ .unexpectedCharacter) := by
  rw [Bool.eq_iff_iff, List.any_eq_true, List.any_eq_true, ← List.countP_pos_iff,
    ← List.countP_pos_iff, h.countP_failures]

theorem accounts_given (source : String) (n : Nat) :
    Accounts ((Lexer.ofString source).given n)
      ((Lexer.ofString source).after n).diagnostics.toList := by
  obtain ⟨ps, hfront, ⟨k, htokens⟩, hfound⟩ := Lexer.exists_reaches source.toList .start #[] n
  have hs : ∀ p ∈ ps, p.Sound := fun p hp =>
    Piece.sound_of_mem_pieces source.toList p (hfront.subset hp)
  rw [Lexer.ofString, htokens, hfound]
  simpa using (Piece.accounts .start hs).append_end k _

theorem accounts_tokenize (source : String) :
    Accounts (Lexer.ofString source).tokenize.1.toList
      (Lexer.ofString source).tokenize.2.diagnostics.toList := by
  have h := accounts_given source (Lexer.ofString source).tokenize.1.size
  rwa [Lexer.given_size_tokenize, Lexer.after_size_tokenize] at h

theorem errorCount_of_accounts {tokens : Array Token} {found : Array Diagnostic}
    (h : Accounts tokens.toList found.toList) :
    (Recording.ofRun tokens found).errorCount =
      (found.toList.filter (·.fault ≠ .unexpectedCharacter)).length := by
  rw [← List.countP_eq_length_filter, h.countP_failures]
  exact TokenIndex.count_ofTokens tokens .error

/-- Error tokens and failures correspond, after any number of tokens and in a recording. -/
theorem accounts_and_errorCount (source : String) :
    (∀ n, Accounts ((Lexer.ofString source).given n)
      ((Lexer.ofString source).after n).diagnostics.toList) ∧
    ∀ limit r, Recording.record (.ofString source) limit = .ok r →
      r.errorCount = (r.diagnostics.toList.filter (·.fault ≠ .unexpectedCharacter)).length := by
  refine ⟨accounts_given source, ?_⟩
  intro limit r hr
  rw [Lexer.record_eq] at hr
  by_cases hl : (Lexer.ofString source).tokenize.1.size ≤ limit
  · rw [if_pos hl] at hr
    cases hr
    exact errorCount_of_accounts (accounts_tokenize source)
  · rw [if_neg hl] at hr
    contradiction

/-- Three failures and a stray. -/
theorem errorCount_broken_numbers :
    ∃ r, Recording.record (.ofString "0x @ 2e+ \"p") 10 = .ok r ∧
      r.errorCount = (r.diagnostics.toList.filter (·.fault ≠ .unexpectedCharacter)).length := by
  have hs : (Lexer.ofString "0x @ 2e+ \"p").tokenize.1.size ≤ 10 := by decide +kernel
  have hr := (Lexer.record_eq (.ofString "0x @ 2e+ \"p") 10).trans (if_pos hs)
  exact ⟨_, hr, (accounts_and_errorCount _).2 10 _ hr⟩

end TokenScope
