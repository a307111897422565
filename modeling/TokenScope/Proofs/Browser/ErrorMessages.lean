import TokenScope.Browser.Player
import TokenScope.Proofs.Lexing.Limits
import TokenScope.Proofs.Recording.Explained

/-!
Messages about errors. The diagnostic of an error token is looked up by place alone, among
those of strays. It is nevertheless the one that the failure of that token left behind: what
the lexer found last when it gave the token, and as many failures stand before it as error
tokens before the token.
-/

namespace TokenScope

/-- What is kept of a list stands behind what is kept of the items before it. -/
theorem getElem?_filter_countP {α : Type} (keeps : α → Bool) {xs : List α} {i : Nat} {x : α}
    (h : xs[i]? = some x) (hx : keeps x) :
    (xs.filter keeps)[(xs.take i).countP keeps]? = some x := by
  induction xs generalizing i with
  | nil => contradiction
  | cons y ys ih =>
      cases i with
      | zero =>
          cases h
          rw [List.filter_cons_of_pos hx]
          rfl
      | succ i =>
          rw [List.getElem?_cons_succ] at h
          rw [List.take_succ_cons]
          by_cases hy : keeps y
          · rw [List.filter_cons_of_pos hy, List.countP_cons_of_pos hy, List.getElem?_cons_succ]
            exact ih h
          · rw [List.filter_cons_of_neg hy, List.countP_cons_of_neg hy]
            exact ih h

/-- Behind as many errors there are as many failures. -/
theorem Accounts.exists_failure_at {tokens : List Token} {found : List Diagnostic}
    (h : Accounts tokens found) {i : Nat} {t : Token} (ht : tokens[i]? = some t)
    (he : t.isError) :
    ∃ d, (found.filter (·.fault ≠ .unexpectedCharacter))[(tokens.take i).countP (·.isError)]? =
      some d ∧ d.location = t.location := by
  have hplace := congrArg (·[(tokens.take i).countP (·.isError)]?) h.failures
  simp only [List.getElem?_map, getElem?_filter_countP _ ht he, Option.map_some,
    Option.map_eq_some_iff] at hplace
  exact hplace

/-- The request that gives an error token leaves the diagnostic of its failure behind, and what
a lexer has found it keeps. -/
theorem Lexer.exists_recorded {lexer : Lexer} {i n : Nat} (hi : i < n)
    (he : (lexer.after i).next.1.isError) :
    ∃ d, (lexer.after (i + 1)).diagnostics.back? = some d ∧
      d.location = (lexer.after i).next.1.location ∧ d ∈ (lexer.after n).diagnostics := by
  obtain ⟨d, hd⟩ := Option.isSome_iff_exists.1 ((isSome_failure?_iff _).2 he)
  have hback : (lexer.after (i + 1)).diagnostics.back? = some d := by
    rw [after, diagnostics_next_eq_finds, finds, hd, append_list_append]
    simp
  refine ⟨d, hback, ?_, ?_⟩
  · rw [location_next]
    exact location_of_mem_failure? hd
  · have hlater := (lexer.after (i + 1)).diagnostics_after (n - (i + 1))
    rw [← after_add, Nat.add_sub_of_le hi] at hlater
    rw [hlater, ← Array.mem_toList_iff, Array.toList_appendList]
    exact List.mem_append_left _ (Array.mem_toList_iff.2 (Array.mem_of_back? hback))

/-- A diagnostic belongs to an error token that has an index in the recording of a text. -/
structure Recording.OwnFailure (source : String) (r : Recording) (i : Nat) (t : Token)
    (d : Diagnostic) : Prop where
  given : ((Lexer.ofString source).after i).next.1 = t
  /-- It was found last when the token was given. -/
  recorded : ((Lexer.ofString source).after (i + 1)).diagnostics.back? = some d
  /-- It is the failure with the number that the token has among the error tokens. -/
  numbered : (r.diagnostics.toList.filter (·.fault ≠ .unexpectedCharacter))[
    (r.tokens.toList.take i).countP (·.isError)]? = some d
  first : r.diagnostics.find? (fun e => e.location = t.location) = some d
  only : ∀ e ∈ r.diagnostics, e.location = t.location → e = d

theorem Recording.exists_ownFailure {source : String} {limit : Nat} {r : Recording}
    (hr : record (.ofString source) limit = .ok r) {i : Nat} {t : Token}
    (ht : r.tokens[i]? = some t) (he : t.isError) : ∃ d, r.OwnFailure source i t d := by
  have hexplained : r.Explained := @explained_of_record source [] _ rfl _ _ hr
  obtain rfl := Lexer.eq_ofRun_of_record hr
  obtain ⟨d, hnumbered, hplace⟩ :=
    (accounts_tokenize source).exists_failure_at (Array.getElem?_toList.trans ht) he
  have hd : d ∈ (Lexer.ofString source).tokenize.2.diagnostics :=
    Array.mem_toList_iff.1 (List.mem_of_mem_filter (List.mem_of_getElem? hnumbered))
  have honly : ∀ e ∈ (Lexer.ofString source).tokenize.2.diagnostics,
      e.location = t.location → e = d :=
    fun e hm hl => hexplained.eq_of_location_eq hm hd (hl.trans hplace.symm)
  have hi : i < (Lexer.ofString source).tokenize.1.size :=
    (Array.getElem?_eq_some_iff.1 ht).1
  have hgiven : ((Lexer.ofString source).after i).next.1 = t :=
    Lexer.next_after_of_getElem?_tokenize ht
  refine ⟨d, ?_⟩
  constructor
  case given => exact hgiven
  case recorded =>
    obtain ⟨e, hback, hl, hm⟩ := Lexer.exists_recorded hi (hgiven ▸ he)
    rw [Lexer.after_size_tokenize] at hm
    rw [hback, honly e hm (hgiven ▸ hl)]
  case numbered => exact hnumbered
  case first =>
    rw [← hplace]
    exact hexplained.find?_eq_some hd
  case only => exact honly

/-- The message about an error token of a recorded text is that of its own failure. -/
theorem message_of_error {source : String} {limit : Nat} {r : Recording}
    (hr : Recording.record (.ofString source) limit = .ok r) {i : Nat} {t : Token}
    (ht : r.tokens[i]? = some t) (he : t.isError) :
    ∃ d, r.OwnFailure source i t d ∧
      ∀ p : Player, p.recording = { r with position := i } → p.describe.message = d.message := by
  obtain ⟨d, hd⟩ := Recording.exists_ownFailure hr ht he
  refine ⟨d, hd, fun p hp => ?_⟩
  have hdescription : p.recording.describe? = some d.message := by
    have hcurrent : p.recording.current? = some t := by rw [hp]; exact ht
    have hfirst : p.recording.diagnostics.find? (fun e => e.location = t.location) = some d := by
      rw [hp]
      exact hd.first
    rw [Recording.describe?, hcurrent, Option.map_some, if_pos he, hfirst]
  rw [Player.describe, hdescription]

/-- The second of two failures, behind two strays. -/
theorem message_of_error_broken_numbers :
    let source := "@ 0x # 2e+ \"p"
    ∃ r t, Recording.record (.ofString source) 10 = .ok r ∧ r.tokens[1]? = some t ∧ t.isError ∧
      ∃ d, r.OwnFailure source 1 t d ∧
        ∀ p : Player, p.recording = { r with position := 1 } → p.describe.message = d.message := by
  intro source
  have hsize : (Lexer.ofString source).tokenize.1.size ≤ 10 := by decide +kernel
  have hr := (Lexer.record_eq (.ofString source) 10).trans (if_pos hsize)
  let t : Token := ⟨.error, "2e+", ⟨1, 8⟩, 3⟩
  have ht : (Lexer.ofString source).tokenize.1[1]? = some t := by decide +kernel
  exact ⟨_, t, hr, ht, rfl, message_of_error hr ht rfl⟩

end TokenScope
