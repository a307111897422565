import TokenScope.Proofs.Lexing.Numerals
import TokenScope.Proofs.Lexing.Separation

/-!
The tokens of the language, kind by kind, and the scans that read them. A scan makes no
token outside the language, and each token of the language, spelled out with nothing
after it, is read as itself to the last character.
-/

namespace TokenScope

def IsIdentifier (cs : List Char) : Prop :=
  ∃ c rest, isWordStart c ∧ (∀ d ∈ rest, isWordCharacter d) ∧ cs = c :: rest

/-- The texts that tokens of a kind may have. -/
def WellFormed : TokenKind → String → Prop
  | .integer, text => IsInteger text.toList
  | .double, text => IsDouble text.toList
  | .string, text => '"' ∉ text.toList
  | .identifier, text =>
      IsIdentifier text.toList ∧
        ∀ word : TokenKind, word.isReserved → word.spelling? ≠ some text
  | kind, text => kind.spelling? = some text

theorem wellFormed_integer {cs : List Char} (h : IsInteger cs) :
    WellFormed .integer (String.ofList cs) := by
  rwa [WellFormed, String.toList_ofList]

theorem wellFormed_double {cs : List Char} (h : IsDouble cs) :
    WellFormed .double (String.ofList cs) := by
  rwa [WellFormed, String.toList_ofList]

def Reading.InLanguage : Reading → Prop
  | .token kind text => WellFormed kind text
  | .failure _ _ _ => True

namespace NumberState

/-- The automaton cannot go on from a state. -/
def Stops (state : NumberState) (rest : List Char) : Prop :=
  ∀ c ∈ rest.head?, state.step c = none

theorem run_append {state last : NumberState} {w : List Char} (before rest : List Char)
    (h : w.foldlM step state = some last) :
    state.run before (w ++ rest) = last.run (w.reverse ++ before) rest := by
  induction w generalizing state before with
  | nil =>
      cases h
      rfl
  | cons c w ih =>
      rw [List.foldlM_cons] at h
      obtain ⟨next, hs, hr⟩ := Option.bind_eq_some_iff.1 h
      rw [List.cons_append, run, hs, List.reverse_cons, List.append_assoc]
      exact ih (c :: before) hr

theorem Stops.run_eq {state : NumberState} {rest : List Char} (h : state.Stops rest)
    (before : List Char) : state.run before rest = (state, before.reverse, rest) := by
  cases rest with
  | nil => rfl
  | cons c rest => rw [run, h c rfl]

theorem reached_run {state : NumberState} {before : List Char} (rest : List Char)
    (h : reached before.reverse = some state) :
    reached (state.run before rest).2.1 = some (state.run before rest).1 := by
  induction rest generalizing state before with
  | nil => exact h
  | cons c rest ih =>
      rw [run]
      cases hs : state.step c with
      | none => exact h
      | some next =>
          apply ih
          rw [List.reverse_cons]
          exact reached_step h hs

theorem inLanguage_verdict {state : NumberState} {read : List Char} (rest : List Char)
    (h : state.Shape read) : (state.verdict read rest).reading.InLanguage := by
  cases state with
  | hexMarker | exponentMarker | exponentSign => trivial
  | zero => exact wellFormed_integer (.inl (digits_of_whole (.inl h)))
  | digits => exact wellFormed_integer (.inl h.1)
  | hexDigits => exact wellFormed_integer (.inr h)
  | leadingPoint =>
      rw [show read = ['.'] from h]
      rfl
  | pointAfterDigits =>
      obtain ⟨ds, hd, rfl⟩ := h
      rw [verdict, List.dropLast_concat]
      exact wellFormed_integer (.inl hd)
  | fraction => exact wellFormed_double (.inl h)
  | exponentDigits => exact wellFormed_double (.inr h)

end NumberState

namespace Lexeme

theorem inLanguage_number {c : Char} (rest : List Char) (hc : c = '.' ∨ c.isDigit) :
    (number c rest).reading.InLanguage := by
  have hs : NumberState.reached [c].reverse = some (NumberState.first c) := by
    rw [List.reverse_singleton, NumberState.reached, if_pos hc]
    rfl
  exact NumberState.inLanguage_verdict _
    (NumberState.shape_of_reached (NumberState.reached_run rest hs))

theorem inLanguage_quoted (rest : List Char) : (quoted rest).reading.InLanguage := by
  obtain ⟨-, hq⟩ | ⟨body, left, hb, rfl⟩ := quoted_cases rest
  · rw [hq]
    trivial
  · rw [quoted_eq left hb]
    change '"' ∉ (String.ofList body).toList
    rwa [String.toList_ofList]

theorem inLanguage_word {c : Char} (rest : List Char) (hc : isWordStart c) :
    (word (c :: rest)).reading.InLanguage := by
  simp only [word]
  cases hf : TokenKind.ofReserved? (String.ofList ((c :: rest).takeWhile isWordCharacter)) with
  | some kind =>
      obtain ⟨hr, hs⟩ := TokenKind.isReserved_of_ofReserved? hf
      cases kind with
      | wordInt | wordDouble | wordBool | wordGraph | wordTrue | wordFalse | wordReturn => exact hs
      | _ => exact absurd hr (by decide)
  | none =>
      have hw : isWordCharacter c := by simp [isWordCharacter, hc]
      refine ⟨⟨c, rest.takeWhile isWordCharacter, hc, fun d hd => List.mem_takeWhile_imp hd, ?_⟩,
        fun kind hr hs => ?_⟩
      · rw [String.toList_ofList, List.takeWhile_cons_of_pos hw]
      · have hn := List.find?_eq_none.1 hf kind (TokenKind.mem_all kind)
        simp [hr, hs] at hn

/-- Every token that a scan makes is in the language. -/
theorem inLanguage_of_first? {source : List Char} {lexeme : Lexeme}
    (h : first? source = some lexeme) : lexeme.reading.InLanguage := by
  cases source with
  | nil => simp [first?] at h
  | cons c rest =>
      obtain ⟨hc, rfl⟩ | ⟨-, rfl⟩ | ⟨hc, rfl⟩ | ⟨sign, hs, rfl⟩ := first?_cases h
      · exact inLanguage_number rest hc
      · exact inLanguage_quoted rest
      · exact inLanguage_word rest hc
      · obtain ⟨ho, hs⟩ := Lead.isOperator_of_ofSign? hs
        cases sign with
        | add | sub | mul | div => exact hs
        | _ => exact absurd ho (by decide)

end Lexeme

/-- The digits come before the letters and the underscore. -/
theorem not_isDigit_of_isWordStart {c : Char} (h : isWordStart c) : ¬ c.isDigit := by
  intro hd
  have hnine : c.toNat ≤ 57 := (Char.isDigit_iff_toNat.1 hd).2
  rw [isWordStart, Bool.or_eq_true, decide_eq_true_eq] at h
  obtain rfl | ha := h
  · contradiction
  · have hletter : 65 ≤ c.toNat ∨ 97 ≤ c.toNat := by
      obtain hu | hl := (Bool.or_eq_true _ _).mp ha
      · exact .inl (UInt32.le_iff_toNat_le.1 (of_decide_eq_true hu).1)
      · have hfirst := ((Bool.and_eq_true _ _).mp hl).1
        exact .inr (UInt32.le_iff_toNat_le.1 (of_decide_eq_true hfirst))
    omega

namespace Lead

theorem ofChar_of_numeric {c : Char} (h : c = '.' ∨ c.isDigit) : ofChar c = number := by
  have hb : ¬ isBlank c := by
    intro hb
    obtain rfl | rfl | rfl | rfl | rfl | rfl := eq_of_isBlank hb <;> revert h <;> decide
  rw [ofChar, if_neg hb, if_pos (by simpa using h)]

theorem ofChar_of_isWordStart {c : Char} (h : isWordStart c) : ofChar c = word := by
  have hb : ¬ isBlank c := by
    intro hb
    obtain rfl | rfl | rfl | rfl | rfl | rfl := eq_of_isBlank hb <;> revert h <;> decide
  have hd := not_isDigit_of_isWordStart h
  have hp : c ≠ '.' := by
    rintro rfl
    revert h
    decide
  have hq : c ≠ '"' := by
    rintro rfl
    revert h
    decide
  rw [ofChar, if_neg hb, if_neg (by simp [hp, hd]), if_neg hq, if_pos h]

end Lead

namespace Lexeme

/-- Where the automaton stops its verdict is given. -/
theorem first?_of_stops {w rest : List Char} {state : NumberState}
    (h : NumberState.reached w = some state) (hs : state.Stops rest) :
    first? (w ++ rest) = some (state.verdict w rest) := by
  obtain ⟨c, more, rfl⟩ := List.exists_cons_of_ne_nil (NumberState.ne_nil_of_reached h)
  simp only [NumberState.reached, Option.ite_none_right_eq_some] at h
  rw [List.cons_append, first?, Lead.ofChar_of_numeric h.1]
  simp only [number, NumberState.run_append [c] rest h.2, hs.run_eq]
  simp

theorem first?_of_reached {w : List Char} {state : NumberState}
    (h : NumberState.reached w = some state) : first? w = some (state.verdict w []) := by
  have hs : state.Stops [] := fun c hc => by contradiction
  have hf := first?_of_stops h hs
  rwa [List.append_nil] at hf

theorem first?_integer {text : String} (h : IsInteger text.toList) :
    first? text.toList = some ⟨.token .integer text, text.toList, [], none⟩ := by
  obtain h | h := h
  · obtain hr | hr := NumberState.reached_of_isDigits h <;>
      simp [first?_of_reached hr, NumberState.verdict]
  · simp [first?_of_reached (NumberState.reached_hexadecimal h), NumberState.verdict]

theorem first?_double {text : String} (h : IsDouble text.toList) :
    first? text.toList = some ⟨.token .double text, text.toList, [], none⟩ := by
  obtain h | ⟨m, e, hm, he, hw⟩ := h
  · simp [first?_of_reached (NumberState.reached_of_isFraction h), NumberState.verdict]
  · have hr := NumberState.reached_exponent hm he
    rw [← hw] at hr
    simp [first?_of_reached hr, NumberState.verdict]

theorem first?_string {text : String} (h : '"' ∉ text.toList) :
    first? ('"' :: text.toList ++ ['"']) =
      some ⟨.token .string text, '"' :: text.toList ++ ['"'], [], none⟩ := by
  have hl : Lead.ofChar '"' = .quote := by decide
  simp only [List.cons_append, first?, hl, quoted_eq [] h, String.ofList_toList]

theorem first?_identifier {text : String} (h : IsIdentifier text.toList)
    (hr : ∀ word : TokenKind, word.isReserved → word.spelling? ≠ some text) :
    first? text.toList = some ⟨.token .identifier text, text.toList, [], none⟩ := by
  obtain ⟨c, rest, hc, hrest, ht⟩ := h
  have hall : ∀ d ∈ c :: rest, isWordCharacter d := by
    rw [List.forall_mem_cons]
    exact ⟨by simp [isWordCharacter, hc], hrest⟩
  have hn : TokenKind.ofReserved? text = none := by
    rw [TokenKind.ofReserved?, List.find?_eq_none]
    intro word _ hw
    simp only [Bool.and_eq_true, beq_iff_eq] at hw
    exact hr word hw.1 hw.2
  have htake := List.takeWhile_eq_self_iff.2 hall
  have hdrop := List.dropWhile_eq_nil_iff.2 hall
  rw [ht]
  simp only [first?, Lead.ofChar_of_isWordStart hc, word, htake, hdrop]
  rw [← ht, String.ofList_toList, hn]
  rfl

/-- A token of the language, spelled out, is read as itself and to its end. -/
theorem first?_spelled {kind : TokenKind} {text : String} (h : WellFormed kind text) :
    first? (Reading.token kind text).spelled =
      some ⟨.token kind text, (Reading.token kind text).spelled, [], none⟩ := by
  cases kind with
  | integer => exact first?_integer h
  | double => exact first?_double h
  | string => exact first?_string h
  | identifier => exact first?_identifier h.1 h.2
  | endOfInput | error => exact absurd h (by simp [WellFormed, TokenKind.spelling?])
  | wordInt | wordDouble | wordBool | wordGraph | wordTrue | wordFalse | wordReturn
  | dot | add | sub | mul | div =>
      obtain rfl := Option.some.inj h
      decide

end Lexeme
end TokenScope
