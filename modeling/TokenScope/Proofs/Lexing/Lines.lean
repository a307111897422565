import TokenScope.Proofs.Lexing.Places
import TokenScope.Proofs.Lexing.Separation

/-!
Texts joined by a line feed are read apart, the second as it would be read alone but so
many lines further down. Only a string that the first text leaves open can reach across.
-/

namespace TokenScope

def Location.lower (here : Location) (lines : Nat) : Location :=
  ⟨here.line + lines, here.column⟩

def Token.lower (lines : Nat) (token : Token) : Token :=
  { token with location := token.location.lower lines }

def Diagnostic.lower (lines : Nat) (d : Diagnostic) : Diagnostic :=
  { d with location := d.location.lower lines }

theorem Location.after_lower (here : Location) (lines : Nat) (cs : List Char) :
    (here.lower lines).after cs = (here.after cs).lower lines := by
  induction cs generalizing here with
  | nil => rfl
  | cons c cs ih =>
      have hp : (here.lower lines).pass c = (here.pass c).lower lines := by
        by_cases hc : c = '\n'
        · simp [pass, lower, hc, Nat.add_right_comm]
        · simp [pass, lower, hc]
      rw [after_cons, after_cons, hp, ih]

namespace Piece

theorem token?_lower (lines : Nat) (here : Location) (p : Piece) :
    p.token? (here.lower lines) = (p.token? here).map (·.lower lines) := by
  cases p with
  | passed c => rfl
  | cut reading read => cases reading <;> rfl

theorem diagnostic?_lower (lines : Nat) (here : Location) (p : Piece) :
    p.diagnostic? (here.lower lines) = (p.diagnostic? here).map (·.lower lines) := by
  cases p with
  | passed c =>
      by_cases hl : Lead.ofChar c = .stray
      · simp only [diagnostic?, hl]
        rfl
      · simp [diagnostic?, hl]
  | cut reading read => cases reading <;> rfl

theorem reports_lower {α : Type} {report : Location → Piece → Option α} {down : α → α}
    {lines : Nat} (h : ∀ here p, report (here.lower lines) p = (report here p).map down)
    (here : Location) (ps : List Piece) :
    reports report (here.lower lines) ps = (reports report here ps).map down := by
  simp only [reports, List.map_filterMap, Location.after_lower, h]

theorem closed_of_diagnostics {here : Location} {ps : List Piece}
    (h : ∀ d ∈ diagnostics here ps, d.fault ≠ .unterminatedString) :
    ∀ reading read, cut reading read ∈ ps → reading.Closed := by
  intro reading read hm
  cases reading with
  | token kind text => trivial
  | failure fault text lexeme =>
      obtain ⟨d, hd, rfl⟩ := exists_mem_diagnostics here hm
      exact h d hd

end Piece

theorem Location.start_after_newline (cs : List Char) :
    (start.after cs).after ['\n'] = start.lower (1 + cs.count '\n') := by
  rw [start_after]
  simp [pass, lower, start, Nat.add_comm]

/-- What is reported past the line feed is what the rest reports alone, further down. -/
theorem Piece.reports_newline {α : Type} {report : Location → Piece → Option α}
    {down : Nat → α → α}
    (h : ∀ lines here p, report (here.lower lines) p = (report here p).map (down lines))
    (hn : ∀ here, report here (passed '\n') = none) (a b : List Char) :
    reports report .start (pieces a ++ passed '\n' :: pieces b) =
      reports report .start (pieces a) ++
        (reports report .start (pieces b)).map (down (1 + a.count '\n')) := by
  rw [reports_append, flatMap_chars_pieces, reports_cons, hn, Option.toList_none,
    List.nil_append, chars, Location.start_after_newline, reports_lower (h _)]

/-- Reading line by line agrees with reading the whole. -/
theorem tokenize_append_newline (a b : String)
    (h : ∀ d ∈ (Lexer.ofString a).tokenize.2.diagnostics, d.fault ≠ .unterminatedString) :
    let above := (Lexer.ofString a).tokenize
    let below := (Lexer.ofString b).tokenize
    let whole := (Lexer.ofString (a ++ "\n" ++ b)).tokenize
    let lines := 1 + a.toList.count '\n'
    whole.1.toList = above.1.toList.dropLast ++ below.1.toList.map (·.lower lines) ∧
    whole.2.diagnostics.toList =
      above.2.diagnostics.toList ++ below.2.diagnostics.toList.map (·.lower lines) := by
  intro above below whole lines
  have habove : above = _ := Lexer.tokenize_ofString a
  have hbelow : below = _ := Lexer.tokenize_ofString b
  have hwhole : whole = _ := Lexer.tokenize_ofString (a ++ "\n" ++ b)
  have hchars : (a ++ "\n" ++ b).toList = a.toList ++ '\n' :: b.toList := by simp
  have hclosed : ∀ reading read, Piece.cut reading read ∈ pieces a.toList → reading.Closed := by
    rw [Lexer.tokenize_ofString] at h
    apply Piece.closed_of_diagnostics
    simpa using h
  have hend : Location.start.after (a.toList ++ '\n' :: b.toList) =
      (Location.start.after b.toList).lower lines := by
    rw [← Location.after_lower, ← Location.start_after_newline, ← Location.after_append,
      ← Location.after_append]
    simp
  have hpieces := pieces_append_blank (b := '\n') rfl a.toList b.toList hclosed
  have htokens := Piece.reports_newline Piece.token?_lower (fun _ => rfl) a.toList b.toList
  have hfound := Piece.reports_newline Piece.diagnostic?_lower (fun _ => rfl) a.toList b.toList
  rw [hwhole, habove, hbelow, hchars, hpieces, hend]
  constructor
  · change Piece.tokens _ _ ++ _ = (Piece.tokens _ _ ++ _).dropLast ++ (Piece.tokens _ _ ++ _).map _
    rw [List.dropLast_concat, List.map_append, ← List.append_assoc]
    exact congrArg (· ++ _) htokens
  · exact hfound

/-- Numbers that break off at the line feed. -/
theorem tokenize_append_newline_broken_numbers :
    (∀ d ∈ (Lexer.ofString "12.\n0x").tokenize.2.diagnostics, d.fault ≠ .unterminatedString) ∧
    (Lexer.ofString ("12.\n0x" ++ "\n" ++ "2e+ @\"p\n")).tokenize.1.toList =
      (Lexer.ofString "12.\n0x").tokenize.1.toList.dropLast ++
        (Lexer.ofString "2e+ @\"p\n").tokenize.1.toList.map (·.lower 2) := by
  have h : ∀ d ∈ (Lexer.ofString "12.\n0x").tokenize.2.diagnostics,
      d.fault ≠ .unterminatedString := by
    decide +kernel
  exact ⟨h, (tokenize_append_newline "12.\n0x" "2e+ @\"p\n" h).1⟩

end TokenScope
