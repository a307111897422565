import TokenScope.Proofs.Lexing.Language

/-!
Numbers and the dot without the automaton. What stands at the front of a text is told by
longest runs of digits and by what follows each run; the automaton takes exactly these
characters and makes exactly this of them, whatever the lexer has read before.
-/

namespace TokenScope

/-- What is made of characters at the front of a text. -/
structure Numeral where
  reading : Reading
  read : List Char
deriving DecidableEq

namespace Numeral

/-- The longest run of digits, with a point and the longest run behind it if the point stands
between the first run and a digit. -/
def mantissa (source : List Char) : List Char :=
  let whole := source.takeWhile Char.isDigit
  match source.dropWhile Char.isDigit with
  | '.' :: more =>
      let decimals := more.takeWhile Char.isDigit
      if decimals = [] then whole else whole ++ '.' :: decimals
  | _ => whole

def sign : List Char → List Char
  | '+' :: _ => ['+']
  | '-' :: _ => ['-']
  | _ => []

/-- A number without an exponent. -/
def plain (m : List Char) : Numeral :=
  ⟨.token (if '.' ∈ m then .double else .integer) (String.ofList m), m⟩

/-- A mantissa and the marker of an exponent, with a sign and the longest run of digits if they
are there. -/
def scientific (m : List Char) (marker : Char) (rest : List Char) : Numeral :=
  let start := m ++ marker :: sign rest
  let digits := (rest.drop (sign rest).length).takeWhile Char.isDigit
  if digits = [] then
    let text := if sign rest = [] then Lexeme.badCharacter else String.ofList start
    ⟨.failure .malformedExponent text (String.ofList start), start⟩
  else ⟨.token .double (String.ofList (start ++ digits)), start ++ digits⟩

/-- A zero and the marker of a hexadecimal number, with the longest run of its digits. -/
def hexadecimal (marker : Char) (rest : List Char) : Numeral :=
  let digits := rest.takeWhile isHexDigit
  if digits = [] then
    ⟨.failure .malformedHex Lexeme.badCharacter (String.ofList ['0', marker]), ['0', marker]⟩
  else ⟨.token .integer (String.ofList ('0' :: marker :: digits)), '0' :: marker :: digits⟩

/-- A mantissa with what stands behind it. -/
def ofMantissa (m : List Char) : List Char → Numeral
  | [] => plain m
  | c :: rest => if c = 'e' ∨ c = 'E' then scientific m c rest else plain m

def decimal (source : List Char) : Numeral :=
  let m := mantissa source
  if m = [] then ⟨.token .dot ".", ['.']⟩ else ofMantissa m (source.drop m.length)

/-- The number or dot at the front of a text that starts with a digit or a dot. -/
def ofText : List Char → Numeral
  | '0' :: 'x' :: rest => hexadecimal 'x' rest
  | '0' :: 'X' :: rest => hexadecimal 'X' rest
  | source => decimal source

/-- A scan of the text takes and makes what the numeral says. -/
def Scanned (n : Numeral) (source : List Char) : Prop :=
  ∃ lexeme, Lexeme.first? source = some lexeme ∧ lexeme.reading = n.reading ∧ lexeme.read = n.read

theorem not_of_mem_head?_dropWhile (p : Char → Bool) (cs : List Char) :
    ∀ c ∈ (cs.dropWhile p).head?, ¬ p c := by
  have h := List.head?_dropWhile_not p cs
  intro c hc
  rw [Option.mem_def.1 hc] at h
  simpa using h

/-- A run is empty, or it is as long as it can be. -/
theorem run_cases (p : Char → Bool) (cs : List Char) :
    (cs.takeWhile p = [] ∧ ∀ c ∈ cs.head?, ¬ p c) ∨
    ∃ run left, cs.takeWhile p = run ∧ cs = run ++ left ∧ run ≠ [] ∧ (∀ c ∈ run, p c) ∧
      ∀ c ∈ left.head?, ¬ p c := by
  have hsplit := List.takeWhile_append_dropWhile (p := p) (l := cs)
  have hstop := not_of_mem_head?_dropWhile p cs
  by_cases hr : cs.takeWhile p = []
  · rw [hr, List.nil_append] at hsplit
    rw [hsplit] at hstop
    exact .inl ⟨hr, hstop⟩
  · exact .inr ⟨_, _, rfl, hsplit.symm, hr, fun c hc => List.mem_takeWhile_imp hc, hstop⟩

theorem scanned_of_reached {n : Numeral} {w rest : List Char} {state : NumberState}
    (h : NumberState.reached w = some state) (hs : state.Stops rest)
    (hreading : (state.verdict w rest).reading = n.reading)
    (hread : (state.verdict w rest).read = n.read) : n.Scanned (w ++ rest) :=
  ⟨_, Lexeme.first?_of_stops h hs, hreading, hread⟩

theorem scanned_hexadecimal {marker : Char} (hm : marker = 'x' ∨ marker = 'X')
    (rest : List Char) : (hexadecimal marker rest).Scanned ('0' :: marker :: rest) := by
  obtain ⟨hd, hstop⟩ | ⟨ds, left, hd, rfl, hne, hall, hstop⟩ := run_cases isHexDigit rest
  · have hr : NumberState.reached ['0', marker] = some .hexMarker :=
      NumberState.reached_iff_shape.2 ⟨marker, hm, rfl⟩
    simp only [hexadecimal, hd, if_true]
    exact scanned_of_reached hr (fun c hc => if_neg (hstop c hc)) rfl rfl
  · have hr := NumberState.reached_hexadecimal ⟨marker, ds, hm, ⟨hne, hall⟩, rfl⟩
    simp only [hexadecimal, hd, if_neg hne]
    exact scanned_of_reached hr (fun c hc => if_neg (hstop c hc)) rfl rfl

theorem sign_cases (rest : List Char) :
    (sign rest = [] ∧ ∀ c ∈ rest.head?, ¬ (c = '+' ∨ c = '-')) ∨
    ∃ s more, (s = '+' ∨ s = '-') ∧ rest = s :: more ∧ sign rest = [s] := by
  unfold sign
  split
  · exact .inr ⟨_, _, .inl rfl, rfl, rfl⟩
  · exact .inr ⟨_, _, .inr rfl, rfl, rfl⟩
  · rename_i hplus hminus
    refine .inl ⟨rfl, fun c hc hs => ?_⟩
    obtain ⟨more, rfl⟩ := List.head?_eq_some_iff.1 hc
    obtain rfl | rfl := hs
    · exact hplus more rfl
    · exact hminus more rfl

theorem scanned_scientific {m : List Char} {marker : Char} (hm : IsFraction m ∨ IsDigits m)
    (hmarker : marker = 'e' ∨ marker = 'E') (rest : List Char) :
    (scientific m marker rest).Scanned (m ++ marker :: rest) := by
  obtain ⟨hsign, hnone⟩ | ⟨s, more, hs, rfl, hsign⟩ := sign_cases rest
  · rw [List.append_cons]
    obtain ⟨hd, hstop⟩ | ⟨ds, left, hd, rfl, hne, hall, hstop⟩ := run_cases Char.isDigit rest
    · have hst : NumberState.exponentMarker.Stops rest := by
        intro c hc
        rw [NumberState.step, if_neg (hnone c hc), if_neg (hstop c hc)]
      simp only [scientific, hsign, List.length_nil, List.drop_zero, hd, if_true]
      exact scanned_of_reached (NumberState.reached_marker hm hmarker) hst rfl rfl
    · have hr := NumberState.reached_exponent hm
        ⟨marker, [], ds, hmarker, .inl rfl, ⟨hne, hall⟩, rfl⟩
      rw [List.nil_append, List.append_cons] at hr
      simp only [scientific, hsign, List.length_nil, List.drop_zero, hd, if_neg hne]
      rw [← List.append_assoc]
      exact scanned_of_reached hr (fun c hc => if_neg (hstop c hc)) rfl rfl
  · have hsigned : m ++ marker :: s :: more = m ++ [marker, s] ++ more := by simp
    rw [hsigned]
    obtain ⟨hd, hstop⟩ | ⟨ds, left, hd, rfl, hne, hall, hstop⟩ := run_cases Char.isDigit more
    · simp only [scientific, hsign, List.length_singleton, List.drop_one, List.tail_cons, hd,
        if_true, List.cons_ne_nil, if_false]
      exact scanned_of_reached (NumberState.reached_sign hm hmarker hs)
        (fun c hc => if_neg (hstop c hc)) rfl rfl
    · have hone : [s] = [] ∨ [s] = ['+'] ∨ [s] = ['-'] := by
        obtain rfl | rfl := hs
        · exact .inr (.inl rfl)
        · exact .inr (.inr rfl)
      have hr := NumberState.reached_exponent hm ⟨marker, [s], ds, hmarker, hone, ⟨hne, hall⟩, rfl⟩
      have hw : m ++ marker :: ([s] ++ ds) = m ++ [marker, s] ++ ds := by simp
      rw [hw] at hr
      simp only [scientific, hsign, List.length_singleton, List.drop_one, List.tail_cons, hd,
        if_neg hne]
      rw [← List.append_assoc]
      exact scanned_of_reached hr (fun c hc => if_neg (hstop c hc)) rfl rfl

theorem mantissa_cases (source : List Char) :
    ∃ whole left, source = whole ++ left ∧ (∀ c ∈ whole, c.isDigit) ∧
      (∀ c ∈ left.head?, ¬ c.isDigit) ∧
      ((mantissa source = whole ∧
          ∀ more, left = '.' :: more → ∀ c ∈ more.head?, ¬ c.isDigit) ∨
        ∃ decimals more, left = '.' :: (decimals ++ more) ∧ IsDigits decimals ∧
          (∀ c ∈ more.head?, ¬ c.isDigit) ∧ mantissa source = whole ++ '.' :: decimals) := by
  have hsplit := List.takeWhile_append_dropWhile (p := Char.isDigit) (l := source)
  have hstop := not_of_mem_head?_dropWhile Char.isDigit source
  refine ⟨_, _, hsplit.symm, fun c hc => List.mem_takeWhile_imp hc, hstop, ?_⟩
  unfold mantissa
  split
  · rename_i more hleft
    obtain ⟨hd, hnone⟩ | ⟨ds, rest, hd, rfl, hne, hall, hrest⟩ := run_cases Char.isDigit more
    · refine .inl ⟨if_pos hd, fun tail ht => ?_⟩
      rw [hleft, List.cons.injEq] at ht
      rwa [← ht.2]
    · refine .inr ⟨ds, rest, hleft, ⟨hne, hall⟩, hrest, ?_⟩
      rw [hd, if_neg hne]
  · rename_i hleft
    exact .inl ⟨rfl, fun more hm => absurd hm (hleft more)⟩

theorem point_not_mem {ds : List Char} (h : ∀ c ∈ ds, c.isDigit) : '.' ∉ ds := fun hp =>
  absurd (h '.' hp) (by decide)

/-- Nothing but a point, a marker or a digit goes on from digits, if they are not the zero of a
hexadecimal number. -/
theorem stops_after_digits {ds left : List Char} {state : NumberState}
    (h : NumberState.reached ds = some state) (hd : IsDigits ds)
    (hhex : ∀ marker rest, ds ++ left = '0' :: marker :: rest → ¬ (marker = 'x' ∨ marker = 'X'))
    (hstop : ∀ c ∈ left.head?, ¬ c.isDigit ∧ c ≠ '.' ∧ ¬ (c = 'e' ∨ c = 'E')) :
    state.Stops left := by
  intro c hc
  obtain ⟨hdigit, hpoint, hmarker⟩ := hstop c hc
  have hwhole : NumberState.whole c = none := by
    simp [NumberState.whole, NumberState.isExponentMarker, hdigit, hpoint, hmarker]
  obtain hr | hr := NumberState.reached_of_isDigits hd
  · obtain rfl : state = .zero := Option.some.inj (h.symm.trans hr)
    obtain rfl : ds = ['0'] := NumberState.shape_of_reached hr
    obtain ⟨rest, rfl⟩ := List.head?_eq_some_iff.1 hc
    rw [NumberState.step, if_neg (hhex c rest rfl), hwhole]
  · obtain rfl : state = .digits := Option.some.inj (h.symm.trans hr)
    exact hwhole

theorem scanned_ofMantissa {m left : List Char} (hm : IsFraction m ∨ IsDigits m)
    (hplain : (∀ c ∈ left.head?, ¬ (c = 'e' ∨ c = 'E')) → (plain m).Scanned (m ++ left)) :
    (ofMantissa m left).Scanned (m ++ left) := by
  cases left with
  | nil => exact hplain fun c hc => by contradiction
  | cons c rest =>
      by_cases hmarker : c = 'e' ∨ c = 'E'
      · rw [ofMantissa, if_pos hmarker]
        exact scanned_scientific hm hmarker rest
      · rw [ofMantissa, if_neg hmarker]
        exact hplain fun d hd => Option.some.inj hd ▸ hmarker

/-- Digits, with nothing more of a number behind them but perhaps a point, which is left. -/
theorem scanned_digits {ds left : List Char} (hd : IsDigits ds)
    (hhex : ∀ marker rest, ds ++ left = '0' :: marker :: rest → ¬ (marker = 'x' ∨ marker = 'X'))
    (hstop : ∀ c ∈ left.head?, ¬ c.isDigit)
    (hpoint : ∀ more, left = '.' :: more → ∀ c ∈ more.head?, ¬ c.isDigit)
    (hmarker : ∀ c ∈ left.head?, ¬ (c = 'e' ∨ c = 'E')) : (plain ds).Scanned (ds ++ left) := by
  have hplain : plain ds = ⟨.token .integer (String.ofList ds), ds⟩ := by
    rw [plain, if_neg (point_not_mem hd.2)]
  rw [hplain]
  by_cases hp : left.head? = some '.'
  · obtain ⟨more, rfl⟩ := List.head?_eq_some_iff.1 hp
    have hr : NumberState.reached (ds ++ ['.']) = some .pointAfterDigits :=
      NumberState.reached_iff_shape.2 ⟨ds, hd, rfl⟩
    rw [List.append_cons]
    refine scanned_of_reached hr (fun c hc => if_neg (hpoint more rfl c hc)) ?_ ?_
    · simp [NumberState.verdict]
    · simp [NumberState.verdict]
  · have hends : ∀ c ∈ left.head?, ¬ c.isDigit ∧ c ≠ '.' ∧ ¬ (c = 'e' ∨ c = 'E') := by
      intro c hc
      refine ⟨hstop c hc, ?_, hmarker c hc⟩
      rintro rfl
      exact hp hc
    obtain hr | hr := NumberState.reached_of_isDigits hd
    · exact scanned_of_reached hr (stops_after_digits hr hd hhex hends) rfl rfl
    · exact scanned_of_reached hr (stops_after_digits hr hd hhex hends) rfl rfl

theorem scanned_fraction {m left : List Char} (hm : IsFraction m)
    (hstop : ∀ c ∈ left.head?, ¬ c.isDigit)
    (hmarker : ∀ c ∈ left.head?, ¬ (c = 'e' ∨ c = 'E')) : (plain m).Scanned (m ++ left) := by
  have hpoint : '.' ∈ m := by
    obtain ⟨ds, fs, -, -, rfl⟩ := hm
    simp
  have hst : NumberState.fraction.Stops left := by
    intro c hc
    simp [NumberState.step, NumberState.isExponentMarker, hstop c hc, hmarker c hc]
  rw [plain, if_pos hpoint]
  exact scanned_of_reached (NumberState.reached_of_isFraction hm) hst rfl rfl

theorem decimal_eq {source m left : List Char} (hm : mantissa source = m) (hne : m ≠ [])
    (hs : source = m ++ left) : decimal source = ofMantissa m left := by
  rw [decimal, hm, if_neg hne, hs, List.drop_left]

theorem scanned_decimal {c : Char} {rest : List Char} (hc : c = '.' ∨ c.isDigit)
    (hhex : ∀ marker more, c :: rest = '0' :: marker :: more → ¬ (marker = 'x' ∨ marker = 'X')) :
    (decimal (c :: rest)).Scanned (c :: rest) := by
  obtain ⟨whole, left, hsplit, hwhole, hstop, ⟨hm, hpoint⟩ | ⟨ds, more, rfl, hd, hmore, hm⟩⟩ :=
    mantissa_cases (c :: rest)
  · by_cases hw : whole = []
    · subst hw
      rw [List.nil_append] at hsplit
      subst hsplit
      obtain rfl := hc.resolve_right (hstop c rfl)
      have hr : NumberState.reached ['.'] = some .leadingPoint := rfl
      rw [decimal, if_pos hm]
      exact scanned_of_reached hr (fun d hd => if_neg (hpoint rest rfl d hd)) rfl rfl
    · rw [decimal_eq hm hw hsplit, hsplit]
      exact scanned_ofMantissa (.inr ⟨hw, hwhole⟩) fun hmarker =>
        scanned_digits ⟨hw, hwhole⟩ (hsplit ▸ hhex) hstop hpoint hmarker
  · have hne : whole ++ '.' :: ds ≠ [] := by simp
    have hfraction : IsFraction (whole ++ '.' :: ds) := ⟨whole, ds, hwhole, hd, rfl⟩
    rw [← List.cons_append, ← List.append_assoc] at hsplit
    rw [decimal_eq hm hne hsplit, hsplit]
    exact scanned_ofMantissa (.inl hfraction) fun hmarker =>
      scanned_fraction hfraction hmore hmarker

/-- The automaton takes and makes what longest runs tell. -/
theorem scanned_ofText {source rest : List Char} {c : Char} (hs : source = c :: rest)
    (hc : c = '.' ∨ c.isDigit) : (ofText source).Scanned source := by
  unfold ofText
  split
  · exact scanned_hexadecimal (.inl rfl) _
  · exact scanned_hexadecimal (.inr rfl) _
  · rename_i hx hX
    subst hs
    apply scanned_decimal hc
    rintro marker more he (rfl | rfl)
    · exact hx more he
    · exact hX more he

end Numeral

/-- In every state of a lexer that comes to a digit or a dot, the next token is the number or
dot that longest runs tell. No more is read than its characters, and only a failure is
recorded. -/
theorem next_numeral {lexer : Lexer} {c : Char} {rest : List Char}
    (hu : lexer.unread = c :: rest) (hc : c = '.' ∨ c.isDigit) :
    let n := Numeral.ofText lexer.unread
    n.read <+: lexer.unread ∧
      lexer.next =
        (n.reading.toToken n.read.length lexer.location,
          ⟨lexer.unread.drop n.read.length, lexer.location.after n.read,
            lexer.diagnostics ++ (n.reading.toDiagnostic? lexer.location).toList⟩) := by
  intro n
  obtain ⟨lexeme, hf, hreading, hread⟩ := Numeral.scanned_ofText hu hc
  have hcut := (Lexeme.cutFrom_of_first? hf).2
  rw [hread] at hcut
  have hdrop : lexer.unread.drop n.read.length = lexeme.rest := by
    rw [← hcut, List.drop_left]
  refine ⟨⟨lexeme.rest, hcut⟩, ?_⟩
  obtain ⟨unread, here, found⟩ := lexer
  rw [Lexer.next_cut here found hf, Lexeme.token, Lexeme.diagnostic?, hreading, hread, hdrop]

/-- An exponent with a sign and no digit, after a mantissa with zeros on both sides. -/
theorem next_numeral_open_exponent :
    let lexer : Lexer := ⟨"007.50E+x".toList, ⟨3, 9⟩, #[]⟩
    let n := Numeral.ofText lexer.unread
    lexer.unread = '0' :: "07.50E+x".toList ∧ ('0' = '.' ∨ '0'.isDigit) ∧
      n.read = "007.50E+".toList ∧ n.read <+: lexer.unread ∧
      lexer.next =
        (n.reading.toToken n.read.length lexer.location,
          ⟨lexer.unread.drop n.read.length, lexer.location.after n.read,
            lexer.diagnostics ++ (n.reading.toDiagnostic? lexer.location).toList⟩) := by
  intro lexer n
  have hu : lexer.unread = '0' :: "07.50E+x".toList := by decide
  have hc : '0' = '.' ∨ '0'.isDigit := by decide
  exact ⟨hu, hc, by decide, next_numeral hu hc⟩

end TokenScope
