import Mathlib.Data.List.Induction
import TokenScope.Lexeme.Number

/-!
The texts of numbers, said without the automaton, and the automaton's states, each by the
texts that lead to it. The main statement is exact: the automaton stands in a state after
a text if and only if the text has that state's shape.
-/

namespace TokenScope

def IsDigits (cs : List Char) : Prop := cs ≠ [] ∧ ∀ c ∈ cs, c.isDigit

def IsHexDigits (cs : List Char) : Prop := cs ≠ [] ∧ ∀ c ∈ cs, isHexDigit c

/-- Digits or none, a point and digits. -/
def IsFraction (cs : List Char) : Prop :=
  ∃ ds fs, (∀ c ∈ ds, c.isDigit) ∧ IsDigits fs ∧ cs = ds ++ '.' :: fs

def IsExponent (cs : List Char) : Prop :=
  ∃ e sign ds, (e = 'e' ∨ e = 'E') ∧ (sign = [] ∨ sign = ['+'] ∨ sign = ['-']) ∧
    IsDigits ds ∧ cs = e :: (sign ++ ds)

def IsHexadecimal (cs : List Char) : Prop :=
  ∃ x hs, (x = 'x' ∨ x = 'X') ∧ IsHexDigits hs ∧ cs = '0' :: x :: hs

def IsInteger (cs : List Char) : Prop := IsDigits cs ∨ IsHexadecimal cs

/-- A fraction with or without an exponent, or digits with one. -/
def IsDouble (cs : List Char) : Prop :=
  IsFraction cs ∨ ∃ m e, (IsFraction m ∨ IsDigits m) ∧ IsExponent e ∧ cs = m ++ e

theorem IsDigits.snoc {cs : List Char} {c : Char} (h : IsDigits cs) (hc : c.isDigit) :
    IsDigits (cs ++ [c]) := by
  refine ⟨by simp, fun d hd => ?_⟩
  rw [List.mem_append, List.mem_singleton] at hd
  obtain hd | rfl := hd
  · exact h.2 d hd
  · exact hc

theorem isDigits_singleton {c : Char} : IsDigits [c] ↔ c.isDigit := by
  simp [IsDigits]

theorem IsHexDigits.snoc {cs : List Char} {c : Char} (h : IsHexDigits cs) (hc : isHexDigit c) :
    IsHexDigits (cs ++ [c]) := by
  refine ⟨by simp, fun d hd => ?_⟩
  rw [List.mem_append, List.mem_singleton] at hd
  obtain hd | rfl := hd
  · exact h.2 d hd
  · exact hc

namespace NumberState

/-- The texts after which the automaton stands in a state. -/
def Shape : NumberState → List Char → Prop
  | zero, w => w = ['0']
  | digits, w => IsDigits w ∧ w ≠ ['0']
  | hexMarker, w => ∃ x, (x = 'x' ∨ x = 'X') ∧ w = ['0', x]
  | hexDigits, w => IsHexadecimal w
  | leadingPoint, w => w = ['.']
  | pointAfterDigits, w => ∃ ds, IsDigits ds ∧ w = ds ++ ['.']
  | fraction, w => IsFraction w
  | exponentMarker, w =>
      ∃ m e, (IsFraction m ∨ IsDigits m) ∧ (e = 'e' ∨ e = 'E') ∧ w = m ++ [e]
  | exponentSign, w =>
      ∃ m e sign, (IsFraction m ∨ IsDigits m) ∧ (e = 'e' ∨ e = 'E') ∧
        (sign = '+' ∨ sign = '-') ∧ w = m ++ [e, sign]
  | exponentDigits, w => ∃ m e, (IsFraction m ∨ IsDigits m) ∧ IsExponent e ∧ w = m ++ e

/-- The state after a text that starts with a digit or a dot, if the automaton gets through. -/
def reached : List Char → Option NumberState
  | [] => none
  | c :: cs => if c = '.' ∨ c.isDigit then cs.foldlM step (first c) else none

theorem reached_snoc {w : List Char} {c : Char} (h : w ≠ []) :
    reached (w ++ [c]) = (reached w).bind (·.step c) := by
  obtain ⟨d, ds, rfl⟩ := List.exists_cons_of_ne_nil h
  simp only [List.cons_append, reached]
  split
  · rw [List.foldlM_append]
    cases ds.foldlM step (first d) <;> simp
  · rfl

theorem shape_first {c : Char} (h : c = '.' ∨ c.isDigit) : (first c).Shape [c] := by
  simp only [first]
  split
  · rename_i hz
    rw [hz]
    rfl
  · rename_i hz
    split
    · rename_i hp
      rw [hp]
      rfl
    · rename_i hp
      exact ⟨isDigits_singleton.2 (h.resolve_left hp), by simpa using hz⟩

theorem digits_of_whole {w : List Char} (h : zero.Shape w ∨ digits.Shape w) : IsDigits w := by
  obtain rfl | h := h
  · exact isDigits_singleton.2 rfl
  · exact h.1

theorem shape_whole {w : List Char} {c : Char} {next : NumberState} (h : IsDigits w)
    (hs : whole c = some next) : next.Shape (w ++ [c]) := by
  simp only [whole] at hs
  split at hs
  · rename_i hc
    cases hs
    exact ⟨w, h, by rw [hc]⟩
  · split at hs
    · rename_i hc
      cases hs
      exact ⟨w, c, .inr h, by simpa [isExponentMarker] using hc, rfl⟩
    · split at hs
      · rename_i hc
        cases hs
        refine ⟨h.snoc hc, fun he => h.1 ?_⟩
        have hl := congrArg List.length he
        rw [List.length_append] at hl
        simpa using hl
      · simp at hs

/-- Each step adds its character to the shape. -/
theorem shape_step {state next : NumberState} {w : List Char} {c : Char} (h : state.Shape w)
    (hs : state.step c = some next) : next.Shape (w ++ [c]) := by
  cases state with
  | zero =>
      simp only [step] at hs
      split at hs
      · rename_i hc
        cases hs
        exact ⟨c, hc, by rw [show w = ['0'] from h]; rfl⟩
      · exact shape_whole (digits_of_whole (.inl h)) hs
  | digits => exact shape_whole h.1 hs
  | hexMarker =>
      obtain ⟨x, hx, rfl⟩ := h
      simp only [step, Option.ite_none_right_eq_some, Option.some.injEq] at hs
      obtain ⟨hc, rfl⟩ := hs
      exact ⟨x, [c], hx, ⟨by simp, by simpa using hc⟩, rfl⟩
  | hexDigits =>
      obtain ⟨x, ds, hx, hd, rfl⟩ := h
      simp only [step, Option.ite_none_right_eq_some, Option.some.injEq] at hs
      obtain ⟨hc, rfl⟩ := hs
      exact ⟨x, ds ++ [c], hx, hd.snoc hc, rfl⟩
  | leadingPoint =>
      simp only [step, Option.ite_none_right_eq_some, Option.some.injEq] at hs
      obtain ⟨hc, rfl⟩ := hs
      exact ⟨[], [c], by simp, isDigits_singleton.2 hc, by rw [show w = ['.'] from h]; rfl⟩
  | pointAfterDigits =>
      obtain ⟨ds, hd, rfl⟩ := h
      simp only [step, Option.ite_none_right_eq_some, Option.some.injEq] at hs
      obtain ⟨hc, rfl⟩ := hs
      exact ⟨ds, [c], hd.2, isDigits_singleton.2 hc, by simp⟩
  | fraction =>
      simp only [step] at hs
      split at hs
      · rename_i hc
        cases hs
        exact ⟨w, c, .inl h, by simpa [isExponentMarker] using hc, rfl⟩
      · simp only [Option.ite_none_right_eq_some, Option.some.injEq] at hs
        obtain ⟨hc, rfl⟩ := hs
        obtain ⟨ds, fs, hd, hf, rfl⟩ := h
        exact ⟨ds, fs ++ [c], hd, hf.snoc hc, by simp⟩
  | exponentMarker =>
      obtain ⟨m, e, hm, he, rfl⟩ := h
      simp only [step] at hs
      split at hs
      · rename_i hc
        cases hs
        exact ⟨m, e, c, hm, he, hc, by simp⟩
      · simp only [Option.ite_none_right_eq_some, Option.some.injEq] at hs
        obtain ⟨hc, rfl⟩ := hs
        exact ⟨m, [e, c], hm, ⟨e, [], [c], he, .inl rfl, isDigits_singleton.2 hc, rfl⟩, by simp⟩
  | exponentSign =>
      obtain ⟨m, e, sign, hm, he, hsign, rfl⟩ := h
      simp only [step, Option.ite_none_right_eq_some, Option.some.injEq] at hs
      obtain ⟨hc, rfl⟩ := hs
      refine ⟨m, [e, sign, c], hm, ⟨e, [sign], [c], he, ?_, isDigits_singleton.2 hc, rfl⟩, by simp⟩
      obtain rfl | rfl := hsign <;> simp
  | exponentDigits =>
      obtain ⟨m, _, hm, ⟨e, sign, ds, he, hsign, hd, rfl⟩, rfl⟩ := h
      simp only [step, Option.ite_none_right_eq_some, Option.some.injEq] at hs
      obtain ⟨hc, rfl⟩ := hs
      exact ⟨m, e :: (sign ++ (ds ++ [c])), hm, ⟨e, sign, ds ++ [c], he, hsign, hd.snoc hc, rfl⟩,
        by simp⟩

theorem shape_of_reached {w : List Char} {state : NumberState} (h : reached w = some state) :
    state.Shape w := by
  induction w using List.reverseRecOn generalizing state with
  | nil => simp [reached] at h
  | append_singleton w c ih =>
      by_cases hw : w = []
      · subst hw
        simp only [List.nil_append, reached, Option.ite_none_right_eq_some] at h
        obtain ⟨hc, hs⟩ := h
        rw [List.foldlM_nil] at hs
        cases hs
        exact shape_first hc
      · rw [reached_snoc hw] at h
        obtain ⟨before, hb, hs⟩ := Option.bind_eq_some_iff.1 h
        exact shape_step (ih hb) hs

def afterDigit : NumberState → NumberState
  | zero | digits => digits
  | hexMarker | hexDigits => hexDigits
  | leadingPoint | pointAfterDigits | fraction => fraction
  | exponentMarker | exponentSign | exponentDigits => exponentDigits

theorem step_digit (state : NumberState) {c : Char} (h : c.isDigit) :
    state.step c = some state.afterDigit := by
  have hx : ∀ d, ¬ d.isDigit → c ≠ d := fun d hd he => hd (he ▸ h)
  have h1 := hx '.' (by decide)
  have h2 := hx 'e' (by decide)
  have h3 := hx 'E' (by decide)
  have h4 := hx 'x' (by decide)
  have h5 := hx 'X' (by decide)
  have h6 := hx '+' (by decide)
  have h7 := hx '-' (by decide)
  cases state <;>
    simp [step, whole, isExponentMarker, isHexDigit, afterDigit, h, h1, h2, h3, h4, h5, h6, h7]

theorem ne_nil_of_reached {w : List Char} {state : NumberState} (h : reached w = some state) :
    w ≠ [] := by
  rintro rfl
  simp [reached] at h

theorem reached_step {w : List Char} {state next : NumberState} {c : Char}
    (h : reached w = some state) (hs : state.step c = some next) :
    reached (w ++ [c]) = some next := by
  rw [reached_snoc (ne_nil_of_reached h), h]
  exact hs

theorem reached_digits {w ds : List Char} {state : NumberState} (h : reached w = some state)
    (hd : IsDigits ds) : reached (w ++ ds) = some state.afterDigit := by
  induction ds using List.reverseRecOn with
  | nil => exact absurd rfl hd.1
  | append_singleton ds c ih =>
      have hc := hd.2 c (by simp)
      rw [← List.append_assoc]
      by_cases hn : ds = []
      · subst hn
        rw [List.append_nil]
        exact reached_step h (step_digit state hc)
      · have hr := ih ⟨hn, fun d hm => hd.2 d (List.mem_append_left _ hm)⟩
        rw [reached_step hr (step_digit _ hc)]
        cases state <;> rfl

theorem reached_of_isDigits {w : List Char} (h : IsDigits w) :
    reached w = some zero ∨ reached w = some digits := by
  obtain ⟨c, cs, rfl⟩ := List.exists_cons_of_ne_nil h.1
  have hc := h.2 c (by simp)
  have h1 : reached [c] = some (first c) := by
    rw [reached, if_pos (.inr hc)]
    rfl
  have hf : first c = zero ∨ first c = digits := by
    simp only [first]
    split
    · exact .inl rfl
    · rw [if_neg]
      · exact .inr rfl
      · rintro rfl
        exact absurd hc (by decide)
  by_cases hn : cs = []
  · subst hn
    rw [h1]
    obtain hf | hf := hf <;> simp [hf]
  · have hcs : IsDigits cs := ⟨hn, fun d hm => h.2 d (.tail _ hm)⟩
    have hr := reached_digits h1 hcs
    rw [List.singleton_append] at hr
    obtain hf | hf := hf <;> rw [hr, hf] <;> exact .inr rfl

theorem reached_of_isFraction {w : List Char} (h : IsFraction w) : reached w = some fraction := by
  obtain ⟨ds, fs, hd, hf, rfl⟩ := h
  rw [List.append_cons]
  by_cases hn : ds = []
  · subst hn
    have hp : reached ['.'] = some leadingPoint := rfl
    exact reached_digits hp hf
  · have hp : reached (ds ++ ['.']) = some pointAfterDigits := by
      obtain hr | hr := reached_of_isDigits ⟨hn, hd⟩ <;> exact reached_step hr rfl
    exact reached_digits hp hf

theorem reached_marker {m : List Char} {e : Char} (hm : IsFraction m ∨ IsDigits m)
    (he : e = 'e' ∨ e = 'E') : reached (m ++ [e]) = some exponentMarker := by
  obtain hm | hm := hm
  · have hr := reached_of_isFraction hm
    obtain rfl | rfl := he <;> exact reached_step hr rfl
  · obtain hr | hr := reached_of_isDigits hm <;> obtain rfl | rfl := he <;>
      exact reached_step hr rfl

theorem reached_sign {m : List Char} {e sign : Char} (hm : IsFraction m ∨ IsDigits m)
    (he : e = 'e' ∨ e = 'E') (hs : sign = '+' ∨ sign = '-') :
    reached (m ++ [e, sign]) = some exponentSign := by
  have hr := reached_marker hm he
  rw [List.append_cons]
  obtain rfl | rfl := hs <;> exact reached_step hr rfl

theorem reached_exponent {m e : List Char} (hm : IsFraction m ∨ IsDigits m)
    (he : IsExponent e) : reached (m ++ e) = some exponentDigits := by
  obtain ⟨marker, sign, ds, hmark, hsign, hd, rfl⟩ := he
  rw [List.append_cons, ← List.append_assoc]
  obtain rfl | rfl | rfl := hsign
  · rw [List.append_nil]
    exact reached_digits (reached_marker hm hmark) hd
  · rw [List.append_assoc m, List.singleton_append]
    exact reached_digits (reached_sign hm hmark (.inl rfl)) hd
  · rw [List.append_assoc m, List.singleton_append]
    exact reached_digits (reached_sign hm hmark (.inr rfl)) hd

theorem reached_hexadecimal {w : List Char} (h : IsHexadecimal w) :
    reached w = some hexDigits := by
  obtain ⟨x, hs, hx, hd, rfl⟩ := h
  have hm : reached ['0', x] = some hexMarker := by
    obtain rfl | rfl := hx <;> rfl
  change reached (['0', x] ++ hs) = _
  induction hs using List.reverseRecOn with
  | nil => exact absurd rfl hd.1
  | append_singleton hs c ih =>
      have hc := hd.2 c (by simp)
      rw [← List.append_assoc]
      by_cases hn : hs = []
      · subst hn
        exact reached_step hm (if_pos hc)
      · exact reached_step (ih ⟨hn, fun d hm => hd.2 d (List.mem_append_left _ hm)⟩) (if_pos hc)

/-- The automaton stands in a state exactly after the texts of its shape. -/
theorem reached_iff_shape {w : List Char} {state : NumberState} :
    reached w = some state ↔ state.Shape w := by
  refine ⟨shape_of_reached, fun h => ?_⟩
  cases state with
  | zero => rw [show w = ['0'] from h]; rfl
  | digits =>
      obtain hr | hr := reached_of_isDigits h.1
      · exact absurd (shape_of_reached hr) h.2
      · exact hr
  | hexMarker =>
      obtain ⟨x, rfl | rfl, rfl⟩ := h <;> rfl
  | hexDigits => exact reached_hexadecimal h
  | leadingPoint => rw [show w = ['.'] from h]; rfl
  | pointAfterDigits =>
      obtain ⟨ds, hd, rfl⟩ := h
      obtain hr | hr := reached_of_isDigits hd <;> exact reached_step hr rfl
  | fraction => exact reached_of_isFraction h
  | exponentMarker =>
      obtain ⟨m, e, hm, he, rfl⟩ := h
      exact reached_marker hm he
  | exponentSign =>
      obtain ⟨m, e, sign, hm, he, hs, rfl⟩ := h
      exact reached_sign hm he hs
  | exponentDigits =>
      obtain ⟨m, e, hm, he, rfl⟩ := h
      exact reached_exponent hm he

end NumberState
end TokenScope
