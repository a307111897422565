import TokenScope.Recording

/-!
The cursor of a recording. A step leads to the next token, or it is refused at the last one
and changes nothing. Whatever the moves, the cursor stays on a token and nothing else of the
recording changes; and steps as long as there are any lead over each token ahead once.
-/

namespace TokenScope
namespace Recording

variable {q r : Recording}

theorem atEnd_iff : r.atEnd ↔ r.size ≤ r.position + 1 := by simp [atEnd]

theorem atStart_iff : r.atStart ↔ r.position = 0 := by simp [atStart]

/-- A step forward stops at the last token. -/
theorem forward_cases {r : Recording} (h : r.position < r.size) :
    (r.position + 1 = r.size ∧ r.forward = .error .atEnd) ∨
    (r.position + 1 < r.size ∧ r.forward = .ok { r with position := r.position + 1 }) := by
  by_cases he : r.atEnd
  · exact .inl ⟨Nat.le_antisymm h (atEnd_iff.1 he), if_pos he⟩
  · exact .inr ⟨Nat.lt_of_not_le fun hs => he (atEnd_iff.2 hs), if_neg he⟩

/-- A step back stops at the first token. -/
theorem back_cases (r : Recording) :
    (r.position = 0 ∧ r.back = .error .atStart) ∨
    (0 < r.position ∧ r.back = .ok { r with position := r.position - 1 }) := by
  by_cases hs : r.atStart
  · exact .inl ⟨atStart_iff.1 hs, if_pos hs⟩
  · exact .inr ⟨Nat.pos_of_ne_zero fun hz => hs (atStart_iff.2 hz), if_neg hs⟩

theorem of_forward_eq_ok {later : Recording} (h : r.forward = .ok later) :
    r.position + 1 < r.size ∧ later = { r with position := r.position + 1 } := by
  by_cases he : r.atEnd
  · rw [forward, if_pos he] at h
    contradiction
  · rw [forward, if_neg he] at h
    exact ⟨Nat.lt_of_not_le fun hs => he (atEnd_iff.2 hs), (Except.ok.inj h).symm⟩

/-- A recording as browsing leaves it: its cursor alone has moved, and is on a token. -/
structure BrowsedFrom (q r : Recording) : Prop where
  same : q = { r with position := q.position }
  onToken : q.position < r.size

namespace BrowsedFrom

theorem place (r : Recording) {i : Nat} (h : i < r.size) :
    BrowsedFrom { r with position := i } r :=
  ⟨rfl, h⟩

theorem size_eq (h : q.BrowsedFrom r) : q.size = r.size := by rw [h.same]; rfl

theorem lt_size (h : q.BrowsedFrom r) : q.position < q.size := by
  rw [h.size_eq]
  exact h.onToken

theorem move (h : q.BrowsedFrom r) {i : Nat} (hi : i < q.size) :
    BrowsedFrom { q with position := i } r := by
  refine ⟨?_, h.size_eq ▸ hi⟩
  rw [h.same]

theorem exists_current (h : q.BrowsedFrom r) : ∃ t, q.current? = some t ∧ t ∈ r.tokens := by
  have hp := h.onToken
  rw [h.same]
  exact ⟨r.tokens[q.position], Array.getElem?_eq_getElem hp, Array.getElem_mem hp⟩

end BrowsedFrom

theorem move_forward_cases (h : r.position < r.size) :
    (r.position + 1 = r.size ∧ r.move .forward = (r, some .atEnd)) ∨
    (r.position + 1 < r.size ∧
      r.move .forward = ({ r with position := r.position + 1 }, none)) := by
  obtain ⟨hlast, hf⟩ | ⟨hnext, hf⟩ := forward_cases h
  · exact .inl ⟨hlast, by rw [move, hf]⟩
  · exact .inr ⟨hnext, by rw [move, hf]⟩

theorem move_back_cases (r : Recording) :
    (r.position = 0 ∧ r.move .back = (r, some .atStart)) ∨
    (0 < r.position ∧ r.move .back = ({ r with position := r.position - 1 }, none)) := by
  obtain ⟨hfirst, hb⟩ | ⟨hbefore, hb⟩ := r.back_cases
  · exact .inl ⟨hfirst, by rw [move, hb]⟩
  · exact .inr ⟨hbefore, by rw [move, hb]⟩

/-- A move puts the cursor on a token, or it is a step that is refused. -/
theorem move_cases (h : r.position < r.size) (m : Move) :
    (∃ i < r.size, r.move m = ({ r with position := i }, none)) ∨
    ∃ e, r.move m = (r, some e) := by
  cases m with
  | forward =>
      obtain ⟨-, hm⟩ | ⟨hnext, hm⟩ := move_forward_cases h
      · exact .inr ⟨_, hm⟩
      · exact .inl ⟨_, hnext, hm⟩
  | back =>
      obtain ⟨-, hm⟩ | ⟨-, hm⟩ := r.move_back_cases
      · exact .inr ⟨_, hm⟩
      · exact .inl ⟨_, Nat.lt_of_le_of_lt (Nat.sub_le _ 1) h, hm⟩
  | toStart => exact .inl ⟨0, Nat.zero_lt_of_lt h, rfl⟩
  | toEnd => exact .inl ⟨r.size - 1, Nat.sub_one_lt_of_lt h, rfl⟩

theorem eq_of_move_refused (h : r.position < r.size) {m : Move} {e : StepError}
    (he : (r.move m).2 = some e) : (r.move m).1 = r := by
  obtain ⟨i, -, hm⟩ | ⟨_, hm⟩ := move_cases h m
  · rw [hm] at he
    contradiction
  · rw [hm]

theorem move_forward_refused_iff (h : r.position < r.size) (e : StepError) :
    (r.move .forward).2 = some e ↔ e = .atEnd ∧ r.position + 1 = r.size := by
  obtain ⟨hlast, hm⟩ | ⟨hnext, hm⟩ := move_forward_cases h
  · simp [hm, hlast, eq_comm]
  · simp [hm, Nat.ne_of_lt hnext]

theorem move_back_refused_iff (r : Recording) (e : StepError) :
    (r.move .back).2 = some e ↔ e = .atStart ∧ r.position = 0 := by
  obtain ⟨hfirst, hm⟩ | ⟨hbefore, hm⟩ := r.move_back_cases
  · simp [hm, hfirst, eq_comm]
  · simp [hm, Nat.ne_of_gt hbefore]

/-- A step back undoes a step forward. -/
theorem move_back_of_forward (h : r.position < r.size) (hm : (r.move .forward).2 = none) :
    (r.move .forward).1.move .back = (r, none) := by
  obtain ⟨-, hf⟩ | ⟨-, hf⟩ := move_forward_cases h
  · rw [hf] at hm
    contradiction
  · rw [hf]
    rfl

/-- A step forward undoes a step back. -/
theorem move_forward_of_back (h : r.position < r.size) (hm : (r.move .back).2 = none) :
    (r.move .back).1.move .forward = (r, none) := by
  obtain ⟨-, hb⟩ | ⟨hbefore, hb⟩ := r.move_back_cases
  · rw [hb] at hm
    contradiction
  · rw [hb]
    have hone : r.position - 1 + 1 = r.position := Nat.sub_add_cancel hbefore
    obtain ⟨hlast, -⟩ | ⟨-, hf⟩ := @move_forward_cases { r with position := r.position - 1 }
      (Nat.lt_of_le_of_lt (Nat.sub_le _ 1) h)
    · exact absurd (hone.symm.trans hlast) (Nat.ne_of_lt h)
    · rw [hf, hone]

/-- The recording after several moves, whether they were refused or not. -/
def moved (r : Recording) : List Move → Recording
  | [] => r
  | m :: ms => (r.move m).1.moved ms

theorem BrowsedFrom.step (h : q.BrowsedFrom r) (m : Move) : (q.move m).1.BrowsedFrom r := by
  obtain ⟨i, hi, hm⟩ | ⟨e, hm⟩ := move_cases h.lt_size m
  · rw [hm]
    exact h.move hi
  · rwa [hm]

theorem BrowsedFrom.moved (h : q.BrowsedFrom r) (ms : List Move) :
    (q.moved ms).BrowsedFrom r := by
  induction ms generalizing q with
  | nil => exact h
  | cons m ms ih => exact ih (h.step m)

theorem ahead_lt_of_forward {later : Recording} (h : r.forward = .ok later) :
    later.size - later.position < r.size - r.position := by
  obtain ⟨hnext, rfl⟩ := of_forward_eq_ok h
  change r.size - (r.position + 1) < r.size - r.position
  omega

/-- The tokens that the cursor is on, with their indices, while it steps forward until a step
is refused, and the reason that it was. -/
def sweep (r : Recording) : List (Token × Nat) × StepError :=
  let here := r.current?.toList.map (·, r.position)
  match _h : r.forward with
  | .ok later =>
      let (tokens, e) := later.sweep
      (here ++ tokens, e)
  | .error e => (here, e)
termination_by r.size - r.position
decreasing_by exact ahead_lt_of_forward ‹_›

theorem zipIdx_drop_position (h : r.position < r.size) :
    r.tokens.toList.zipIdx.drop r.position = r.current?.toList.map (·, r.position) ++
      r.tokens.toList.zipIdx.drop (r.position + 1) := by
  have hlength : r.position < r.tokens.toList.zipIdx.length := by
    rw [List.length_zipIdx]
    exact h
  have hcurrent : r.current? = some r.tokens[r.position] := Array.getElem?_eq_getElem h
  rw [List.drop_eq_getElem_cons hlength, hcurrent, List.getElem_zipIdx]
  simp only [Array.getElem_toList, Nat.zero_add]
  rfl

/-- Each token from the cursor on is passed once, in order, and the last one refuses a step. -/
theorem sweep_eq (h : r.position < r.size) :
    r.sweep = (r.tokens.toList.zipIdx.drop r.position, .atEnd) := by
  fun_induction sweep r with
  | case1 r here later hf tokens e hs ih =>
      obtain ⟨hnext, rfl⟩ := of_forward_eq_ok hf
      obtain ⟨rfl, rfl⟩ := Prod.mk.inj (hs.symm.trans (ih hnext))
      rw [zipIdx_drop_position h]
  | case2 r here e hf =>
      obtain ⟨hlast, hrefused⟩ | ⟨-, hnext⟩ := forward_cases h
      · obtain rfl := Except.error.inj (hf.symm.trans hrefused)
        have hnone : r.tokens.toList.zipIdx.drop (r.position + 1) = [] := by
          rw [hlast, List.drop_eq_nil_iff, List.length_zipIdx]
          exact Nat.le_refl _
        rw [zipIdx_drop_position h, hnone, List.append_nil]
      · rw [hf] at hnext
        contradiction

end Recording
end TokenScope
