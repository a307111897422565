import TokenScope.Proofs.Lexing.Places

/-!
Reading order. Going on in a text goes on in the order of places, so that what the pieces
of a text report is reported at ever later places, and the place of a character is that of
no other.
-/

namespace TokenScope
namespace Location

theorem Before.trans {a b c : Location} (h : a.Before b) (h' : b.Before c) : a.Before c := by
  unfold Before at *
  omega

theorem Before.ne {a b : Location} (h : a.Before b) : a ≠ b := by
  rintro rfl
  unfold Before at h
  omega

theorem before_pass (here : Location) (c : Char) : here.Before (here.pass c) := by
  unfold Before pass
  split
  · exact .inl (Nat.lt_succ_self _)
  · exact .inr ⟨rfl, Nat.lt_succ_self _⟩

theorem before_after (here : Location) {cs : List Char} (h : cs ≠ []) :
    here.Before (here.after cs) := by
  induction cs generalizing here with
  | nil => contradiction
  | cons c cs ih =>
      rw [after_cons]
      by_cases hn : cs = []
      · rw [hn]
        exact before_pass here c
      · exact (before_pass here c).trans (ih (here.pass c) hn)

theorem line_le_after (here : Location) (cs : List Char) : here.line ≤ (here.after cs).line := by
  by_cases h : cs = []
  · rw [h]
    exact Nat.le_refl _
  · obtain hl | hl := before_after here h
    · exact Nat.le_of_lt hl
    · exact Nat.le_of_eq hl.1

theorem line_lt_after (here : Location) {cs : List Char} (h : '\n' ∈ cs) :
    here.line < (here.after cs).line := by
  obtain ⟨front, back, rfl⟩ := List.append_of_mem h
  rw [after_append, after_cons]
  have hf := line_le_after here front
  have hb := line_le_after ((here.after front).pass '\n') back
  exact Nat.lt_of_le_of_lt hf hb

/-- Along a line only the column moves. -/
theorem after_of_not_mem (here : Location) {cs : List Char} (h : '\n' ∉ cs) :
    here.after cs = ⟨here.line, here.column + cs.length⟩ := by
  induction cs generalizing here with
  | nil => rfl
  | cons c cs ih =>
      rw [List.mem_cons, not_or] at h
      have hp : here.pass c = ⟨here.line, here.column + 1⟩ := if_neg (Ne.symm h.1)
      rw [after_cons, ih _ h.2, hp, List.length_cons, Nat.add_assoc, Nat.add_comm 1]

/-- Characters that lead to a place on the same line are counted by its column. -/
theorem column_after_of_line_eq {here : Location} {cs : List Char}
    (h : (here.after cs).line = here.line) : (here.after cs).column = here.column + cs.length := by
  have hn : '\n' ∉ cs := fun hm => Nat.ne_of_gt (line_lt_after here hm) h
  rw [after_of_not_mem here hn]

end Location

namespace Piece

/-- What stands before and behind a placed piece. -/
theorem split_of_mem_placed {before : List Char} {ps : List Piece} {q : List Char × Piece}
    (h : q ∈ placed before ps) :
    ∃ more rest, q.1 = before ++ more ∧ ps.flatMap chars = more ++ (q.2.chars ++ rest) := by
  induction ps generalizing before with
  | nil => contradiction
  | cons p ps ih =>
      rw [placed, List.mem_cons] at h
      obtain rfl | h := h
      · exact ⟨[], ps.flatMap chars, (List.append_nil before).symm, rfl⟩
      · obtain ⟨more, rest, hm, hr⟩ := ih h
        refine ⟨p.chars ++ more, rest, ?_, ?_⟩
        · rw [hm, List.append_assoc]
        · rw [List.flatMap_cons, hr, List.append_assoc]

/-- Each placed piece stands behind the characters of all before it. -/
theorem pairwise_placed_behind (before : List Char) (ps : List Piece) :
    (placed before ps).Pairwise fun q r => ∃ more, r.1 = q.1 ++ (q.2.chars ++ more) := by
  induction ps generalizing before with
  | nil => exact .nil
  | cons p ps ih =>
      rw [placed, List.pairwise_cons]
      refine ⟨?_, ih _⟩
      intro r hr
      obtain ⟨more, -, hm, -⟩ := split_of_mem_placed hr
      exact ⟨more, by rw [hm, List.append_assoc]⟩

/-- Pieces that hold characters stand at ever later places. -/
theorem pairwise_placed (here : Location) (before : List Char) {ps : List Piece}
    (h : ∀ p ∈ ps, p.chars ≠ []) :
    (placed before ps).Pairwise fun q r => (here.after q.1).Before (here.after r.1) := by
  apply (pairwise_placed_behind before ps).imp_of_mem
  rintro q r hq - ⟨more, hm⟩
  rw [hm, Location.after_append]
  exact Location.before_after _ (by simp [h _ (mem_of_mem_placed hq)])

end Piece
end TokenScope
