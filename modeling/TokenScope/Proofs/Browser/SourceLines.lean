import TokenScope.Proofs.Lexing.Order
import TokenScope.Text.Layout

/-!
The lines that a text is shown in and the lines that places count are the same. A line
shown stands where its number says; what follows it is its ending, and no token starts there.
-/

namespace TokenScope

/-- A line feed, perhaps after a carriage return, or nothing at all. -/
inductive EndsLine : List Char → Prop
  | nothing : EndsLine []
  | feed (rest : List Char) : EndsLine ('\n' :: rest)
  | returned (rest : List Char) : EndsLine ('\r' :: '\n' :: rest)

/-- Past the start of an ending only blanks come before the line feed is behind. -/
theorem EndsLine.mem_of_append {after rest : List Char} {c : Char} (h : EndsLine after)
    (front : List Char) (hs : after = front ++ c :: rest) (hc : ¬ Lead.isBlank c) :
    '\n' ∈ front := by
  cases h with
  | nothing => simp at hs
  | feed tail =>
      cases front with
      | nil =>
          obtain ⟨rfl, -⟩ := List.cons.inj hs
          exact absurd rfl hc
      | cons d front =>
          obtain ⟨rfl, -⟩ := List.cons.inj hs
          exact .head _
  | returned tail =>
      match front with
      | [] =>
          obtain ⟨rfl, -⟩ := List.cons.inj hs
          exact absurd rfl hc
      | [d] =>
          obtain ⟨-, hs⟩ := List.cons.inj hs
          obtain ⟨rfl, -⟩ := List.cons.inj hs
          exact absurd rfl hc
      | d :: e :: front =>
          obtain ⟨-, hs⟩ := List.cons.inj hs
          obtain ⟨rfl, -⟩ := List.cons.inj hs
          exact .tail _ (.head _)

/-- The line with a number, between what stands before it in a text and what follows. -/
structure LineAt (source : List Char) (number : Nat) (line before after : List Char) :
    Prop where
  split : source = before ++ (line ++ after)
  place : Location.start.after before = ⟨number, 1⟩
  single : '\n' ∉ line
  ends : EndsLine after

theorem dropReturn_cases (held : List Char) :
    dropReturn held = held ∨ held = '\r' :: dropReturn held := by
  unfold dropReturn
  split
  · exact .inr rfl
  · exact .inl rfl

/-- The line that ends at a line feed. -/
theorem lineAt_feed {before held : List Char} (rest : List Char) {number : Nat}
    (hn : '\n' ∉ held) (hp : Location.start.after before = ⟨number, 1⟩) :
    ∃ after, LineAt (before ++ (held.reverse ++ '\n' :: rest)) number (dropReturn held).reverse
      before after := by
  obtain hd | hd := dropReturn_cases held
  · rw [hd]
    exact ⟨_, rfl, hp, by simpa using hn, .feed rest⟩
  · have hm : '\n' ∉ dropReturn held := fun hm => hn (hd ▸ .tail _ hm)
    refine ⟨'\r' :: '\n' :: rest, ?_, hp, by simpa using hm, .returned rest⟩
    rw [hd]
    simp [dropReturn]

theorem lineAt_linesAfter {before held cs line : List Char} {number k : Nat} (hn : '\n' ∉ held)
    (hp : Location.start.after before = ⟨number, 1⟩)
    (hl : (linesAfter held cs)[k]? = some line) :
    ∃ above below, LineAt (before ++ (held.reverse ++ cs)) (number + k) line above below := by
  induction cs generalizing before held number k with
  | nil =>
      simp only [linesAfter] at hl
      split at hl
      · contradiction
      · obtain ⟨rfl, rfl⟩ : k = 0 ∧ held.reverse = line := by
          cases k <;> simp_all
        exact ⟨before, [], rfl, hp, by simpa using hn, .nothing⟩
  | cons c cs ih =>
      by_cases hc : c = '\n'
      · rw [hc] at hl ⊢
        simp only [linesAfter] at hl
        cases k with
        | zero =>
            obtain rfl := Option.some.inj hl
            obtain ⟨after, ha⟩ := lineAt_feed cs hn hp
            exact ⟨before, after, ha⟩
        | succ k =>
            have hb : Location.start.after (before ++ (held.reverse ++ ['\n'])) =
                ⟨number + 1, 1⟩ := by
              have hh := Location.after_of_not_mem ⟨number, 1⟩
                (show '\n' ∉ held.reverse by simpa using hn)
              rw [Location.after_append, Location.after_append, hp, hh]
              rfl
            obtain ⟨above, below, h⟩ := ih List.not_mem_nil hb hl
            refine ⟨above, below, ?_⟩
            have hs : before ++ (held.reverse ++ '\n' :: cs) =
                before ++ (held.reverse ++ ['\n']) ++ ([].reverse ++ cs) := by simp
            rwa [hs, Nat.add_comm k, ← Nat.add_assoc]
      · have hl' : (linesAfter (c :: held) cs)[k]? = some line := by
          simpa only [linesAfter, hc] using hl
        have hn' : '\n' ∉ c :: held := by
          rw [List.mem_cons, not_or]
          exact ⟨Ne.symm hc, hn⟩
        obtain ⟨above, below, h⟩ := ih hn' hp hl'
        refine ⟨above, below, ?_⟩
        rwa [List.reverse_cons, List.append_assoc] at h

/-- The lines of a text stand where they are counted. -/
theorem exists_lineAt {source : String} {line : List Char} {k : Nat}
    (h : (linesOf source)[k]? = some line) :
    ∃ before after, LineAt source.toList (k + 1) line before after := by
  obtain ⟨before, after, ha⟩ := @lineAt_linesAfter [] [] _ _ 1 _ List.not_mem_nil rfl h
  exact ⟨before, after, by rwa [Nat.add_comm] at ha⟩

theorem length_linesAfter_le (held cs : List Char) :
    (linesAfter held cs).length ≤ held.length + cs.length := by
  induction cs generalizing held with
  | nil =>
      cases held with
      | nil => exact Nat.le_refl 0
      | cons c held => exact Nat.succ_le_succ (Nat.zero_le _)
  | cons c cs ih =>
      rw [List.length_cons]
      by_cases hc : c = '\n'
      · have hrest := ih []
        rw [List.length_nil] at hrest
        rw [hc, linesAfter, List.length_cons]
        omega
      · have hrest := ih (c :: held)
        rw [List.length_cons] at hrest
        simp only [linesAfter]
        omega

/-- Each line feed ends a line; what follows the last of some is read on with a part held. -/
theorem length_linesAfter_append (held front rest : List Char) :
    ∃ kept, (linesAfter held (front ++ rest)).length =
      front.count '\n' + (linesAfter kept rest).length := by
  induction front generalizing held with
  | nil => exact ⟨held, (Nat.zero_add _).symm⟩
  | cons c front ih =>
      by_cases hc : c = '\n'
      · obtain ⟨kept, hk⟩ := ih []
        refine ⟨kept, ?_⟩
        rw [hc, List.cons_append, linesAfter, List.length_cons, hk, List.count_cons_self]
        omega
      · obtain ⟨kept, hk⟩ := ih (c :: held)
        refine ⟨kept, ?_⟩
        rw [List.count_cons_of_ne hc, ← hk]
        simp only [List.cons_append, linesAfter]

/-- The last character ends a line if it is a line feed, and else is on one that the end of the
text ends. -/
theorem length_linesOf_concat {text : String} {front : List Char} {c : Char}
    (h : text.toList = front ++ [c]) : (linesOf text).length = front.count '\n' + 1 := by
  obtain ⟨kept, hk⟩ := length_linesAfter_append [] front [c]
  have hlast : (linesAfter kept [c]).length = 1 := by
    by_cases hc : c = '\n'
    · rw [hc]
      rfl
    · simp [linesAfter]
  rw [linesOf, h, hk, hlast]

theorem linesAfter_ne_nil {held cs : List Char} (h : held ≠ [] ∨ cs ≠ []) :
    linesAfter held cs ≠ [] := by
  induction cs generalizing held with
  | nil => simpa [linesAfter] using h
  | cons c cs ih =>
      by_cases hc : c = '\n'
      · rw [hc, linesAfter]
        exact List.cons_ne_nil _ _
      · simp only [linesAfter]
        exact ih (.inl (List.cons_ne_nil _ _))

namespace LineAt

variable {source line before after : List Char} {number : Nat}

theorem length_le (h : LineAt source number line before after) :
    before.length + line.length ≤ source.length := by
  rw [h.split, List.length_append, List.length_append]
  omega

/-- Places along a line. -/
theorem place_append (h : LineAt source number line before after) {front back : List Char}
    (hf : line = front ++ back) :
    Location.start.after (before ++ front) = ⟨number, 1 + front.length⟩ := by
  have hn : '\n' ∉ front := fun hm => h.single (by rw [hf]; exact List.mem_append_left _ hm)
  rw [Location.after_append, h.place, Location.after_of_not_mem _ hn]

/-- A character on the line's number that is no blank stands within the line. -/
theorem exists_front (h : LineAt source number line before after) {above rest : List Char}
    {c : Char} (hs : source = above ++ c :: rest) (hc : ¬ Lead.isBlank c)
    (hl : (Location.start.after above).line = number) :
    ∃ front back, line = front ++ back ∧ back ≠ [] ∧ above = before ++ front := by
  obtain ⟨front, rfl⟩ : ∃ front, above = before ++ front := by
    have hsplit := h.split
    rw [hs, List.append_eq_append_iff] at hsplit
    obtain ⟨more, rfl, -⟩ | ⟨front, hf, -⟩ := hsplit
    · by_cases hm : more = []
      · exact ⟨[], by simp [hm]⟩
      · -- an earlier place is not on the line, whose first column is its least
        have hb := Location.before_after (Location.start.after above) hm
        have hcol : 0 < (Location.start.after above).column :=
          Location.column_after_pos Nat.one_pos above
        rw [← Location.after_append, h.place, Location.Before] at hb
        simp only [hl] at hb
        omega
    · exact ⟨front, hf⟩
  have hline : front ++ c :: rest = line ++ after := by
    have hsplit := h.split
    rwa [hs, List.append_assoc, List.append_cancel_left_eq] at hsplit
  rw [List.append_eq_append_iff] at hline
  obtain ⟨back, hf, hb⟩ | ⟨more, rfl, hm⟩ := hline
  · refine ⟨front, back, hf, ?_, rfl⟩
    rintro rfl
    exact absurd (h.ends.mem_of_append [] hb.symm hc) (by simp)
  · -- past the ending the line is over
    have hlt := Location.line_lt_after (Location.start.after (before ++ line))
      (h.ends.mem_of_append _ hm hc)
    have hend := h.place_append (List.append_nil line).symm
    rw [← Location.after_append, List.append_assoc, hl, hend] at hlt
    exact absurd hlt (Nat.lt_irrefl _)

end LineAt

/-- A text has no more lines than characters, and none is longer than the text. -/
theorem length_linesOf_le (text : String) :
    (linesOf text).length ≤ text.length ∧ ∀ line ∈ linesOf text, line.length ≤ text.length := by
  constructor
  · have hle := length_linesAfter_le [] text.toList
    rwa [List.length_nil, Nat.zero_add, String.length_toList] at hle
  · intro line hl
    obtain ⟨k, hk⟩ := List.mem_iff_getElem?.1 hl
    obtain ⟨before, after, hline⟩ := exists_lineAt hk
    have hle := hline.length_le
    rw [String.length_toList] at hle
    omega

end TokenScope
