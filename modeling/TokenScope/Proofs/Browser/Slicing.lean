import TokenScope.Proofs.Browser.Checked
import TokenScope.Proofs.Browser.Painting
import TokenScope.Proofs.Lexing.Stream
import TokenScope.Proofs.Recording.Index

/-!
Painting a line as a loop over the tokens that are said to start on it. A turn of the loop cuts
two slices out of the line, up to a token and through it, and fails if one of them is out of
range. No turn fails, whether or not the tokens have to do with the line, and the spans together
are the line.
-/

namespace TokenScope

/-- How far a line is painted, and the spans so far. -/
structure Painted where
  cursor : Nat
  spans : List Span

namespace Painted

/-- The turn of the loop for one token. How sums are taken, and that they may fail, is left
open. -/
def step? (sum : Nat → Nat → Option Nat) (line : List Char) (current : Nat) (p : Painted)
    (entry : Nat × Token) : Option Painted := do
  let first := min (entry.2.location.column - 1) line.length
  let last := min (← sum first entry.2.width) line.length
  if first < p.cursor then some p
  else
    let before ← Word.slice? line p.cursor first
    let shown ← Word.slice? line first last
    some ⟨last, p.spans ++
      (SourcePane.gap before ++ [SourcePane.tokenSpan entry.2.kind (entry.1 = current) shown])⟩

/-- The slice behind the last token. -/
def finish? (line : List Char) (p : Painted) : Option (List Span) := do
  let left ← Word.slice? line p.cursor line.length
  some (p.spans ++ SourcePane.gap left)

/-- The spans so far and those still to come. -/
def whole (line : List Char) (current : Nat) (p : Painted) (tokens : List (Nat × Token)) :
    List Span :=
  p.spans ++ SourcePane.spansFrom line.length current p.cursor (line.drop p.cursor) tokens

variable {sum : Nat → Nat → Option Nat} {line : List Char} {p : Painted}

/-- A turn leaves the cursor in the line and changes nothing of the whole. -/
theorem exists_step? {entry : Nat × Token} (hp : p.cursor ≤ line.length)
    (hsum : ∀ first ≤ line.length, sum first entry.2.width = some (first + entry.2.width))
    (current : Nat) (rest : List (Nat × Token)) :
    ∃ q, p.step? sum line current entry = some q ∧ q.cursor ≤ line.length ∧
      q.whole line current rest = p.whole line current (entry :: rest) := by
  obtain ⟨i, token⟩ := entry
  have hfirst : min (token.location.column - 1) line.length ≤ line.length := Nat.min_le_right _ _
  simp only [step?, whole, SourcePane.spansFrom, hsum _ hfirst, Option.bind_eq_bind,
    Option.bind_some]
  generalize min (token.location.column - 1) line.length = first at *
  generalize hlast : min (first + token.width) line.length = last
  have hlow : first ≤ last := by omega
  have hhigh : last ≤ line.length := by omega
  by_cases hpassed : first < p.cursor
  · rw [if_pos hpassed, if_pos hpassed]
    exact ⟨p, rfl, hp, rfl⟩
  · have hnext := Nat.le_of_not_lt hpassed
    have hd : (line.drop p.cursor).drop (first - p.cursor) = line.drop first := by
      rw [List.drop_drop, Nat.add_sub_cancel' hnext]
    have hl : (line.drop first).drop (last - first) = line.drop last := by
      rw [List.drop_drop, Nat.add_sub_cancel' hlow]
    rw [if_neg hpassed, if_neg hpassed, Word.slice?_of_le hnext hfirst,
      Word.slice?_of_le hlow hhigh]
    refine ⟨_, rfl, hhigh, ?_⟩
    rw [hd, hl, List.append_assoc, List.append_assoc, List.singleton_append]

theorem exists_foldlM {tokens : List (Nat × Token)} (hp : p.cursor ≤ line.length)
    (hsum : ∀ entry ∈ tokens, ∀ first ≤ line.length,
      sum first entry.2.width = some (first + entry.2.width)) (current : Nat) :
    ∃ q, tokens.foldlM (step? sum line current) p = some q ∧ q.cursor ≤ line.length ∧
      q.whole line current [] = p.whole line current tokens := by
  induction tokens generalizing p with
  | nil => exact ⟨p, rfl, hp, rfl⟩
  | cons entry tokens ih =>
      rw [List.forall_mem_cons] at hsum
      obtain ⟨q, hq, hcursor, hwhole⟩ := exists_step? hp hsum.1 current tokens
      obtain ⟨last, hlast, hend, hall⟩ := ih hcursor hsum.2
      rw [List.foldlM_cons, hq]
      exact ⟨last, hlast, hend, hall.trans hwhole⟩

theorem finish?_eq (hp : p.cursor ≤ line.length) (current : Nat) :
    p.finish? line = some (p.whole line current []) := by
  have hall : (line.drop p.cursor).take (line.length - p.cursor) = line.drop p.cursor := by
    rw [← List.length_drop, List.take_length]
  rw [finish?, Word.slice?_of_le hp (Nat.le_refl _), hall]
  rfl

end Painted

namespace SourcePane

/-- The spans of a line by the loop. -/
def painted? (sum : Nat → Nat → Option Nat) (r : Recording) (number : Nat) (line : List Char) :
    Option (List Span) := do
  let p ← (← r.onLine? number).foldlM (Painted.step? sum line r.position) ⟨0, []⟩
  p.finish? line

theorem painted?_eq {sum : Nat → Nat → Option Nat} {r : Recording} {number : Nat}
    {line : List Char} (hi : ∀ i ∈ r.index.onLine number, i < r.size)
    (hsum : ∀ t ∈ r.tokens, ∀ first ≤ line.length, sum first t.width = some (first + t.width)) :
    painted? sum r number line = some (spans r number line) := by
  have hline : ∀ entry ∈ r.onLine number, ∀ first ≤ line.length,
      sum first entry.2.width = some (first + entry.2.width) := by
    intro entry he
    obtain ⟨i, -, ht⟩ := List.mem_filterMap.1 he
    obtain ⟨t, hget, rfl⟩ := Option.map_eq_some_iff.1 ht
    exact hsum t (Array.mem_of_getElem? hget)
  obtain ⟨q, hq, hcursor, hwhole⟩ :=
    @Painted.exists_foldlM sum line ⟨0, []⟩ _ (Nat.zero_le _) hline r.position
  rw [painted?, Recording.onLine?_eq hi]
  simp only [Option.bind_eq_bind, Option.bind_some, hq]
  rw [Painted.finish?_eq hcursor, hwhole]
  rfl

/-- A line is painted whole and nothing else. -/
structure Unaltered (r : Recording) (number : Nat) (line : List Char) : Prop where
  /-- No slice is out of range. -/
  sliced : painted? (fun a b => some (a + b)) r number line = some (spans r number line)
  /-- Nor does a sum run over where it fits into a word. -/
  words : (∀ t ∈ r.tokens, line.length + t.width < Word.count) →
    painted? Word.add? r number line = some (spans r number line)
  text : (spans r number line).flatMap (·.text) = line

/-- Whatever was recorded, and wherever the cursor is, every line of every text is painted
whole. -/
theorem unaltered_of_record {lexer : Lexer} {limit : Nat} {r : Recording}
    (hr : Recording.record lexer limit = .ok r) (position number : Nat) (line : List Char) :
    Unaltered { r with position } number line := by
  obtain rfl := Lexer.eq_ofRun_of_record hr
  constructor
  case sliced =>
    exact painted?_eq (fun i hi => TokenIndex.lt_size_of_mem_onLine hi) fun t _ first _ => rfl
  case words =>
    intro hw
    apply painted?_eq fun i hi => TokenIndex.lt_size_of_mem_onLine hi
    intro t ht first hfirst
    exact Word.add?_of_lt (Nat.lt_of_le_of_lt (Nat.add_le_add_right hfirst _) (hw t ht))
  case text => exact flatMap_spansFrom _ _ _ _ _

/-- The tokens of a text on the line of another, where one starts past the end and one runs over
it. -/
theorem unaltered_of_record_other_text :
    ∃ r, Recording.record (.ofString "x \"a\nb\" @ 0x\n") 4 = .ok r ∧
      Unaltered { r with position := 1 } 1 "ab@".toList := by
  have hsize : (Lexer.ofString "x \"a\nb\" @ 0x\n").tokenize.1.size ≤ 4 := by decide +kernel
  have hr := Lexer.record_of_size_le hsize
  exact ⟨_, hr, unaltered_of_record hr 1 1 _⟩

end SourcePane
end TokenScope
