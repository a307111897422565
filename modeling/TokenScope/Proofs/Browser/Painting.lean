import TokenScope.Browser.SourcePane
import TokenScope.Proofs.Lexing.Partition

/-!
Painting stretches of a text onto a line. Where the stretches that start on the line follow
one another and start inside it, each gets a span of its own, cut off at the end of the line,
and what no stretch covers stays plain. Whatever the stretches, the spans make up the line.
-/

namespace TokenScope

/-- The characters of a text from one index to another. -/
def between (source : List Char) (i j : Nat) : List Char := (source.drop i).take (j - i)

theorem take_between (source : List Char) {i j k : Nat} (h : j ≤ k) :
    (between source i k).take (j - i) = between source i j := by
  rw [between, between, List.take_take, Nat.min_eq_left (by omega)]

theorem drop_between (source : List Char) {i j k : Nat} (h : i ≤ j) :
    (between source i k).drop (j - i) = between source j k := by
  have hk : k - i - (j - i) = k - j := by omega
  rw [between, between, List.drop_take, List.drop_drop, Nat.add_sub_cancel' h, hk]

theorem length_between {source : List Char} {i j : Nat} (h : j ≤ source.length) :
    (between source i j).length = j - i := by
  rw [between, List.length_take, List.length_drop]
  omega

namespace Span

/-- Spans with the index of the first character of each. -/
def placed (first : Nat) : List Span → List (Nat × Span)
  | [] => []
  | span :: spans => (first, span) :: placed (first + span.text.length) spans

theorem placed_append (first : Nat) (xs ys : List Span) :
    placed first (xs ++ ys) =
      placed first xs ++ placed (first + (xs.flatMap (·.text)).length) ys := by
  induction xs generalizing first with
  | nil => rfl
  | cons x xs ih =>
      rw [List.cons_append, placed, ih, List.flatMap_cons, List.length_append, Nat.add_assoc]
      rfl

end Span

/-- The span shows what of a stretch lies before the end of a line, in the style of the
token's kind, and marked if the token is the current one. -/
structure Shows (source : List Char) (stop : Nat) (s : Stretch) (isCurrent : Bool)
    (span : Span) : Prop where
  visible : span.text ≠ []
  text : span.text = between source s.first (min s.stop stop)
  style : span.style =
    if isCurrent then (s.token.kind.style.withBack Palette.currentToken).emphasised
    else s.token.kind.style

/-- The stretch starts on the line of so many characters from `first` on. -/
structure Stretch.StartsIn (s : Stretch) (first length : Nat) : Prop where
  low : first ≤ s.first
  high : s.first < first + length
  column : s.token.location.column = s.first - first + 1
  nonempty : 0 < s.token.width

/-- Spans from one index of a text to another, with the stretches they show. -/
structure Paints (source : List Char) (current start stop : Nat) (marks : List (Nat × Stretch))
    (spans : List Span) : Prop where
  shown : ∀ m ∈ marks, ∃ span, (m.2.first, span) ∈ Span.placed start spans ∧
    Shows source stop m.2 (m.1 = current) span
  others : ∀ k span, (k, span) ∈ Span.placed start spans →
    (∃ m ∈ marks, m.2.first = k ∧ Shows source stop m.2 (m.1 = current) span) ∨
    span.style = .plain ∧ ∀ j, k ≤ j → j < k + span.text.length →
      start ≤ j ∧ j < stop ∧ ∀ m ∈ marks, ¬ m.2.covers j

namespace SourcePane

theorem flatMap_gap (text : List Char) : (gap text).flatMap (·.text) = text := by
  unfold gap
  split
  · rename_i h
    exact (List.isEmpty_iff.1 h).symm
  · exact List.append_nil text

theorem mem_placed_gap {start k : Nat} {text : List Char} {span : Span}
    (h : (k, span) ∈ Span.placed start (gap text)) : k = start ∧ span = ⟨text, .plain⟩ := by
  unfold gap at h
  split at h
  · contradiction
  · rw [Span.placed, Span.placed, List.mem_singleton] at h
    cases h
    exact ⟨rfl, rfl⟩

theorem text_tokenSpan (kind : TokenKind) (isCurrent : Bool) (text : List Char) :
    (tokenSpan kind isCurrent text).text = text := by
  cases isCurrent <;> rfl

/-- The spans make up the line, whatever tokens are said to start on it. -/
theorem flatMap_spansFrom (length current done : Nat) (left : List Char)
    (tokens : List (Nat × Token)) :
    (spansFrom length current done left tokens).flatMap (·.text) = left := by
  induction tokens generalizing done left with
  | nil => exact flatMap_gap left
  | cons entry tokens ih =>
      obtain ⟨i, token⟩ := entry
      simp only [spansFrom]
      split
      · exact ih done left
      · rw [List.flatMap_append, List.flatMap_cons, flatMap_gap, text_tokenSpan, ih,
          List.take_append_drop, List.take_append_drop]

variable {source : List Char} {current first length start : Nat}

/-- One stretch that starts in the rest of the line: what lies before it, its span, and the
spans behind it. -/
theorem spansFrom_cons {i : Nat} {s : Stretch} {tokens : List (Nat × Token)}
    (hf : first ≤ start) (hs : s.StartsIn first length) (hstart : start ≤ s.first) :
    spansFrom length current (start - first) (between source start (first + length))
        ((i, s.token) :: tokens) =
      gap (between source start s.first) ++
        tokenSpan s.token.kind (i = current)
            (between source s.first (min s.stop (first + length))) ::
          spansFrom length current (min s.stop (first + length) - first)
            (between source (min s.stop (first + length)) (first + length)) tokens := by
  obtain ⟨hlow, hhigh, hcolumn, hwidth⟩ := hs
  have hbegin : min (s.token.location.column - 1) length = s.first - first := by omega
  have hend : min (s.first - first + s.token.width) length =
      min s.stop (first + length) - first := by
    rw [Stretch.stop]
    omega
  have hgap : s.first - first - (start - first) = s.first - start := by omega
  have hwide : min s.stop (first + length) - first - (s.first - first) =
      min s.stop (first + length) - s.first := by omega
  have hle : s.first ≤ min s.stop (first + length) := by
    rw [Stretch.stop]
    omega
  have hskip : ¬ s.first - first < start - first := by omega
  simp only [spansFrom, hbegin, hend, hskip, if_false, hgap, hwide]
  rw [take_between source (Nat.le_of_lt hhigh), drop_between source hstart,
    take_between source (Nat.min_le_right _ _), drop_between source hle]

theorem shows_tokenSpan {s : Stretch} (hs : s.StartsIn first length)
    (hl : first + length ≤ source.length) (isCurrent : Bool) :
    Shows source (first + length) s isCurrent
      (tokenSpan s.token.kind isCurrent
        (between source s.first (min s.stop (first + length)))) := by
  obtain ⟨hlow, hhigh, -, hwidth⟩ := hs
  constructor
  case visible =>
    rw [text_tokenSpan, ← List.length_pos_iff, length_between (by omega), Stretch.stop]
    omega
  case text => exact text_tokenSpan _ _ _
  case style => cases isCurrent <;> rfl

theorem paints_gap {stop : Nat} (h : stop ≤ source.length) :
    Paints source current start stop [] (gap (between source start stop)) := by
  constructor
  case shown =>
    intro m hm
    contradiction
  case others =>
    intro k span hk
    obtain ⟨rfl, rfl⟩ := mem_placed_gap hk
    refine .inr ⟨rfl, fun j hlow hhigh => ⟨hlow, ?_, fun m hm => by contradiction⟩⟩
    rw [length_between h] at hhigh
    omega

/-- A gap and the span of a stretch before what is painted from there on. -/
theorem paints_cons {stop i : Nat} {s : Stretch} {text : List Char} {span : Span}
    {marks : List (Nat × Stretch)} {spans : List Span}
    (h : Paints source current (min s.stop stop) stop marks spans)
    (hs : Shows source stop s (i = current) span) (hgap : start + text.length = s.first)
    (hspan : s.first + span.text.length = min s.stop stop)
    (hlater : ∀ m ∈ marks, min s.stop stop ≤ m.2.first) :
    Paints source current start stop ((i, s) :: marks) (gap text ++ span :: spans) := by
  have hplaced : Span.placed start (gap text ++ span :: spans) =
      Span.placed start (gap text) ++
        (s.first, span) :: Span.placed (min s.stop stop) spans := by
    rw [Span.placed_append, flatMap_gap, hgap, Span.placed, hspan]
  constructor
  case shown =>
    intro m hm
    rw [hplaced]
    rw [List.mem_cons] at hm
    obtain rfl | hm := hm
    · exact ⟨span, List.mem_append_right _ (.head _), hs⟩
    · obtain ⟨other, hother, hshows⟩ := h.shown m hm
      exact ⟨other, List.mem_append_right _ (.tail _ hother), hshows⟩
  case others =>
    intro k other hk
    rw [hplaced, List.mem_append, List.mem_cons] at hk
    obtain hk | hk | hk := hk
    · -- in the gap, before this stretch and all later ones
      obtain ⟨rfl, rfl⟩ := mem_placed_gap hk
      have hpos := List.length_pos_iff.2 hs.visible
      refine .inr ⟨rfl, fun j hlow (hhigh : j < k + text.length) => ⟨hlow, by omega, ?_⟩⟩
      rw [List.forall_mem_cons]
      refine ⟨fun hc => ?_, fun m hm hc => ?_⟩
      · have hfirst : s.first ≤ j := (Stretch.covers_iff.1 hc).1
        omega
      · have hfirst := (Stretch.covers_iff.1 hc).1
        have hmid := hlater m hm
        omega
    · cases hk
      exact .inl ⟨(i, s), .head _, rfl, hs⟩
    · -- behind this stretch, or the line ends in it
      obtain ⟨m, hm, hfirst, hshows⟩ | ⟨hplain, hbare⟩ := h.others k other hk
      · exact .inl ⟨m, .tail _ hm, hfirst, hshows⟩
      · refine .inr ⟨hplain, fun j hlow hhigh => ?_⟩
        obtain ⟨hmid, hstop, hfree⟩ := hbare j hlow hhigh
        refine ⟨by omega, hstop, ?_⟩
        rw [List.forall_mem_cons]
        refine ⟨fun hc => ?_, hfree⟩
        have hover : j < s.stop := (Stretch.covers_iff.1 hc).2
        omega

/-- Painting, stretch by stretch. Each stretch starts at or behind the end of the one before
it, of which no more is shown than the line has. -/
theorem spansFrom_induction {motive : Nat → List (Nat × Stretch) → List Span → Prop}
    (rest : ∀ start, motive start [] (gap (between source start (first + length))))
    (stretch : ∀ start i s marks spans, s.StartsIn first length → start ≤ s.first →
      (∀ m ∈ marks, min s.stop (first + length) ≤ m.2.first) →
      motive (min s.stop (first + length)) marks spans →
      motive start ((i, s) :: marks)
        (gap (between source start s.first) ++
          tokenSpan s.token.kind (i = current)
            (between source s.first (min s.stop (first + length))) :: spans))
    {marks : List (Nat × Stretch)} (hf : first ≤ start)
    (hm : ∀ m ∈ marks, m.2.StartsIn first length ∧ start ≤ m.2.first)
    (ho : marks.Pairwise fun m n => m.2.stop ≤ n.2.first) :
    motive start marks
      (spansFrom length current (start - first) (between source start (first + length))
        (marks.map fun m => (m.1, m.2.token))) := by
  induction marks generalizing start with
  | nil => exact rest start
  | cons m marks ih =>
      obtain ⟨i, s⟩ := m
      rw [List.forall_mem_cons] at hm
      rw [List.pairwise_cons] at ho
      have hs : s.StartsIn first length := hm.1.1
      have hstart : start ≤ s.first := hm.1.2
      have hlow := hs.low
      have hhigh := hs.high
      have hstop : s.stop = s.first + s.token.width := rfl
      have hlater : ∀ n ∈ marks, min s.stop (first + length) ≤ n.2.first := fun n hn =>
        Nat.le_trans (Nat.min_le_left _ _) (ho.1 n hn)
      have hspans := ih (show first ≤ min s.stop (first + length) by omega)
        (fun n hn => ⟨(hm.2 n hn).1, hlater n hn⟩) ho.2
      rw [List.map_cons, spansFrom_cons hf hs hstart]
      exact stretch start i s marks _ hs hstart hlater hspans

theorem paints_spansFrom {marks : List (Nat × Stretch)} (hf : first ≤ start)
    (hl : first + length ≤ source.length)
    (hm : ∀ m ∈ marks, m.2.StartsIn first length ∧ start ≤ m.2.first)
    (ho : marks.Pairwise fun m n => m.2.stop ≤ n.2.first) :
    Paints source current start (first + length) marks
      (spansFrom length current (start - first) (between source start (first + length))
        (marks.map fun m => (m.1, m.2.token))) := by
  refine spansFrom_induction (motive := fun start marks spans =>
    Paints source current start (first + length) marks spans) ?_ ?_ hf hm ho
  · intro start
    exact paints_gap hl
  · intro start i s marks spans hs hstart hlater hspans
    have hlow := hs.low
    have hhigh := hs.high
    have hstop : s.stop = s.first + s.token.width := rfl
    refine paints_cons hspans (shows_tokenSpan hs hl _) ?_ ?_ hlater
    · rw [length_between (by omega)]
      omega
    · rw [text_tokenSpan, length_between (by omega)]
      omega

end SourcePane
end TokenScope
