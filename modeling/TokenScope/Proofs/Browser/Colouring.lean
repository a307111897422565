import TokenScope.Proofs.Browser.Painting
import TokenScope.Proofs.Browser.SourceLines
import TokenScope.Proofs.Lexing.Findings
import TokenScope.Proofs.Lexing.Separation

/-!
The source pane colours what the lexer found. On a line of the text that was recorded every
token that starts there has a span of its own, which shows of it what the line does; all other
characters of the line are plain, and each is a blank, a reported stray, or part of a token
that an earlier line started.
-/

namespace TokenScope

/-- Why a character of a line belongs to no token that starts on the line. -/
inductive Bare (source : List Char) (found : Array Diagnostic) (run : List Stretch)
    (line i : Nat) : Prop
  | blank {c : Char} (hc : source[i]? = some c) (hb : Lead.isBlank c)
  | stray {d : Diagnostic} (hd : d ∈ found) (hf : d.fault = .unexpectedCharacter)
      (hl : d.location = .ofIndex source i)
  | earlier {s : Stretch} (hs : s ∈ run) (hc : s.covers i) (hl : s.token.location.line < line)

/-- What the spans of a line show of a recording, where the line starts at the index `first`
of the text and `run` tells which characters each token took. -/
structure Coloured (source : List Char) (r : Recording) (run : List Stretch) (number first : Nat)
    (line : List Char) (spans : List Span) : Prop where
  place : Location.ofIndex source first = ⟨number, 1⟩
  within : between source first (first + line.length) = line
  text : spans.flatMap (·.text) = line
  tokens : ∀ i t, r.tokens[i]? = some t → ¬ t.isEnd → t.location.line = number →
    ∃ s span, run[i]? = some s ∧ s.token = t ∧ (s.first, span) ∈ Span.placed first spans ∧
      Shows source (first + line.length) s (i = r.position) span
  others : ∀ k span, (k, span) ∈ Span.placed first spans →
    (∃ i s, run[i]? = some s ∧ r.tokens[i]? = some s.token ∧
      s.token.location.line = number ∧ s.first = k ∧
      Shows source (first + line.length) s (i = r.position) span) ∨
    span.style = .plain ∧
      ∀ j, k ≤ j → j < k + span.text.length → Bare source r.diagnostics run number j

namespace Piece

/-- Every character is part of a piece. -/
theorem exists_mem_placed {before : List Char} {ps : List Piece} {i : Nat}
    (hlow : before.length ≤ i) (hhigh : i < before.length + (ps.flatMap chars).length) :
    ∃ q ∈ placed before ps, q.1.length ≤ i ∧ i < q.1.length + q.2.chars.length := by
  induction ps generalizing before with
  | nil => exact absurd hlow (Nat.not_le_of_lt hhigh)
  | cons p ps ih =>
      rw [List.flatMap_cons, List.length_append] at hhigh
      by_cases hp : i < before.length + p.chars.length
      · exact ⟨(before, p), .head _, hlow, hp⟩
      · have hlen : (before ++ p.chars).length = before.length + p.chars.length :=
          List.length_append
        obtain ⟨q, hq, hi⟩ := @ih (before ++ p.chars) (by omega) (by omega)
        exact ⟨q, .tail _ hq, hi⟩

/-- A lexeme starts with a character that is passed nowhere. -/
theorem head_of_mem_pieces {source : List Char} {reading : Reading} {read : List Char}
    (h : cut reading read ∈ pieces source) : ∃ c more, read = c :: more ∧ ¬ Lead.passes c := by
  obtain ⟨source, lexeme, hf, -, rfl⟩ := exists_first?_of_mem_pieces h
  obtain ⟨hne, hsplit⟩ := Lexeme.cutFrom_of_first? hf
  obtain ⟨c, more, hr⟩ := List.exists_cons_of_ne_nil hne
  refine ⟨c, more, hr, fun hp => ?_⟩
  rw [← hsplit, hr, List.cons_append, Lead.first?_cons_eq_none_iff.2 hp] at hf
  contradiction

theorem mem_stretches {read : List Char} {ps : List Piece} {s : Stretch} :
    s ∈ stretches read ps ↔ ∃ before reading more, (before, cut reading more) ∈ placed read ps ∧
      s = ⟨reading.toToken more.length (Location.start.after before), before.length⟩ := by
  simp only [stretches, List.mem_filterMap, Prod.exists]
  constructor
  · rintro ⟨before, p, hp, hs⟩
    cases p with
    | passed c => contradiction
    | cut reading more =>
        cases hs
        exact ⟨before, reading, more, hp, rfl⟩
  · rintro ⟨before, reading, more, hp, rfl⟩
    exact ⟨before, .cut reading more, hp, rfl⟩

end Piece

section Source

variable {source line before after : List Char} {number : Nat}

theorem split_of_mem_placed_pieces {p : Piece}
    (h : (before, p) ∈ Piece.placed [] (pieces source)) :
    ∃ rest, source = before ++ (p.chars ++ rest) := by
  obtain ⟨more, rest, hm, hr⟩ := Piece.split_of_mem_placed h
  rw [flatMap_chars_pieces] at hr
  exact ⟨rest, by rw [hr, show before = more from hm]⟩

/-- A token with the number of a line starts inside that line. -/
theorem LineAt.startsIn (h : LineAt source number line before after) {s : Stretch}
    (hs : s ∈ Piece.stretches [] (pieces source)) (hl : s.token.location.line = number) :
    s.StartsIn before.length line.length := by
  obtain ⟨above, reading, read, hm, rfl⟩ := Piece.mem_stretches.1 hs
  obtain ⟨c, more, rfl, hc⟩ := Piece.head_of_mem_pieces (Piece.mem_of_mem_placed hm)
  obtain ⟨rest, hsplit⟩ := split_of_mem_placed_pieces hm
  rw [Reading.location_toToken] at hl
  obtain ⟨front, back, hline, hback, rfl⟩ :=
    h.exists_front hsplit (fun hb => hc (Lead.passes_of_isBlank hb)) hl
  have hplace := h.place_append hline
  have hpos := List.length_pos_iff.2 hback
  have hlen := congrArg List.length hline
  have hfirst : (before ++ front).length = before.length + front.length := List.length_append
  rw [List.length_append] at hlen
  constructor
  case low =>
    change before.length ≤ (before ++ front).length
    omega
  case high =>
    change (before ++ front).length < before.length + line.length
    omega
  case column =>
    rw [Reading.location_toToken, hplace]
    change 1 + front.length = (before ++ front).length - before.length + 1
    omega
  case nonempty =>
    rw [Reading.width_toToken]
    exact Nat.succ_pos _

theorem LineAt.line_le (h : LineAt source number line before after) {above rest : List Char}
    (hs : source = above ++ rest) (hl : above.length ≤ before.length + line.length) :
    (Location.start.after above).line ≤ number := by
  have hsplit : above ++ rest = before ++ line ++ after := by
    rw [← hs, h.split, List.append_assoc]
  have hprefix : above <+: before ++ line := by
    have habove : above <+: source := ⟨rest, hs.symm⟩
    have hline : before ++ line <+: source := ⟨after, by rw [← hsplit, hs]⟩
    apply List.prefix_of_prefix_length_le habove hline
    rwa [List.length_append]
  obtain ⟨more, hm⟩ := hprefix
  have hle := Location.line_le_after (Location.start.after above) more
  rwa [← Location.after_append, hm, h.place_append (List.append_nil line).symm] at hle

/-- A character of a line that no token of the line covers. -/
theorem LineAt.bare (h : LineAt source number line before after) {j : Nat}
    (hlow : before.length ≤ j) (hhigh : j < before.length + line.length)
    (hfree : ∀ s ∈ Piece.stretches [] (pieces source), s.token.location.line = number →
      ¬ s.covers j) :
    Bare source (Piece.diagnostics .start (pieces source)).toArray
      (Piece.stretches [] (pieces source)) number j := by
  have hlen : before.length + line.length ≤ source.length := by
    rw [h.split, List.length_append, List.length_append]
    omega
  obtain ⟨⟨above, p⟩, hm, hi⟩ := @Piece.exists_mem_placed [] (pieces source) j
    (Nat.zero_le j) (by rw [flatMap_chars_pieces, List.length_nil]; omega)
  obtain ⟨rest, hsplit⟩ := split_of_mem_placed_pieces hm
  cases p with
  | passed c =>
      obtain rfl : j = above.length := Nat.le_antisymm (Nat.le_of_lt_succ hi.2) hi.1
      have hc : source[above.length]? = some c := by simp [hsplit, Piece.chars]
      have hplace : Location.ofIndex source above.length = Location.start.after above := by
        rw [hsplit, Location.ofIndex_append]
      have hp : Lead.passes c := Piece.sound_of_mem_pieces source _ (Piece.mem_of_mem_placed hm)
      have hd := Lead.describes_ofChar c
      obtain hb | hstray := Lead.passes_iff.1 hp
      · rw [hb] at hd
        exact .blank hc hd
      · have hreport : (Piece.passed c).diagnostic? (Location.start.after above) =
            some ⟨.unexpectedCharacter, c.toString, Location.start.after above⟩ := by
          simp [Piece.diagnostic?, hstray]
        have hfound := (Piece.mem_reports Piece.diagnostic? .start).2 ⟨above, _, hm, hreport⟩
        exact .stray (List.mem_toArray.2 hfound) rfl hplace.symm
  | cut reading read =>
      have hs := Piece.mem_stretches.2 ⟨above, reading, read, hm, rfl⟩
      have hc : Stretch.covers
          ⟨reading.toToken read.length (Location.start.after above), above.length⟩ j := by
        rw [Stretch.covers_iff, Piece.stop_cut]
        exact hi
      refine .earlier hs hc ?_
      have hne := fun hl => hfree _ hs hl hc
      rw [Reading.location_toToken] at hne ⊢
      have habove : above.length ≤ j := hi.1
      exact Nat.lt_of_le_of_ne (h.line_le hsplit (by omega)) hne

end Source

namespace Stretch

/-- The stretches that start on a line, each with its index. -/
def onLine (run : List Stretch) (number : Nat) : List (Nat × Stretch) :=
  (run.zipIdx.filter fun entry => entry.1.token.location.line = number).map Prod.swap

theorem mem_onLine {run : List Stretch} {number i : Nat} {s : Stretch} :
    (i, s) ∈ onLine run number ↔ run[i]? = some s ∧ s.token.location.line = number := by
  simp only [onLine, List.mem_map, List.mem_filter, decide_eq_true_eq, Prod.exists,
    Prod.swap_prod_mk, Prod.mk.injEq, List.mk_mem_zipIdx_iff_getElem?]
  constructor
  · rintro ⟨t, j, ⟨ht, hl⟩, rfl, rfl⟩
    exact ⟨ht, hl⟩
  · rintro ⟨hs, hl⟩
    exact ⟨s, i, ⟨hs, hl⟩, rfl, rfl⟩

theorem pairwise_onLine {run : List Stretch} (h : run.Pairwise fun s t => s.stop ≤ t.first)
    (number : Nat) : (onLine run number).Pairwise fun m n => m.2.stop ≤ n.2.first := by
  have hz : run.zipIdx.Pairwise fun e f => e.1.stop ≤ f.1.first := by
    have hmap : (run.zipIdx.map Prod.fst).Pairwise fun s t : Stretch => s.stop ≤ t.first := by
      rwa [List.zipIdx_map_fst]
    exact List.pairwise_map.1 hmap
  exact List.pairwise_map.2 (hz.filter _)

end Stretch

namespace Recording

variable {run : List Stretch} {here : Location} {found : Array Diagnostic} {position : Nat}

/-- The recording of a run, with its cursor somewhere. -/
def ofStretches (run : List Stretch) (here : Location) (found : Array Diagnostic)
    (position : Nat) : Recording :=
  { ofRun (run.map (·.token) ++ [Token.endOfInput here]).toArray found with position }

theorem getElem?_ofStretches {i : Nat} {t : Token} (he : ¬ t.isEnd)
    (h : (ofStretches run here found position).tokens[i]? = some t) :
    ∃ s, run[i]? = some s ∧ s.token = t := by
  have hl : (run.map (·.token) ++ [Token.endOfInput here])[i]? = some t := by
    simpa [ofStretches, ofRun] using h
  rw [List.getElem?_append] at hl
  split at hl
  · simpa using hl
  · rw [List.getElem?_singleton] at hl
    split at hl
    · cases hl
      exact absurd rfl he
    · contradiction

theorem tokens_ofStretches {i : Nat} {s : Stretch} (h : run[i]? = some s) :
    (ofStretches run here found position).tokens[i]? = some s.token := by
  have hl : i < (run.map (·.token)).length := by
    rw [List.length_map]
    exact (List.getElem?_eq_some_iff.1 h).1
  change (run.map (·.token) ++ [Token.endOfInput here]).toArray[i]? = some s.token
  rw [List.getElem?_toArray, List.getElem?_append_left hl, List.getElem?_map, h]
  rfl

/-- The end of input is on no line, so a line has the tokens of its stretches. -/
theorem onLine_ofStretches (hp : ∀ s ∈ run, ¬ s.token.isEnd) (number : Nat) :
    (ofStretches run here found position).onLine number =
      (Stretch.onLine run number).map fun m => (m.1, m.2.token) := by
  have hstarts : ∀ e ∈ run.zipIdx, e.1.token.startsOn number =
      decide (e.1.token.location.line = number) := by
    intro e he
    have hm : e.1 ∈ run := by
      rw [← List.zipIdx_map_fst 0 run]
      exact List.mem_map_of_mem he
    simp [Token.startsOn, hp e.1 hm]
  have hend : ((([Token.endOfInput here] : List Token).zipIdx run.length).filter
      fun e => e.1.startsOn number) = [] := rfl
  rw [ofStretches, onLine_ofRun, List.toList_toArray, List.zipIdx_append, List.filter_append,
    Nat.zero_add, List.length_map, hend, List.append_nil, List.zipIdx_map, List.filter_map,
    Stretch.onLine, List.map_map, List.map_map]
  rw [← List.filter_congr hstarts]
  rfl

end Recording

theorem Piece.not_isEnd_of_mem_stretches {source : List Char} {s : Stretch}
    (h : s ∈ stretches [] (pieces source)) : ¬ s.token.isEnd := by
  have hm : s.token ∈ (stretches [] (pieces source)).map (·.token) := List.mem_map_of_mem h
  rw [map_token_stretches] at hm
  exact not_isEnd_of_mem_tokens hm

namespace LineAt

variable {source line before after : List Char} {number : Nat}

theorem between_eq (h : LineAt source number line before after) :
    between source before.length (before.length + line.length) = line := by
  rw [between, h.split, List.drop_left, Nat.add_sub_cancel_left, List.take_left]

theorem startsIn_onLine (h : LineAt source number line before after) :
    ∀ m ∈ Stretch.onLine (Piece.stretches [] (pieces source)) number,
      m.2.StartsIn before.length line.length ∧ before.length ≤ m.2.first := by
  intro m hm
  obtain ⟨hs, hl⟩ := Stretch.mem_onLine.1 hm
  have hin := h.startsIn (List.mem_of_getElem? hs) hl
  exact ⟨hin, hin.low⟩

/-- The spans of a line paint the stretches that start on it. -/
theorem paints (h : LineAt source number line before after) (here : Location)
    (found : Array Diagnostic) (position : Nat) :
    let run := Piece.stretches [] (pieces source)
    Paints source position before.length (before.length + line.length)
      (Stretch.onLine run number)
      (SourcePane.spans (.ofStretches run here found position) number line) := by
  intro run
  have hp := @SourcePane.paints_spansFrom _ position _ _ _ _ (Nat.le_refl before.length)
    h.length_le h.startsIn_onLine (Stretch.pairwise_onLine (Piece.pairwise_stretches [] _) number)
  rw [Nat.sub_self, h.between_eq] at hp
  rwa [SourcePane.spans,
    Recording.onLine_ofStretches fun s hs => Piece.not_isEnd_of_mem_stretches hs]

theorem coloured (h : LineAt source number line before after) (here : Location)
    (position : Nat) :
    let run := Piece.stretches [] (pieces source)
    let r := Recording.ofStretches run here (Piece.diagnostics .start (pieces source)).toArray
      position
    Coloured source r run number before.length line (SourcePane.spans r number line) := by
  intro run r
  obtain ⟨hshown, hothers⟩ := h.paints here r.diagnostics position
  constructor
  case place => rw [h.split, Location.ofIndex_append, h.place]
  case within => exact h.between_eq
  case text => exact SourcePane.flatMap_spansFrom _ _ _ _ _
  case tokens =>
    intro i t ht he hl
    obtain ⟨s, hs, rfl⟩ := Recording.getElem?_ofStretches he ht
    obtain ⟨span, hspan, hshows⟩ := hshown (i, s) (Stretch.mem_onLine.2 ⟨hs, hl⟩)
    exact ⟨s, span, hs, rfl, hspan, hshows⟩
  case others =>
    intro k span hk
    obtain ⟨⟨i, s⟩, hm, hfirst, hshows⟩ | ⟨hplain, hfree⟩ := hothers k span hk
    · obtain ⟨hs, hl⟩ := Stretch.mem_onLine.1 hm
      exact .inl ⟨i, s, hs, Recording.tokens_ofStretches hs, hl, hfirst, hshows⟩
    · refine .inr ⟨hplain, fun j hlow hhigh => ?_⟩
      obtain ⟨hstart, hstop, huncovered⟩ := hfree j hlow hhigh
      refine h.bare hstart hstop fun s hs hl => ?_
      obtain ⟨i, hi⟩ := List.mem_iff_getElem?.1 hs
      exact huncovered (i, s) (Stretch.mem_onLine.2 ⟨hi, hl⟩)

end LineAt

/-- What is recorded of a text are its stretches. -/
theorem Recording.exists_ofStretches {source : String} {limit : Nat} {r : Recording}
    (hr : record (.ofString source) limit = .ok r) :
    ∃ here, ∀ position, { r with position } =
      ofStretches (Piece.stretches [] (pieces source.toList)) here
        (Piece.diagnostics .start (pieces source.toList)).toArray position := by
  have htokens := Piece.map_token_stretches [] (pieces source.toList)
  rw [Location.after_nil] at htokens
  refine ⟨Location.start.after source.toList, fun position => ?_⟩
  rw [Lexer.eq_ofRun_of_record hr, Lexer.tokenize_ofString, ofStretches, htokens]

/-- On every line of the text, wherever the cursor is, the pane shows what was recorded. -/
theorem coloured_spans (source : String) (limit : Nat) (r : Recording)
    (hr : Recording.record (.ofString source) limit = .ok r) (position k : Nat)
    (line : List Char) (hl : (linesOf source)[k]? = some line) :
    ∃ first, Coloured source.toList { r with position }
      ((Lexer.ofString source).stretches source.toList) (k + 1) first line
      (SourcePane.spans { r with position } (k + 1) line) := by
  obtain ⟨before, after, hline⟩ := exists_lineAt hl
  have hrun : (Lexer.ofString source).stretches source.toList =
      Piece.stretches [] (pieces source.toList) :=
    Lexer.stretches_eq (Lexer.hasRead_ofString source)
  obtain ⟨here, hr⟩ := Recording.exists_ofStretches hr
  refine ⟨before.length, ?_⟩
  rw [hrun, hr position]
  exact hline.coloured here position

/-- The line on which a string from the line before ends, a stray stands and a number breaks
off; the cursor is on that number. -/
theorem coloured_spans_broken_number :
    let source := "x \"a\r\nb\" @ 0x\n"
    ∃ r, Recording.record (.ofString source) 4 = .ok r ∧
      (linesOf source)[1]? = some "b\" @ 0x".toList ∧
      ∃ first, Coloured source.toList { r with position := 2 }
        ((Lexer.ofString source).stretches source.toList) 2 first "b\" @ 0x".toList
        (SourcePane.spans { r with position := 2 } 2 "b\" @ 0x".toList) := by
  intro source
  have hsize : (Lexer.ofString source).tokenize.1.size ≤ 4 := by decide +kernel
  have hr := (Lexer.record_eq (.ofString source) 4).trans (if_pos hsize)
  have hl : (linesOf source)[1]? = some "b\" @ 0x".toList := by decide +kernel
  exact ⟨_, hr, hl, coloured_spans source 4 _ hr 2 1 _ hl⟩

end TokenScope
