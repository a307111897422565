import TokenScope.Proofs.Browser.SourceWindow
import TokenScope.Proofs.Browser.TokenWindow
import TokenScope.Proofs.Lexing.Ending

/-!
The end of the text in the source pane. With the cursor on the end of input the last line is in
the window, unless a line feed ends the text. Then the end of input stands behind the last line,
and the pane does not move to it: the window is where the last drawing with the cursor on another
token has left it, as far as the rows of the drawings since then allow.
-/

namespace TokenScope

/-- The place behind a text is on its last line, or behind that after a line feed. -/
theorem line_ending {source : String} (h : source ≠ "") :
    (Location.start.after source.toList).line =
      (linesOf source).length + if source.toList.getLast? = some '\n' then 1 else 0 := by
  obtain hs | ⟨front, c, hs⟩ := List.eq_nil_or_concat' source.toList
  · exact absurd (String.toList_eq_nil_iff.1 hs) h
  rw [Location.start_after, length_linesOf_concat hs, hs, List.getLast?_concat, List.count_append,
    List.count_singleton]
  simp only [Option.some.injEq, beq_iff_eq]
  omega

theorem length_linesOf_pos {source : String} (h : source ≠ "") : 0 < (linesOf source).length :=
  List.length_pos_iff.2 (linesAfter_ne_nil (.inr fun hs => h (String.toList_eq_nil_iff.1 hs)))

namespace SourceScroll

/-- A window of so many rows shows the line with an index. -/
def Shows (scroll : SourceScroll) (rows i : Nat) : Prop :=
  scroll.offset ≤ i ∧ i < scroll.offset + rows

instance (scroll : SourceScroll) (rows i : Nat) : Decidable (scroll.Shows rows i) :=
  inferInstanceAs (Decidable (_ ∧ _))

variable (scroll : SourceScroll) {visible total line : Nat}

theorem shows_settle (hv : 0 < visible) (hlow : 1 ≤ line) (hhigh : line ≤ total) :
    (scroll.settle visible total line).Shows visible (line - 1) := by
  obtain ⟨row, hframes⟩ := scroll.frames_settle hv hlow hhigh
  exact ⟨hframes.low, hframes.high⟩

theorem offset_settle_le : (scroll.settle visible total line).offset ≤ total - visible := by
  simp only [settle]
  split <;> omega

/-- For a line behind the last the window is only clamped. -/
theorem offset_settle_of_lt (h : total < line) :
    (scroll.settle visible total line).offset = min scroll.offset (total - visible) := by
  have hout : ¬ (0 < line ∧ line ≤ total) := by omega
  simp only [settle, if_neg hout]
  split <;> omega

end SourceScroll

/-- Scrolling the source moves the row its current line is held on, not yet the window. -/
theorem View.offset_press (view : View) (key : Key) :
    (view.press key).source.offset = view.source.offset := by
  cases key with
  | up | down =>
      simp only [press]
      cases view.focus <;> rfl
  | _ => rfl

/-- The cursor is on the end of input. -/
def Browser.onEnd (b : Browser) : Bool := b.player.recording.current?.any (·.isEnd)

/-- What a bystander knows of the drawings with the cursor on the end of input since the last
with the cursor on another token. -/
structure EndWatch where
  /-- Where the window was left by the last drawing with the cursor on another token. -/
  left : Nat
  /-- The most rows that a drawing since then had. -/
  rows : Nat

namespace EndWatch

def start : EndWatch := ⟨0, 0⟩

def draw (w : EndWatch) (b : Browser) : EndWatch :=
  if b.onEnd then { w with rows := max w.rows b.size.visibleRows }
  else ⟨b.draw.view.source.offset, 0⟩

def handle (w : EndWatch) (b : Browser) : Event → EndWatch
  | .resize _ => w
  | .turn _ _ => w.draw b

def run (w : EndWatch) (b : Browser) : List Event → EndWatch
  | [] => w
  | event :: events => (w.handle b event).run (b.handle event) events

end EndWatch

section Recorded

variable {source : String} {limit : Nat} {r : Recording} {b : Browser}
  (hr : Recording.record (.ofString source) limit = .ok r)
include hr

/-- Where the end of input stands. -/
theorem Browser.currentLine_of_onEnd (hb : b.player.recording.BrowsedFrom r) (h : b.onEnd) :
    SourcePane.currentLine b.player.recording = (Location.start.after source.toList).line := by
  obtain ⟨token, hcurrent, hm⟩ := hb.exists_current
  have he : token.isEnd := by simpa [onEnd, hcurrent] using h
  rw [Lexer.eq_ofRun_of_record hr] at hm
  have htoken := Lexer.eq_endOfInput_of_mem_tokenize hm he
  rw [SourcePane.currentLine, hcurrent, htoken]
  rfl

/-- With the cursor on the end of input and no line feed before it the last line is shown. -/
theorem Browser.shows_last (hb : b.player.recording.BrowsedFrom r)
    (hl : b.view.lines = linesOf source) (hne : source ≠ "") (h : b.onEnd)
    (hlast : source.toList.getLast? ≠ some '\n') :
    b.draw.view.source.Shows b.size.visibleRows ((linesOf source).length - 1) := by
  have hline := (currentLine_of_onEnd hr hb h).trans (line_ending hne)
  rw [if_neg hlast, Nat.add_zero] at hline
  change (b.view.source.settle _ b.view.lines.length _).Shows _ _
  rw [hline, hl]
  exact b.view.source.shows_settle b.size.visibleRows_pos (length_linesOf_pos hne) (Nat.le_refl _)

/-- Behind a line feed the end of input is on no line that the pane has. -/
theorem Browser.offset_draw_of_onEnd (hb : b.player.recording.BrowsedFrom r)
    (hl : b.view.lines = linesOf source) (h : b.onEnd)
    (hlast : source.toList.getLast? = some '\n') :
    b.draw.view.source.offset =
      min b.view.source.offset ((linesOf source).length - b.size.visibleRows) := by
  have hne : source ≠ "" := by
    rintro rfl
    contradiction
  have hline := (currentLine_of_onEnd hr hb h).trans (line_ending hne)
  rw [if_pos hlast] at hline
  change (b.view.source.settle _ b.view.lines.length _).offset = _
  rw [hline, hl]
  exact b.view.source.offset_settle_of_lt (Nat.lt_succ_self _)

namespace EndWatch

variable {w : EndWatch}

/-- Drawings on the end of input only clamp the window that the last other drawing has left. -/
def Fits (w : EndWatch) (b : Browser) : Prop :=
  b.view.source.offset = min w.left (b.view.lines.length - w.rows)

omit hr in
theorem rows_draw (h : b.onEnd) : b.size.visibleRows ≤ (w.draw b).rows := by
  rw [draw, if_pos h]
  exact Nat.le_max_right _ _

theorem Fits.draw (h : w.Fits b) (hb : b.player.recording.BrowsedFrom r)
    (hl : b.view.lines = linesOf source) (hlast : source.toList.getLast? = some '\n') :
    (w.draw b).Fits b.draw := by
  unfold EndWatch.draw Fits at *
  change _ = min _ (b.view.lines.length - _)
  by_cases he : b.onEnd
  · rw [if_pos he, Browser.offset_draw_of_onEnd hr hb hl he hlast, h, ← hl]
    dsimp only
    omega
  · have hle : b.draw.view.source.offset ≤ b.view.lines.length - b.size.visibleRows :=
      b.view.source.offset_settle_le
    rw [if_neg he]
    dsimp only
    omega

theorem Fits.handle (h : w.Fits b) (hb : b.player.recording.BrowsedFrom r)
    (hl : b.view.lines = linesOf source) (hlast : source.toList.getLast? = some '\n')
    (event : Event) : (w.handle b event).Fits (b.handle event) := by
  cases event with
  | resize size => exact h
  | turn due key =>
      have hdrawn := h.draw hr hb hl hlast
      have hlines : (b.turn due key).view.lines = b.view.lines :=
        Browser.lines_run b [.turn due key]
      have hoffset : (b.turn due key).view.source.offset = b.draw.view.source.offset := by
        obtain hv | ⟨k, -, hv⟩ := b.view_turn due key
        · rw [hv]
        · rw [hv, View.offset_press]
      change (b.turn due key).view.source.offset = min _ ((b.turn due key).view.lines.length - _)
      rw [hoffset, hlines]
      exact hdrawn

theorem Fits.run (h : w.Fits b) (hb : b.player.recording.BrowsedFrom r)
    (hl : b.view.lines = linesOf source) (hlast : source.toList.getLast? = some '\n')
    (events : List Event) : (w.run b events).Fits (b.run events) := by
  induction events generalizing w b with
  | nil => exact h
  | cons event events ih =>
      exact ih (h.handle hr hb hl hlast event) (Browser.browsedFrom_handle hb event)
        ((Browser.lines_run b [event]).trans hl)

end EndWatch

end Recorded

/-- What a drawing with the cursor on the end of input shows of the end of a text. -/
structure Browser.ShowsEnd (b : Browser) (source : String) (w : EndWatch) : Prop where
  /-- The last line is shown if no line feed ends it. -/
  unended : source.toList.getLast? ≠ some '\n' →
    b.view.source.Shows b.size.visibleRows ((linesOf source).length - 1)
  /-- Otherwise the window has not moved, and was clamped by each of the drawings. -/
  placed : source.toList.getLast? = some '\n' →
    b.view.source.offset = min w.left ((linesOf source).length - w.rows)
  /-- The last line is then shown if all lines have room, or if the window was left where the
  rows of this drawing reach that line and no drawing in between had more rows. -/
  ended : source.toList.getLast? = some '\n' →
    (b.view.source.Shows b.size.visibleRows ((linesOf source).length - 1) ↔
      (linesOf source).length ≤ b.size.visibleRows ∨
        (linesOf source).length ≤ w.left + b.size.visibleRows ∧ w.rows ≤ b.size.visibleRows)

/-- Every drawing of a text beside its own recording with the cursor on the end of input shows
the last line, except where a line feed ends it and the window was not there before. -/
theorem showsEnd_draw {source : String} (hne : source ≠ "") {limit : Nat} {r : Recording}
    (hr : Recording.record (.ofString source) limit = .ok r) {position : Nat}
    (hp : position < r.size) (size : Size) (events : List Event) :
    let opened := Browser.start { r with position } source size
    let b := opened.run events
    b.onEnd → b.draw.ShowsEnd source ((EndWatch.start.run opened events).draw b) := by
  intro opened b hend
  have hopened : opened.player.recording.BrowsedFrom r :=
    Browser.browsedFrom_run r hp source size []
  have hb : b.player.recording.BrowsedFrom r := Browser.browsedFrom_run r hp source size events
  have hl : b.view.lines = linesOf source := Browser.lines_run opened events
  have hrows := EndWatch.rows_draw (w := EndWatch.start.run opened events) hend
  have hplaced : source.toList.getLast? = some '\n' → b.draw.view.source.offset =
      min ((EndWatch.start.run opened events).draw b).left
        ((linesOf source).length - ((EndWatch.start.run opened events).draw b).rows) := by
    intro hlast
    have hstart : EndWatch.start.Fits opened := (Nat.zero_min _).symm
    have hdrawn := (hstart.run hr hopened rfl hlast events).draw hr hb hl hlast
    rw [← hl]
    exact hdrawn
  constructor
  case unended => exact fun hlast => Browser.shows_last hr hb hl hne hend hlast
  case placed => exact hplaced
  case ended =>
    intro hlast
    have hpos := length_linesOf_pos hne
    have hvisible := b.size.visibleRows_pos
    have hoffset := hplaced hlast
    change b.size.visibleRows ≤ ((EndWatch.start.run opened events).draw b).rows at hrows
    generalize (EndWatch.start.run opened events).draw b = w at hoffset hrows
    change (_ ≤ _ ∧ _ < _ + b.size.visibleRows) ↔ _ ≤ b.size.visibleRows ∨
      _ ≤ _ + b.size.visibleRows ∧ _ ≤ b.size.visibleRows
    omega

/-- The cursor steps from the last line to the end of input behind it. -/
theorem showsEnd_draw_stepped :
    let source := "a\nb\nc\nd\n"
    let events : List Event := [.turn false (some (.char '2')), .turn true (some .up),
      .turn false (some .right)]
    source ≠ "" ∧ ∃ r, Recording.record (.ofString source) 5 = .ok r ∧ 1 < r.size ∧
      let opened := Browser.start { r with position := 1 } source ⟨80, 5⟩
      let b := opened.run events
      b.onEnd ∧ b.draw.ShowsEnd source ((EndWatch.start.run opened events).draw b) ∧
        b.draw.view.source.Shows b.draw.size.visibleRows ((linesOf source).length - 1) := by
  intro source events
  have hne : source ≠ "" := by decide
  have hsize : (Lexer.ofString source).tokenize.1.size ≤ 5 := by decide +kernel
  have hr := Lexer.record_of_size_le hsize
  refine ⟨hne, _, hr, by decide +kernel, ?_⟩
  intro opened b
  have hend : b.onEnd := by decide +kernel
  have hshows := @showsEnd_draw source hne 5 _ hr 1 (by decide +kernel) ⟨80, 5⟩ events hend
  refine ⟨hend, hshows, (hshows.ended (by decide +kernel)).2 (.inr ?_)⟩
  decide +kernel

/-- The cursor jumps to the end of input over four lines in a window of two, which stays at the
first. -/
theorem end_hidden_behind_line_feed :
    let source := "a\nb\nc\nd\n"
    ∃ r, Recording.record (.ofString source) 10 = .ok r ∧
      let b := (Browser.start r source ⟨80, 5⟩).run [.turn false (some .enter)]
      b.onEnd ∧ linesOf source ≠ [] ∧
        ¬ b.draw.view.source.Shows b.size.visibleRows ((linesOf source).length - 1) := by
  intro source
  have hsize : (Lexer.ofString source).tokenize.1.size ≤ 10 := by decide +kernel
  have hr := Lexer.record_of_size_le hsize
  exact ⟨_, hr, by decide +kernel⟩

end TokenScope
