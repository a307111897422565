import TokenScope.Proofs.Browser.Checked
import TokenScope.Proofs.Browser.SourceLines
import TokenScope.Proofs.Browser.TokenWindow
import TokenScope.Proofs.Lexing.Ending
import TokenScope.Proofs.Recording.Index

/-!
No run of the browser fails on a machine with words of 64 bits. What drawings and keys leave
behind is bounded: a window of tokens starts at one of them or just behind, the current line is
held on a row of the terminal or just below it, and the cursor is on a token. With texts that
such a machine can hold this keeps every sum, difference and index in range.
-/

namespace TokenScope

theorem Size.visibleRows_le {size : Size} (h : size.height < 2 ^ 16) :
    size.visibleRows ≤ 2 ^ 16 := by
  unfold visibleRows Pane.visibleRows paneHeight
  omega

/-- The height of a terminal has 16 bits whatever size is asked for, if that has. -/
theorem Size.height_limited_lt {size : Size} (h : size.height < 2 ^ 16) :
    size.limited.height < 2 ^ 16 := by
  unfold limited
  split
  · exact h
  · exact UInt16.toNat_lt _

/-- The windows are at most so far down, as far as they are placed. -/
structure View.Within (view : View) (offset row : Nat) : Prop where
  offset : view.tokens.offset ≤ offset
  row : ∀ k, view.source.target = some k → k ≤ row

namespace View

variable {view : View} {offset row : Nat}

theorem Within.mono (h : view.Within offset row) {offset' row' : Nat} (ho : offset ≤ offset')
    (hr : row ≤ row') : view.Within offset' row' :=
  ⟨Nat.le_trans h.offset ho, fun k hk => Nat.le_trans (h.row k hk) hr⟩

/-- Drawing leaves a window within the tokens, and the current line within the terminal. -/
theorem within_settle (view : View) {r : Recording} (hr : 0 < r.size) {size : Size}
    (hs : size.height < 2 ^ 16) : (view.settle r size).Within (r.size - 1) (2 ^ 16 - 1) := by
  constructor
  case offset => exact Nat.le_sub_one_of_lt (TokenScroll.offset_settle_lt size.visibleRows_pos hr)
  case row =>
    intro k hk
    obtain rfl := Option.some.inj hk
    have hrows := Size.visibleRows_le hs
    omega

/-- A key moves each window by one at most. -/
theorem Within.press (h : view.Within offset row) (key : Key) :
    (view.press key).Within (offset + 1) (row + 1) := by
  have hstay := h.mono (Nat.le_succ offset) (Nat.le_succ row)
  cases key with
  | up =>
      simp only [View.press]
      cases view.focus with
      | source =>
          refine ⟨hstay.offset, fun k hk => ?_⟩
          obtain ⟨j, hj, rfl⟩ := Option.map_eq_some_iff.1 hk
          exact Nat.succ_le_succ (h.row j hj)
      | tokens => exact ⟨Nat.le_trans (Nat.sub_le _ 1) hstay.offset, hstay.row⟩
  | down =>
      simp only [View.press]
      cases view.focus with
      | source =>
          refine ⟨hstay.offset, fun k hk => ?_⟩
          obtain ⟨j, hj, rfl⟩ := Option.map_eq_some_iff.1 hk
          exact Nat.le_trans (Nat.sub_le j 1) (hstay.row j hj)
      | tokens => exact ⟨Nat.succ_le_succ h.offset, hstay.row⟩
  | _ => exact ⟨hstay.offset, hstay.row⟩

theorem Within.press?_eq (h : view.Within offset row) (ho : offset + 1 < Word.count)
    (hr : row + 1 < Word.count) (key : Key) : view.press? key = some (view.press key) := by
  have hlower : view.source.lower? = some view.source.lower :=
    SourceScroll.lower?_eq fun k hk => Nat.lt_of_le_of_lt (Nat.succ_le_succ (h.row k hk)) hr
  have hdown : view.tokens.down? = some view.tokens.down :=
    TokenScroll.down?_eq (Nat.lt_of_le_of_lt (Nat.succ_le_succ h.offset) ho)
  cases key with
  | up =>
      simp only [press?, hlower, View.press]
      cases view.focus <;> rfl
  | down =>
      simp only [press?, hdown, View.press]
      cases view.focus <;> rfl
  | _ => rfl

end View

theorem length_le_utf8ByteSize (text : String) : text.length ≤ text.utf8ByteSize := by
  induction text using String.push_induction with
  | empty => exact Nat.le_refl 0
  | push text c ih =>
      have hc := c.utf8Size_pos
      rw [String.length_push, String.utf8ByteSize_push]
      omega

/-- A recording and the lines of a text as a machine with words of 64 bits can hold them. -/
structure Recording.FitsWith (r : Recording) (lines : List (List Char)) : Prop where
  size : r.size ≤ 2 ^ 63
  widths : ∀ t ∈ r.tokens, t.width < 2 ^ 63
  indices : ∀ line, ∀ i ∈ r.index.onLine line, i < r.size
  count : lines.length < 2 ^ 63
  lengths : ∀ line ∈ lines, line.length < 2 ^ 63

theorem Recording.FitsWith.size_lt {r : Recording} {lines : List (List Char)}
    (h : r.FitsWith lines) : r.size < Word.count :=
  Nat.lt_of_le_of_lt h.size (by decide)

namespace Browser

/-- What drawing computes beside the places of the windows. -/
def drawing (b : Browser) : Drawing :=
  let offset := b.draw.view.source.offset
  ⟨SourcePane.spansAfter b.player.recording offset
      ((b.view.lines.drop offset).take b.size.visibleRows),
    b.player.recording.position + 1, !b.player.playing && b.player.recording.atEnd⟩

/-- A browser before a turn. -/
structure Ready (b : Browser) (r : Recording) (lines : List (List Char)) : Prop where
  browsed : b.player.recording.BrowsedFrom r
  lines : b.view.lines = lines
  view : b.view.Within r.size (2 ^ 16)
  height : b.size.height < 2 ^ 16

variable {b : Browser} {r : Recording} {lines : List (List Char)}

/-- The lines of every window can be read. -/
theorem Ready.spansAfter?_eq (h : b.Ready r lines) (hf : r.FitsWith lines)
    (offset visible : Nat) :
    SourcePane.spansAfter? b.player.recording offset ((b.view.lines.drop offset).take visible) =
      some (SourcePane.spansAfter b.player.recording offset
        ((b.view.lines.drop offset).take visible)) := by
  have hsame := h.browsed.same
  have hcount := hf.count
  rw [h.lines]
  apply SourcePane.spansAfter?_eq
  · intro hne
    have hlen : ((lines.drop offset).take visible).length ≤ lines.length - offset := by
      rw [← List.length_drop]
      exact List.length_take_le' _ _
    have hpos := List.length_pos_iff.2 hne
    unfold Word.count
    omega
  · intro number i hi
    rw [hsame] at hi
    rw [h.browsed.size_eq]
    exact hf.indices number i hi
  · intro line hl t ht
    rw [hsame] at ht
    have hline := hf.lengths line (List.mem_of_mem_drop (List.mem_of_mem_take hl))
    have hwidth := hf.widths t ht
    unfold Word.count
    omega

theorem Ready.draw?_eq (h : b.Ready r lines) (hf : r.FitsWith lines) :
    b.draw? = some (b.draw, b.drawing) := by
  have hplace := h.browsed.onToken
  have hfit := hf.size
  have hrows := Size.visibleRows_le h.height
  have hnext : b.player.recording.position + 1 < Word.count := by
    unfold Word.count
    omega
  have hwindow : b.view.tokens.offset + b.size.visibleRows < Word.count := by
    have ho := h.view.offset
    unfold Word.count
    omega
  have hended : StatusBar.ended? b.player.recording b.player.playing =
      some (!b.player.playing && b.player.recording.atEnd) := by
    rw [StatusBar.ended?, Recording.atEnd?_eq hnext]
    cases b.player.playing <;> rfl
  unfold draw?
  simp only [SourceScroll.settle?_eq, TokenScroll.settle?_eq hwindow hnext,
    Word.add?_of_lt hnext, hended, h.spansAfter?_eq hf, Option.bind_eq_bind, Option.bind_some]
  rfl

theorem Ready.within_draw (h : b.Ready r lines) :
    b.draw.view.Within (r.size - 1) (2 ^ 16 - 1) := by
  have hsize := h.browsed.size_eq
  have hr : 0 < b.player.recording.size := by
    rw [hsize]
    exact Nat.zero_lt_of_lt h.browsed.onToken
  rw [← hsize]
  exact b.view.within_settle hr h.height

/-- Players on tokens of the recording can take every key. -/
theorem press?_eq (hr : r.size < Word.count) (hb : b.player.recording.BrowsedFrom r)
    {offset row : Nat} (hv : b.view.Within offset row) (ho : offset + 1 < Word.count)
    (hrow : row + 1 < Word.count) (key : Key) : b.press? key = some (b.press key) := by
  have hplace := hb.onToken
  rw [← hb.size_eq] at hr hplace
  rw [press?, Player.press?_eq hplace hr, hv.press?_eq ho hrow]
  rfl

theorem Ready.turn?_eq (h : b.Ready r lines) (hf : r.FitsWith lines) (due : Bool)
    (key : Option Key) : b.turn? due key = some (b.turn due key) := by
  have hcount := hf.size_lt
  have hplace := h.browsed.onToken
  have hheld := hcount
  rw [← h.browsed.size_eq] at hplace hheld
  have htick : b.draw.player.tick? = some b.draw.player.tick := Player.tick?_eq hplace hheld
  have hticked : b.draw.player.tick.recording.BrowsedFrom r :=
    (Player.becomes_tick hplace).browsedFrom h.browsed
  have hpress : ∀ p : Player, p.recording.BrowsedFrom r → ∀ key,
      press? { b.draw with player := p } key = some (press { b.draw with player := p } key) := by
    intro p hp key
    apply @press?_eq { b.draw with player := p } r hcount hp _ _ h.within_draw
    · omega
    · decide
  rw [turn?, h.draw?_eq hf]
  simp only [Option.bind_eq_bind, Option.bind_some, turn, Player.pass?]
  by_cases hq : b.draw.player.quitting
  · rw [if_pos hq, if_pos hq]
  · rw [if_neg hq, if_neg hq]
    cases due with
    | false =>
        cases key with
        | none => rfl
        | some key => exact hpress _ h.browsed key
    | true =>
        rw [if_pos rfl, htick]
        cases key with
        | none => rfl
        | some key => exact hpress _ hticked key

theorem Ready.turn (h : b.Ready r lines) (due : Bool) (key : Option Key) :
    (b.turn due key).Ready r lines := by
  have hpos := Nat.zero_lt_of_lt h.browsed.onToken
  constructor
  case browsed => exact browsedFrom_handle h.browsed (.turn due key)
  case lines => exact (lines_run b [.turn due key]).trans h.lines
  case view =>
    -- drawing comes first and makes room for the one step that a key can add
    obtain hv | ⟨k, -, hv⟩ := b.view_turn due key
    · rw [hv]
      exact h.within_draw.mono (Nat.sub_le _ 1) (Nat.sub_le _ 1)
    · rw [hv]
      exact (h.within_draw.press k).mono (Nat.le_of_eq (Nat.sub_add_cancel hpos)) (Nat.le_refl _)
  case height =>
    rw [size_turn]
    exact h.height

/-- A run of which every terminal has a height of 16 bits. -/
theorem Ready.run?_eq (h : b.Ready r lines) (hf : r.FitsWith lines) {events : List Event}
    (he : ∀ size, .resize size ∈ events → size.height < 2 ^ 16) :
    b.run? events = some (b.run events) ∧ (b.run events).Ready r lines := by
  induction events generalizing b with
  | nil => exact ⟨rfl, h⟩
  | cons event events ih =>
      have hstep : b.handle? event = some (b.handle event) ∧ (b.handle event).Ready r lines := by
        cases event with
        | resize size =>
            exact ⟨rfl, h.browsed, h.lines, h.view, Size.height_limited_lt (he size (.head _))⟩
        | turn due key => exact ⟨h.turn?_eq hf due key, h.turn due key⟩
      have hrest := ih hstep.2 fun size hs => he size (.tail _ hs)
      refine ⟨?_, hrest.2⟩
      rw [run?, List.foldlM_cons, hstep.1]
      exact hrest.1

end Browser

/-- A text on a machine with words of 64 bits, where no object has more bytes than a signed word
can count. -/
def FitsMemory (text : String) : Prop := text.utf8ByteSize < 2 ^ 63

instance (text : String) : Decidable (FitsMemory text) :=
  inferInstanceAs (Decidable (_ < _))

theorem FitsMemory.length_lt {text : String} (h : FitsMemory text) : text.length < 2 ^ 63 :=
  Nat.lt_of_le_of_lt (length_le_utf8ByteSize text) h

theorem Recording.fitsWith_of_record {source text : String} (hs : FitsMemory source)
    (ht : FitsMemory text) {limit : Nat} {r : Recording}
    (hr : Recording.record (.ofString source) limit = .ok r) : r.FitsWith (linesOf text) := by
  have hsource := hs.length_lt
  have htext := ht.length_lt
  have hlines := length_linesOf_le text
  have hchars : ((pieces source.toList).flatMap Piece.chars).length = source.length := by
    rw [flatMap_chars_pieces, String.length_toList]
  obtain rfl := Lexer.eq_ofRun_of_record hr
  constructor
  case size =>
    have hle := (Lexer.ofString source).size_tokenize_le
    have hunread : (Lexer.ofString source).unread.length = source.length := String.length_toList
    change (Lexer.ofString source).tokenize.1.size ≤ _
    omega
  case widths =>
    intro t hm
    rw [Lexer.tokenize_ofString] at hm
    simp only [ofRun, List.mem_toArray, List.mem_append, List.mem_singleton] at hm
    obtain hm | rfl := hm
    · obtain ⟨reading, read, place, hp, rfl⟩ := Piece.exists_cut_of_mem_tokens hm
      have hle := Piece.length_chars_le hp
      rw [Reading.width_toToken]
      exact Nat.lt_of_le_of_lt (Nat.le_trans hle (Nat.le_of_eq hchars)) hsource
    · exact Nat.two_pow_pos 63
  case indices => exact fun line i hi => TokenIndex.lt_size_of_mem_onLine hi
  case count => exact Nat.lt_of_le_of_lt hlines.1 htext
  case lengths => exact fun line hl => Nat.lt_of_le_of_lt (hlines.2 line hl) htext

/-- Every run of the browser on a text and its recording is made without a failure, and so is
the drawing that follows. -/
theorem run_unfailing {source text : String} (hs : FitsMemory source) (ht : FitsMemory text)
    {limit : Nat} {r : Recording} (hr : Recording.record (.ofString source) limit = .ok r)
    {position : Nat} (hp : position < r.size) {size : Size} (hsize : size.height < 2 ^ 16)
    {events : List Event} (he : ∀ size, .resize size ∈ events → size.height < 2 ^ 16) :
    let q := { r with position }
    let b := (Browser.start q text size).run events
    (Browser.start? q text size).bind (·.run? events) = some b ∧
      b.draw? = some (b.draw, b.drawing) ∧ ∃ t, b.player.recording.current? = some t := by
  intro q b
  have hf := Recording.fitsWith_of_record hs ht hr
  have hplace := Recording.BrowsedFrom.place r hp
  have hstart : Player.start? q = some (Player.start q) := Player.describe?_eq hp
  have hopened : (Browser.start q text size).Ready r (linesOf text) := by
    constructor
    case browsed =>
      rw [Browser.start, Player.start, Player.recording_describe]
      exact hplace
    case lines => rfl
    case view => exact ⟨Nat.zero_le _, fun k hk => by contradiction⟩
    case height => exact Size.height_limited_lt hsize
  obtain ⟨hrun, hready⟩ := hopened.run?_eq hf he
  obtain ⟨t, hcurrent, -⟩ := hready.browsed.exists_current
  refine ⟨?_, hready.draw?_eq hf, t, hcurrent⟩
  rw [Browser.start?, hstart]
  exact hrun

/-- The list is scrolled past its end and the source past the terminal, which has no rows at
times, while another text is shown. -/
theorem run_unfailing_scrolled :
    let source := "x \"a\nb\" @ 0x\n"
    let events : List Event := [.turn false (some .up), .resize ⟨0, 0⟩, .turn true (some .tab),
      .turn false (some .down), .turn false (some (.char '9')), .resize ⟨80, 65535⟩,
      .turn false (some .left)]
    ∃ r, Recording.record (.ofString source) 4 = .ok r ∧
      let b := (Browser.start { r with position := 0 } "b\" @" ⟨80, 24⟩).run events
      (Browser.start? { r with position := 0 } "b\" @" ⟨80, 24⟩).bind (·.run? events) = some b ∧
        b.draw? = some (b.draw, b.drawing) ∧ ∃ t, b.player.recording.current? = some t := by
  intro source events
  have hs : FitsMemory source := by decide +kernel
  have ht : FitsMemory "b\" @" := by decide +kernel
  have hsize : (Lexer.ofString source).tokenize.1.size ≤ 4 := by decide +kernel
  have hr := (Lexer.record_eq (.ofString source) 4).trans (if_pos hsize)
  have hp : 0 < (Lexer.ofString source).tokenize.1.size := Lexer.size_tokenize_pos _
  have he : ∀ size, .resize size ∈ events → size.height < 2 ^ 16 := by
    intro size hm
    have hsizes : size = ⟨0, 0⟩ ∨ size = ⟨80, 65535⟩ := by simpa [events] using hm
    obtain rfl | rfl := hsizes
    · decide
    · decide
  exact ⟨_, hr, run_unfailing hs ht hr hp (by decide) he⟩

end TokenScope
