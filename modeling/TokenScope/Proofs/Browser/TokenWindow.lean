import TokenScope.Proofs.Browser.Runs
import TokenScope.Proofs.Lexing.Stream

/-!
The row of the current token. The token list is moved to the cursor by the drawing that first
shows it at a new place. From then on the row stays in the window as long as nobody scrolls
and no earlier drawing had more rows; a terminal that is made lower may lose it.
-/

namespace TokenScope

namespace TokenScroll

/-- A window of so many rows shows the row with an index. -/
def Shows (scroll : TokenScroll) (rows i : Nat) : Prop :=
  scroll.offset ≤ i ∧ i < scroll.offset + rows

instance (scroll : TokenScroll) (rows i : Nat) : Decidable (scroll.Shows rows i) :=
  inferInstanceAs (Decidable (_ ∧ _))

variable {scroll : TokenScroll} {visible total position : Nat}

theorem followed_settle : (scroll.settle visible total position).followed = some position := by
  unfold settle follow
  split
  · assumption
  · rfl

/-- The cursor at a new place is brought into view. -/
theorem shows_settle_of_new (hn : scroll.followed ≠ some position) (hp : position < total)
    (hv : 0 < visible) : (scroll.settle visible total position).Shows visible position := by
  simp only [Shows, settle, follow, hn, if_false, bound]
  split
  · omega
  · split <;> omega

/-- At its old place it stays in a window that only grows, for the clamp moves the window up
and leaves no row empty. -/
theorem shows_settle_of_followed (hf : scroll.followed = some position) (hp : position < total)
    {rows : Nat} (hs : scroll.Shows rows position) :
    (scroll.settle visible total position).Shows (max rows visible) position := by
  simp only [Shows, settle, follow, hf, if_true, bound] at *
  omega

end TokenScroll

theorem Size.visibleRows_pos (size : Size) : 0 < size.visibleRows := Nat.le_max_left 1 _

/-- What a bystander knows of the drawings that showed the cursor where the last one did. -/
structure Watch where
  /-- The position of the cursor at the last drawing. -/
  seen : Option Nat
  /-- Whether the token list was scrolled by hand after one of them. -/
  scrolled : Bool
  /-- The most rows that one of them had. -/
  rows : Nat

/-- Whether a key scrolls the token list. -/
def View.scrollsTokens (view : View) : Option Key → Bool
  | some .up | some .down => view.focus = .tokens
  | _ => false

/-- What a key does to the token list: it moves the window, if the list is in focus. -/
theorem View.tokens_press (view : View) (key : Key) :
    (view.press key).tokens.followed = view.tokens.followed ∧
      (¬ view.scrollsTokens (some key) → (view.press key).tokens = view.tokens) := by
  cases key with
  | up | down =>
      cases hf : view.focus <;> simp [press, scrollsTokens, hf, TokenScroll.up, TokenScroll.down]
  | _ => exact ⟨rfl, fun _ => rfl⟩

/-- Auto-play does nothing to the view. -/
theorem Browser.view_turn (b : Browser) (due : Bool) (key : Option Key) :
    (b.turn due key).view = b.draw.view ∨
      ∃ k, key = some k ∧ (b.turn due key).view = b.draw.view.press k := by
  have hplayed : (if due then { b.draw with player := b.draw.player.tick } else b.draw).view =
      b.draw.view := by
    split <;> rfl
  simp only [turn]
  split
  · exact .inl rfl
  · cases key with
    | none => exact .inl hplayed
    | some k => exact .inr ⟨k, rfl, congrArg (View.press · k) hplayed⟩

namespace Watch

def start : Watch := ⟨none, false, 0⟩

/-- A drawing at a new place of the cursor is the first of its kind. -/
def draw (w : Watch) (b : Browser) : Watch :=
  if w.seen = some b.player.recording.position then
    { w with rows := max w.rows b.size.visibleRows }
  else ⟨some b.player.recording.position, false, b.size.visibleRows⟩

def handle (w : Watch) (b : Browser) : Event → Watch
  | .resize _ => w
  | .turn _ key =>
      { w.draw b with scrolled := (w.draw b).scrolled || b.view.scrollsTokens key }

def run (w : Watch) (b : Browser) : List Event → Watch
  | [] => w
  | event :: events => (w.handle b event).run (b.handle event) events

/-- As long as nobody scrolled, the highest of the drawings watched would show the cursor. -/
structure Fits (w : Watch) (scroll : TokenScroll) : Prop where
  followed : scroll.followed = w.seen
  shown : ¬ w.scrolled → ∀ position, w.seen = some position → scroll.Shows w.rows position

variable {w : Watch} {b : Browser}

theorem seen_draw : (w.draw b).seen = some b.player.recording.position := by
  unfold draw
  split
  · assumption
  · rfl

theorem Fits.draw (h : w.Fits b.view.tokens)
    (hp : b.player.recording.position < b.player.recording.size) :
    (w.draw b).Fits b.draw.view.tokens := by
  constructor
  case followed =>
    rw [seen_draw]
    exact TokenScroll.followed_settle
  case shown =>
    intro hs position hseen
    rw [seen_draw, Option.some.injEq] at hseen
    subst hseen
    unfold Watch.draw at hs ⊢
    split
    · rename_i hold
      rw [if_pos hold] at hs
      exact TokenScroll.shows_settle_of_followed (h.followed.trans hold) hp (h.shown hs _ hold)
    · rename_i hnew
      exact TokenScroll.shows_settle_of_new (fun hf => hnew (h.followed.symm.trans hf)) hp
        b.size.visibleRows_pos

theorem Fits.handle (h : w.Fits b.view.tokens)
    (hp : b.player.recording.position < b.player.recording.size) (event : Event) :
    (w.handle b event).Fits (b.handle event).view.tokens := by
  cases event with
  | resize size => exact h
  | turn due key =>
      have hdrawn := h.draw hp
      obtain hv | ⟨k, rfl, hv⟩ := b.view_turn due key
      · change Fits _ (b.turn due key).view.tokens
        rw [hv]
        refine ⟨hdrawn.followed, fun hs => hdrawn.shown fun hd => hs ?_⟩
        exact Bool.or_eq_true_iff.2 (.inl hd)
      · change Fits _ (b.turn due (some k)).view.tokens
        obtain ⟨hfollowed, hsame⟩ := b.draw.view.tokens_press k
        rw [hv]
        refine ⟨hfollowed.trans hdrawn.followed, fun hs => ?_⟩
        have hnone := not_or.1 fun ho => hs (Bool.or_eq_true_iff.2 ho)
        rw [hsame hnone.2]
        exact hdrawn.shown hnone.1

theorem Fits.run {r : Recording} (h : w.Fits b.view.tokens)
    (hb : b.player.recording.BrowsedFrom r) (events : List Event) :
    (w.run b events).Fits (b.run events).view.tokens := by
  induction events generalizing w b with
  | nil => exact h
  | cons event events ih =>
      exact ih (h.handle hb.lt_size event) (Browser.browsedFrom_handle hb event)

end Watch

/-- The drawing after any run shows the row of the current token, if nobody has scrolled the
token list since the first drawing with the cursor there, and no drawing since then had more
rows. -/
theorem row_shown {r : Recording} {position : Nat} (hp : position < r.size) (text : String)
    (size : Size) (events : List Event) :
    let opened := Browser.start { r with position } text size
    let b := opened.run events
    let w := (Watch.start.run opened events).draw b
    ¬ w.scrolled → w.rows ≤ b.draw.size.visibleRows →
      b.draw.view.tokens.Shows b.draw.size.visibleRows b.draw.player.recording.position := by
  intro opened b w hs hrows
  have hopened : opened.player.recording.BrowsedFrom r :=
    Browser.browsedFrom_run r hp text size []
  have hb : b.player.recording.BrowsedFrom r := Browser.browsedFrom_run r hp text size events
  have hstart : Watch.start.Fits opened.view.tokens := ⟨rfl, fun _ _ hn => by contradiction⟩
  have hplace : b.player.recording.position < b.player.recording.size := by
    rw [hb.size_eq]
    exact hb.onToken
  have hdrawn := ((hstart.run hopened events).draw hplace).shown hs _ Watch.seen_draw
  exact ⟨hdrawn.1, Nat.lt_of_lt_of_le hdrawn.2 (Nat.add_le_add_left hrows _)⟩

/-- The list is scrolled, the cursor jumps to the end, and the terminal is made higher. -/
theorem row_shown_after_growing :
    let r := Recording.ofRun (Lexer.ofString "a b c d").tokenize.1 #[]
    let events : List Event := [.turn false (some .tab), .turn false (some .down),
      .turn false (some .enter), .turn false none, .resize ⟨80, 7⟩]
    let opened := Browser.start { r with position := 1 } "a b c d" ⟨80, 5⟩
    let b := opened.run events
    let w := (Watch.start.run opened events).draw b
    1 < r.size ∧ ¬ w.scrolled ∧ w.rows ≤ b.draw.size.visibleRows ∧
      b.draw.view.tokens.Shows b.draw.size.visibleRows b.draw.player.recording.position := by
  intro r events opened b w
  have hp : 1 < r.size := by decide +kernel
  have hs : ¬ w.scrolled := by decide +kernel
  have hrows : w.rows ≤ b.draw.size.visibleRows := by decide +kernel
  exact ⟨hp, hs, hrows, row_shown hp "a b c d" ⟨80, 5⟩ events hs hrows⟩

/-- A terminal that is made lower loses the row, though no key ever scrolled the list. -/
theorem row_hidden_after_shrinking :
    let events : List Event := [.turn false (some .enter), .turn false none, .resize ⟨80, 5⟩]
    (∀ due, .turn due (some .up) ∉ events ∧ .turn due (some .down) ∉ events) ∧
    ∃ r, Recording.record (.ofString "a b c d") 10 = .ok r ∧
      let b := ((Browser.start r "a b c d" ⟨80, 24⟩).run events).draw
      ¬ b.view.tokens.Shows b.size.visibleRows b.player.recording.position := by
  intro events
  have hsize : (Lexer.ofString "a b c d").tokenize.1.size ≤ 10 := by decide +kernel
  have hr := (Lexer.record_eq (.ofString "a b c d") 10).trans (if_pos hsize)
  refine ⟨by decide, _, hr, ?_⟩
  decide +kernel

end TokenScope
