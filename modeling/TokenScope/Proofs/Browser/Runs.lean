import TokenScope.Browser
import TokenScope.Proofs.Recording.Cursor

/-!
Runs of the browser. One case analysis says all that a key or a step of auto-play can make of
a player; the cursor moves from token to token and nothing else of the recording changes,
whatever the events. What drawing, resizing, auto-play and keys keep, a whole run keeps.
-/

namespace TokenScope

/-- What is said at the last token when it is not described. -/
inductive EndNote : String → Prop
  | complete : EndNote "Playback complete"
  | jumped : EndNote "Jumped to end"
  | refused : EndNote "Cannot step: Already at the last token"
  /-- Nine steps were asked for at most, and at least one was not made. -/
  | short {steps : Nat} (h : steps ≤ 8) :
      EndNote ("Stepped forward " ++ toString steps ++ " token(s)")

/-- What is said at the first token when it is not described. -/
inductive StartNote : String → Prop
  | jumped : StartNote "Jumped to start"
  | refused : StartNote "Cannot step: Already at the first token"

namespace Recording

/-- How far several steps lead, and that only the last token cuts them short. -/
theorem advance_spec {r : Recording} (h : r.position < r.size) (n : Nat) :
    (r.advance n).1 ≤ n ∧ r.position + (r.advance n).1 < r.size ∧
      (r.advance n).2 = { r with position := r.position + (r.advance n).1 } ∧
      ((r.advance n).1 < n → r.position + (r.advance n).1 + 1 = r.size) := by
  induction n generalizing r with
  | zero => exact ⟨Nat.le_refl 0, h, rfl, fun hn => absurd hn (Nat.lt_irrefl 0)⟩
  | succ n ih =>
      obtain ⟨hlast, hf⟩ | ⟨hnext, hf⟩ := forward_cases h
      · simp only [advance, hf]
        exact ⟨Nat.zero_le _, h, rfl, fun _ => hlast⟩
      · obtain ⟨hle, hlt, hr, hshort⟩ := @ih { r with position := r.position + 1 } hnext
        simp only [advance, hf]
        generalize hm : ({ r with position := r.position + 1 } : Recording).advance n = later at *
        obtain ⟨steps, last⟩ := later
        have hsum : r.position + 1 + steps = r.position + (steps + 1) := by omega
        simp only [hsum] at hlt hr hshort
        exact ⟨Nat.succ_le_succ hle, hlt, hr, fun hn => hshort (Nat.lt_of_succ_lt_succ hn)⟩

end Recording

namespace Player

@[simp] theorem recording_describe (p : Player) : p.describe.recording = p.recording := by
  unfold describe
  split <;> rfl

@[simp] theorem playing_describe (p : Player) : p.describe.playing = p.playing := by
  unfold describe
  split <;> rfl

theorem describe_message (p : Player) (message : String) :
    { p.describe with message } = { p with message } := by
  unfold describe
  split <;> rfl

/-- All that a key or a step of auto-play can make of a player. -/
inductive Becomes (p : Player) : Player → Prop
  | rests (quitting : Bool) : Becomes p { p with quitting }
  /-- The cursor is on a token, perhaps a new one, and that is described. -/
  | lands {i : Nat} (hi : i < p.recording.size) (playing : Bool) :
      Becomes p { p with recording := { p.recording with position := i }, playing }.describe
  | plays : Becomes p { p with playing := true, message := "Playing..." }
  | pauses : Becomes p { p with playing := false, message := "Paused" }
  | ends {i : Nat} (hi : i + 1 = p.recording.size) {message : String} (hm : EndNote message) :
      Becomes p
        { p with recording := { p.recording with position := i }, playing := false, message }
  | starts (hs : 0 < p.recording.size) {message : String} (hm : StartNote message) :
      Becomes p
        { p with recording := { p.recording with position := 0 }, playing := false, message }

variable {p : Player}

theorem becomes_right (h : p.recording.position < p.recording.size) :
    Becomes p (p.press .right) := by
  obtain ⟨hlast, hf⟩ | ⟨hnext, hf⟩ := Recording.forward_cases h
  · simp only [press, hf]
    exact .ends hlast .refused
  · simp only [press, hf]
    exact .lands hnext false

theorem becomes_left (h : p.recording.position < p.recording.size) :
    Becomes p (p.press .left) := by
  obtain ⟨hfirst, hb⟩ | ⟨-, hb⟩ := p.recording.back_cases
  · have hnote := Becomes.starts (p := p) (Nat.zero_lt_of_lt h) .refused
    rw [← hfirst] at hnote
    simp only [press, hb]
    exact hnote
  · simp only [press, hb]
    exact .lands (Nat.lt_of_le_of_lt (Nat.sub_le _ 1) h) false

theorem becomes_leap (h : p.recording.position < p.recording.size) {n : Nat} (hn : n ≤ 9) :
    Becomes p (p.leap n) := by
  obtain ⟨-, hlt, hr, hshort⟩ := Recording.advance_spec h n
  unfold leap
  generalize p.recording.advance n = later at *
  obtain ⟨steps, last⟩ := later
  simp only at hlt hr hshort ⊢
  rw [hr]
  split
  · rename_i hs
    rw [describe_message]
    exact .ends (hshort hs) (.short (by omega))
  · exact .lands hlt false

theorem becomes_togglePlay (p : Player) : Becomes p p.togglePlay := by
  unfold togglePlay
  split
  · exact .pauses
  · exact .plays

theorem becomes_pressChar (h : p.recording.position < p.recording.size) (c : Char) :
    Becomes p (p.pressChar c) := by
  unfold pressChar
  split
  · exact .rests true
  · split
    · rename_i hc
      have hnine : c.toNat ≤ '9'.toNat := hc.2
      have hn : c.toNat - '0'.toNat ≤ 9 := by
        rw [Nat.sub_le_iff_le_add]
        exact hnine
      exact becomes_leap h hn
    · split
      · exact becomes_togglePlay p
      · exact .rests p.quitting

theorem becomes_press (h : p.recording.position < p.recording.size) (key : Key) :
    Becomes p (p.press key) := by
  have hsize : 0 < p.recording.size := Nat.zero_lt_of_lt h
  cases key with
  | left => exact becomes_left h
  | right => exact becomes_right h
  | enter => exact .ends (Nat.sub_add_cancel hsize) .jumped
  | backspace => exact .starts hsize .jumped
  | char c => exact becomes_pressChar h c
  | up | down | tab | heldSpace | other => exact .rests p.quitting

theorem becomes_tick (h : p.recording.position < p.recording.size) : Becomes p p.tick := by
  unfold tick
  split
  · obtain ⟨hlast, hf⟩ | ⟨hnext, hf⟩ := Recording.forward_cases h
    · rw [hf]
      exact .ends hlast .complete
    · rw [hf]
      exact .lands hnext p.playing
  · exact .rests p.quitting

/-- Only the cursor moves. -/
theorem Becomes.browsedFrom {r : Recording} {later : Player} (hb : Becomes p later)
    (h : p.recording.BrowsedFrom r) : later.recording.BrowsedFrom r := by
  cases hb with
  | rests quitting => exact h
  | lands hi playing =>
      rw [recording_describe]
      exact h.move hi
  | plays => exact h
  | pauses => exact h
  | ends hi hm => exact h.move (hi ▸ Nat.lt_succ_self _)
  | starts hs hm => exact h.move hs

end Player

namespace Browser

/-- What drawing, resizing, auto-play and keys keep holds after every run. -/
theorem run_invariant {motive : Browser → Prop}
    (draw : ∀ b : Browser, motive b → motive b.draw)
    (resize : ∀ (b : Browser) (size : Size), motive b → motive { b with size })
    (tick : ∀ b : Browser, motive b → motive { b with player := b.player.tick })
    (press : ∀ (b : Browser) (key : Key), motive b → motive (b.press key))
    {b : Browser} (h : motive b) (events : List Event) : motive (b.run events) := by
  induction events generalizing b with
  | nil => exact h
  | cons event events ih =>
      apply ih
      cases event with
      | resize size => exact resize b size.limited h
      | turn due key =>
          have hplayed : motive (if due then { b.draw with player := b.draw.player.tick }
              else b.draw) := by
            split
            · exact tick _ (draw b h)
            · exact draw b h
          simp only [handle, turn]
          split
          · exact draw b h
          · cases key with
            | none => exact hplayed
            | some key => exact press _ key hplayed

/-- What a player keeps of its recording, and more that its steps keep. -/
theorem player_run {r : Recording} {motive : Player → Prop}
    (becomes : ∀ p later : Player, p.recording.BrowsedFrom r → motive p → p.Becomes later →
      motive later)
    {b : Browser} (hb : b.player.recording.BrowsedFrom r) (h : motive b.player)
    (events : List Event) :
    (b.run events).player.recording.BrowsedFrom r ∧ motive (b.run events).player := by
  have hstep : ∀ p later : Player, p.recording.BrowsedFrom r ∧ motive p → p.Becomes later →
      later.recording.BrowsedFrom r ∧ motive later := by
    intro p later hp hl
    exact ⟨hl.browsedFrom hp.1, becomes p later hp.1 hp.2 hl⟩
  apply run_invariant (motive := fun b => b.player.recording.BrowsedFrom r ∧ motive b.player)
  · exact fun b hb => hb
  · exact fun b size hb => hb
  · exact fun b hb => hstep _ _ hb (Player.becomes_tick (hb.1.lt_size))
  · exact fun b key hb => hstep _ _ hb (Player.becomes_press (hb.1.lt_size) key)
  · exact ⟨hb, h⟩

theorem browsedFrom_handle {r : Recording} {b : Browser}
    (hb : b.player.recording.BrowsedFrom r) (event : Event) :
    (b.handle event).player.recording.BrowsedFrom r :=
  (player_run (motive := fun _ => True) (fun _ _ _ _ _ => trivial) hb trivial [event]).1

theorem browsedFrom_run (r : Recording) {position : Nat} (h : position < r.size) (text : String)
    (size : Size) (events : List Event) :
    ((start { r with position } text size).run events).player.recording.BrowsedFrom r := by
  refine (player_run (motive := fun _ => True) (fun _ _ _ _ _ => trivial) ?_ trivial events).1
  rw [start, Player.start, Player.recording_describe]
  exact .place r h

theorem size_turn (b : Browser) (due : Bool) (key : Option Key) :
    (b.turn due key).size = b.size := by
  simp only [turn]
  split
  · rfl
  · cases due <;> cases key <;> rfl

/-- The text shown never changes. -/
theorem lines_run (b : Browser) (events : List Event) :
    (b.run events).view.lines = b.view.lines := by
  apply run_invariant (motive := fun c => c.view.lines = b.view.lines)
  · exact fun c hc => hc
  · exact fun c size hc => hc
  · exact fun c hc => hc
  · intro c key hc
    have hp : (c.view.press key).lines = c.view.lines := by
      cases key with
      | up | down =>
          simp only [View.press]
          cases c.view.focus <;> rfl
      | _ => rfl
    exact hp.trans hc
  · rfl

end Browser
end TokenScope
