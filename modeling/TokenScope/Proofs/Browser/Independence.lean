import TokenScope.Browser

/-!
The view never reaches the player. A run is taken apart into deeds: the steps of auto-play and
the keys that mean something to the player. What becomes of the player is what its deeds make
of it, so two runs with the same deeds end with the same player, whatever they show, however
the panes are scrolled and however often the terminal changes its size.
-/

namespace TokenScope

/-- What can happen to a player. -/
inductive Deed where
  | step
  | key (key : Key)
deriving DecidableEq

/-- The key means something to the player. -/
def Key.acts : Key → Bool
  | .left | .right | .enter | .backspace => true
  | .char c => c ∈ ['q', 'Q', ' '] || ('1' ≤ c && c ≤ '9')
  | .up | .down | .tab | .heldSpace | .other => false

/-- What an event can do to a player. Tab, the keys that scroll, keys that mean nothing and new
sizes do nothing. -/
def Event.deeds : Event → List Deed
  | .resize _ => []
  | .turn due key =>
      (if due then [.step] else []) ++ (key.toList.filter Key.acts).map .key

def deeds (events : List Event) : List Deed := events.flatMap Event.deeds

namespace Player

def act (p : Player) : Deed → Player
  | .step => p.tick
  | .key key => p.press key

/-- The player after some deeds. Nothing happens to one that has quit. -/
def replay (p : Player) : List Deed → Player
  | [] => p
  | deed :: rest => if p.quitting then p else (p.act deed).replay rest

/-- The deeds without those that come too late, and without the steps for which auto-play is
off. -/
def effective (p : Player) : List Deed → List Deed
  | [] => []
  | deed :: rest =>
      if p.quitting then []
      else if deed = .step ∧ ¬ p.playing then p.effective rest
      else deed :: (p.act deed).effective rest

variable {p : Player}

theorem press_of_not_acts {key : Key} (h : ¬ key.acts) : p.press key = p := by
  cases key with
  | left | right | enter | backspace => exact absurd rfl h
  | up | down | tab | heldSpace | other => rfl
  | char c =>
      simp only [Key.acts, List.mem_cons, List.not_mem_nil, or_false, Bool.or_eq_true,
        Bool.and_eq_true, decide_eq_true_eq, not_or] at h
      obtain ⟨⟨hq, hQ, hspace⟩, hdigit⟩ := h
      simp only [press, pressChar, hq, hQ, hspace, hdigit, or_false, if_false]

theorem tick_of_not_playing (h : ¬ p.playing) : p.tick = p := if_neg h

@[simp] theorem quitting_describe (p : Player) : p.describe.quitting = p.quitting := by
  unfold describe
  split <;> rfl

/-- Auto-play does not quit. -/
theorem quitting_tick (p : Player) : p.tick.quitting = p.quitting := by
  unfold tick
  split
  · cases p.recording.forward with
    | ok later => exact quitting_describe _
    | error e => rfl
  · rfl

theorem replay_of_quitting (h : p.quitting) (ds : List Deed) : p.replay ds = p := by
  cases ds with
  | nil => rfl
  | cons deed rest => exact if_pos h

theorem replay_append (p : Player) (ds es : List Deed) :
    p.replay (ds ++ es) = (p.replay ds).replay es := by
  induction ds generalizing p with
  | nil => rfl
  | cons deed rest ih =>
      by_cases h : p.quitting
      · rw [replay_of_quitting h, replay_of_quitting h, replay_of_quitting h]
      · simp only [List.cons_append, replay, if_neg h, ih]

/-- Only the deeds that take effect count. -/
theorem replay_effective (p : Player) (ds : List Deed) :
    p.replay (p.effective ds) = p.replay ds := by
  induction ds generalizing p with
  | nil => rfl
  | cons deed rest ih =>
      by_cases h : p.quitting
      · rw [replay_of_quitting h, replay_of_quitting h]
      · by_cases hidle : deed = .step ∧ ¬ p.playing
        · have hact : p.act deed = p := by
            rw [hidle.1]
            exact tick_of_not_playing hidle.2
          rw [effective, if_neg h, if_pos hidle, ih, replay, if_neg h, hact]
        · rw [effective, if_neg h, if_neg hidle, replay, if_neg h, ih, replay, if_neg h]

theorem replay_step (h : ¬ p.quitting) (due : Bool) :
    p.replay (if due then [.step] else []) = if due then p.tick else p := by
  cases due with
  | false => rfl
  | true => exact if_neg h

/-- A key that means nothing can be left out. -/
theorem replay_key (h : ¬ p.quitting) (key : Option Key) :
    p.replay ((key.toList.filter Key.acts).map .key) = key.elim p p.press := by
  cases key with
  | none => rfl
  | some key =>
      by_cases hk : key.acts
      · rw [Option.toList_some, List.filter_cons_of_pos hk]
        exact if_neg h
      · rw [Option.toList_some, List.filter_cons_of_neg hk]
        exact (press_of_not_acts hk).symm

end Player

namespace Browser

/-- What a turn makes of the player is told without the view and the size. -/
theorem player_turn {b : Browser} (h : ¬ b.player.quitting) (due : Bool) (key : Option Key) :
    (b.turn due key).player =
      key.elim (if due then b.player.tick else b.player)
        (if due then b.player.tick else b.player).press := by
  have hturn : ¬ b.draw.player.quitting := h
  rw [turn, if_neg hturn]
  cases due <;> cases key <;> rfl

/-- An event does to the player what its deeds do. -/
theorem player_handle (b : Browser) (event : Event) :
    (b.handle event).player = b.player.replay event.deeds := by
  cases event with
  | resize size => rfl
  | turn due key =>
      by_cases h : b.player.quitting
      · have hturn : b.turn due key = b.draw := if_pos h
        rw [Player.replay_of_quitting h, handle, hturn]
        rfl
      · have hplayed : ¬ (if due then b.player.tick else b.player).quitting := by
          cases due with
          | false => exact h
          | true => rwa [if_pos rfl, Player.quitting_tick]
        rw [handle, player_turn h, Event.deeds, Player.replay_append, Player.replay_step h,
          Player.replay_key hplayed]

/-- A run does to the player what its deeds do. -/
theorem player_run_eq_replay (b : Browser) (events : List Event) :
    (b.run events).player = b.player.replay (deeds events) := by
  induction events generalizing b with
  | nil => rfl
  | cons event events ih =>
      have hrun : b.run (event :: events) = (b.handle event).run events := rfl
      have hdeeds : deeds (event :: events) = event.deeds ++ deeds events := rfl
      rw [hrun, ih, player_handle, hdeeds, Player.replay_append]

end Browser

/-- Two browsers with the same player end with the same player if the deeds that take effect
are the same, whatever they show, in whatever windows, and whatever else happens. -/
theorem player_eq_of_deeds {b c : Browser} (hp : b.player = c.player) {events others : List Event}
    (hd : b.player.effective (deeds events) = c.player.effective (deeds others)) :
    (b.run events).player = (c.run others).player := by
  calc (b.run events).player
      = b.player.replay (b.player.effective (deeds events)) := by
        rw [b.player_run_eq_replay, Player.replay_effective]
    _ = c.player.replay (c.player.effective (deeds others)) := by rw [hp, ← hd, hp]
    _ = (c.run others).player := by
        rw [c.player_run_eq_replay, Player.replay_effective]

/-- Auto-play goes over a broken number and nine steps are asked for, on a terminal that shows the
text, and on one of no size at first, where no text is shown and the panes are scrolled. -/
theorem player_eq_of_deeds_scrolled :
    let read := (Lexer.ofString "x @ 2e+ \"p").tokenize
    let r := Recording.ofRun read.1 read.2.diagnostics
    let b := Browser.start r "x @ 2e+ \"p" ⟨80, 24⟩
    let c := Browser.start r "" ⟨0, 0⟩
    let events : List Event := [.turn false (some (.char ' ')), .turn true none,
      .turn false (some (.char '9')), .turn false (some (.char 'q'))]
    let others : List Event := [.turn true (some .tab), .turn false (some (.char ' ')),
      .turn true (some .down), .resize ⟨40, 3⟩, .turn false (some .heldSpace),
      .turn false (some (.char '9')), .turn true (some (.char 'q')), .turn true (some .right)]
    b.player = c.player ∧
      b.player.effective (deeds events) =
        [.key (.char ' '), .step, .key (.char '9'), .key (.char 'q')] ∧
      (b.run events).player = (c.run others).player := by
  intro read r b c events others
  have hp : b.player = c.player := rfl
  have hd : b.player.effective (deeds events) = c.player.effective (deeds others) := by
    decide +kernel
  exact ⟨hp, by decide +kernel, player_eq_of_deeds hp hd⟩

end TokenScope
