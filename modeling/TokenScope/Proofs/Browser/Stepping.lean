import Mathlib.Logic.Function.Iterate
import Mathlib.Tactic.IntervalCases
import TokenScope.Proofs.Browser.Independence
import TokenScope.Proofs.Browser.Runs

/-!
Three ways of stepping forward: one leap, as many single steps, and as many intervals of
auto-play. They stop at the last token for different reasons and say so in different words.
They come to the same token nevertheless, and describe it unless they were cut short.
-/

namespace TokenScope

theorem Recording.exists_describe? {r : Recording} {i : Nat} (h : i < r.size) :
    ∃ message, describe? { r with position := i } = some message := by
  have hcurrent : current? { r with position := i } = some r.tokens[i] :=
    Array.getElem?_eq_getElem h
  rw [describe?, hcurrent]
  exact ⟨_, rfl⟩

namespace Player

/-- The cursor on a token that is described. -/
def landed (p : Player) (i : Nat) (playing : Bool) : Player :=
  { p with recording := { p.recording with position := i }, playing }.describe

/-- The cursor on the last token, and a note that there is no other. -/
def halted (p : Player) (note : String) : Player :=
  { p with
    recording := { p.recording with position := p.recording.size - 1 }
    playing := false
    message := note }

/-- So many tokens further on, or halted where there are not as many. -/
def forwarded (p : Player) (n : Nat) (playing : Bool) (note : String) : Player :=
  if p.recording.position + n < p.recording.size then
    p.landed (p.recording.position + n) playing
  else p.halted note

variable {p : Player}

theorem exists_landed_eq (p : Player) {i : Nat} (h : i < p.recording.size) :
    ∃ message, Recording.describe? { p.recording with position := i } = some message ∧
      ∀ playing, p.landed i playing =
        { p with recording := { p.recording with position := i }, playing, message } := by
  obtain ⟨message, hm⟩ := Recording.exists_describe? h
  refine ⟨message, hm, fun playing => ?_⟩
  rw [landed, describe, hm]

@[simp] theorem recording_landed (p : Player) (i : Nat) (playing : Bool) :
    (p.landed i playing).recording = { p.recording with position := i } :=
  recording_describe _

@[simp] theorem playing_landed (p : Player) (i : Nat) (playing : Bool) :
    (p.landed i playing).playing = playing :=
  playing_describe _

/-- What was described on the way is forgotten. -/
theorem landed_landed {i j : Nat} (hi : i < p.recording.size) (hj : j < p.recording.size)
    (before playing : Bool) : (p.landed i before).landed j playing = p.landed j playing := by
  obtain ⟨_, -, hlanded⟩ := p.exists_landed_eq hi
  obtain ⟨message, hm, hlast⟩ := p.exists_landed_eq hj
  rw [hlanded, hlast, landed, describe]
  simp only [hm]

theorem halted_landed {i : Nat} (hi : i < p.recording.size) (playing : Bool) (note : String) :
    (p.landed i playing).halted note = p.halted note := by
  obtain ⟨_, -, hlanded⟩ := p.exists_landed_eq hi
  rw [hlanded]
  rfl

/-- One way forward goes on where another has led. -/
theorem forwarded_landed {m : Nat} (hm : p.recording.position + m < p.recording.size) (n : Nat)
    (before playing : Bool) (note : String) :
    (p.landed (p.recording.position + m) before).forwarded n playing note =
      p.forwarded (m + n) playing note := by
  rw [forwarded, forwarded, recording_landed, ← Nat.add_assoc]
  by_cases hn : p.recording.position + m + n < p.recording.size
  · exact (if_pos hn).trans ((landed_landed hm hn before playing).trans (if_pos hn).symm)
  · exact (if_neg hn).trans ((halted_landed hm before note).trans (if_neg hn).symm)

/-- A way of stepping forward by one token: whether auto-play is on meanwhile, and what is said
when there is no other token. Having said so it changes nothing. -/
structure Strides (step : Player → Player) (playing : Bool) (note : String) : Prop where
  lands : ∀ p : Player, (playing → p.playing) →
    p.recording.position + 1 < p.recording.size →
    step p = p.landed (p.recording.position + 1) playing
  halts : ∀ p : Player, (playing → p.playing) →
    p.recording.position + 1 = p.recording.size → step p = p.halted note
  rests : ∀ p : Player, 0 < p.recording.size → step (p.halted note) = p.halted note

theorem strides_right :
    Strides (·.press .right) false "Cannot step: Already at the last token" := by
  have halts (p : Player) (h : p.recording.position + 1 = p.recording.size) :
      p.press .right = p.halted "Cannot step: Already at the last token" := by
    obtain ⟨-, hf⟩ | ⟨hnext, -⟩ := Recording.forward_cases (Nat.le_of_eq h)
    · simp only [press, hf, halted, ← h, Nat.add_sub_cancel]
      rfl
    · exact absurd h (Nat.ne_of_lt hnext)
  constructor
  case lands =>
    intro p _ h
    obtain ⟨hlast, -⟩ | ⟨-, hf⟩ := Recording.forward_cases (Nat.lt_of_succ_lt h)
    · exact absurd hlast (Nat.ne_of_lt h)
    · simp only [press, hf]
      rfl
  case halts => exact fun p _ h => halts p h
  case rests => exact fun p h => halts (p.halted _) (Nat.sub_add_cancel h)

theorem strides_tick : Strides tick true "Playback complete" := by
  constructor
  case lands =>
    intro p hp h
    obtain ⟨hlast, -⟩ | ⟨-, hf⟩ := Recording.forward_cases (Nat.lt_of_succ_lt h)
    · exact absurd hlast (Nat.ne_of_lt h)
    · rw [tick, if_pos (hp rfl), hf, landed, ← hp rfl]
  case halts =>
    intro p hp h
    obtain ⟨-, hf⟩ | ⟨hnext, -⟩ := Recording.forward_cases (Nat.le_of_eq h)
    · rw [tick, if_pos (hp rfl), hf]
      simp only [halted, ← h, Nat.add_sub_cancel]
    · exact absurd h (Nat.ne_of_lt hnext)
  case rests => exact fun p _ => tick_of_not_playing Bool.false_ne_true

namespace Strides

variable {step : Player → Player} {playing : Bool} {note : String}

theorem eq_forwarded (h : Strides step playing note) (hplaying : playing → p.playing)
    (hp : p.recording.position < p.recording.size) : step p = p.forwarded 1 playing note := by
  rw [forwarded]
  split
  · exact h.lands p hplaying ‹_›
  · exact h.halts p hplaying (Nat.le_antisymm hp (Nat.le_of_not_lt ‹_›))

theorem step_forwarded (h : Strides step playing note)
    (hp : p.recording.position < p.recording.size) (n : Nat) :
    step (p.forwarded n playing note) = p.forwarded (n + 1) playing note := by
  by_cases hn : p.recording.position + n < p.recording.size
  · have hbefore : p.forwarded n playing note =
        p.landed (p.recording.position + n) playing := if_pos hn
    have hplaying : playing → (p.landed (p.recording.position + n) playing).playing :=
      fun hon => (p.playing_landed _ playing).trans hon
    rw [hbefore, h.eq_forwarded hplaying (by rwa [recording_landed])]
    exact forwarded_landed hn 1 playing playing note
  · have hafter : ¬ p.recording.position + (n + 1) < p.recording.size :=
      fun hlater => hn (Nat.lt_of_succ_lt hlater)
    rw [forwarded, if_neg hn, forwarded, if_neg hafter]
    exact h.rests p (Nat.zero_lt_of_lt hp)

/-- Step by step as many tokens further on. -/
theorem iterate (h : Strides step playing note) (hp : p.recording.position < p.recording.size)
    (hplaying : playing → p.playing) (n : Nat) :
    step^[n + 1] p = p.forwarded (n + 1) playing note := by
  induction n with
  | zero => exact h.eq_forwarded hplaying hp
  | succ n ih => rw [Function.iterate_succ_apply', ih, h.step_forwarded hp]

end Strides

/-- In one leap as many tokens further on. -/
theorem leap_eq_forwarded (hp : p.recording.position < p.recording.size) (n : Nat) :
    p.leap n = p.forwarded n false ("Stepped forward " ++
      toString (p.recording.size - 1 - p.recording.position) ++ " token(s)") := by
  obtain ⟨hle, hlt, hr, hshort⟩ := Recording.advance_spec hp n
  unfold leap forwarded
  generalize p.recording.advance n = later at *
  obtain ⟨steps, last⟩ := later
  simp only at hle hlt hr hshort ⊢
  rw [hr]
  by_cases hs : steps < n
  · have hlast := hshort hs
    have hfar : ¬ p.recording.position + n < p.recording.size := by omega
    have hsteps : p.recording.size - 1 - p.recording.position = steps := by omega
    have hplace : p.recording.position + steps = p.recording.size - 1 := by omega
    rw [if_pos hs, if_neg hfar, describe_message, hsteps, hplace]
    rfl
  · have hall : steps = n := Nat.le_antisymm hle (Nat.le_of_not_lt hs)
    subst hall
    rw [if_neg hs, if_pos hlt]
    rfl

/-- A player with its cursor so many tokens ahead in a recording, or on the last one. A note
that it was cut short takes the place of the description. -/
structure Ahead (q : Player) (r : Recording) (n : Nat) (note : String) : Prop where
  recording : q.recording = { r with position := min (r.position + n) (r.size - 1) }
  described : 0 < n → r.position + n ≤ r.size - 1 → q.recording.describe? = some q.message
  cutShort : r.size - 1 < r.position + n → q.message = note

theorem ahead_zero {r : Recording} (hp : r.position < r.size) {q : Player}
    (h : q.recording = r) (note : String) : q.Ahead r 0 note := by
  have hlast : r.position ≤ r.size - 1 := Nat.le_sub_one_of_lt hp
  constructor
  case recording =>
    rw [h, Nat.add_zero, Nat.min_eq_left hlast]
  case described => exact fun hn => absurd hn (Nat.lt_irrefl 0)
  case cutShort => exact fun hn => absurd hn (Nat.not_lt_of_le hlast)

theorem ahead_forwarded (hp : p.recording.position < p.recording.size) (n : Nat)
    (playing : Bool) (note : String) :
    (p.forwarded n playing note).Ahead p.recording n note := by
  by_cases hn : p.recording.position + n < p.recording.size
  · have hlast : p.recording.position + n ≤ p.recording.size - 1 := Nat.le_sub_one_of_lt hn
    obtain ⟨message, hm, hlanded⟩ := p.exists_landed_eq hn
    rw [forwarded, if_pos hn, hlanded]
    constructor
    case recording => rw [Nat.min_eq_left hlast]
    case described => exact fun _ _ => hm
    case cutShort => exact fun hs => absurd hs (Nat.not_lt_of_le hlast)
  · have hlast : p.recording.size - 1 < p.recording.position + n := by omega
    rw [forwarded, if_neg hn]
    constructor
    case recording =>
      rw [Nat.min_eq_right (Nat.le_of_lt hlast)]
      rfl
    case described => exact fun _ hs => absurd hlast (Nat.not_lt_of_le hs)
    case cutShort => exact fun _ => rfl

/-- Auto-play is on until it is cut short. -/
theorem playing_forwarded (hp : p.recording.position < p.recording.size) (n : Nat)
    (note : String) :
    (p.forwarded n true note).playing ↔ n ≤ p.recording.size - 1 - p.recording.position := by
  unfold forwarded
  split
  · rw [playing_landed]
    exact iff_of_true rfl (by omega)
  · exact iff_of_false Bool.false_ne_true (by omega)

theorem replay_replicate {deed : Deed} (hd : ∀ p : Player, (p.act deed).quitting = p.quitting)
    (h : ¬ p.quitting) (n : Nat) : p.replay (List.replicate n deed) = (·.act deed)^[n] p := by
  induction n generalizing p with
  | zero => rfl
  | succ n ih =>
      rw [List.replicate_succ, replay, if_neg h, Function.iterate_succ_apply]
      exact ih (by rwa [hd])

theorem quitting_right (p : Player) : (p.press .right).quitting = p.quitting := by
  simp only [press, stepped]
  split
  · exact quitting_describe _
  · rfl

theorem press_digit {n : Nat} (hlow : 1 ≤ n) (hhigh : n ≤ 9) :
    p.press (.char n.digitChar) = p.leap n := by
  interval_cases n <;> rfl

/-- One leap leads as many tokens further on as its digit says. -/
theorem ahead_replay_digit (hq : ¬ p.quitting)
    (hp : p.recording.position < p.recording.size) {n : Nat} (hlow : 1 ≤ n) (hhigh : n ≤ 9) :
    (p.replay [.key (.char n.digitChar)]).Ahead p.recording n
      ("Stepped forward " ++ toString (p.recording.size - 1 - p.recording.position) ++
        " token(s)") := by
  rw [replay, if_neg hq, replay, act, press_digit hlow hhigh, leap_eq_forwarded hp]
  exact ahead_forwarded hp n _ _

/-- So many presses lead as many tokens further on. -/
theorem ahead_replay_right (hq : ¬ p.quitting)
    (hp : p.recording.position < p.recording.size) (n : Nat) :
    (p.replay (List.replicate n (.key .right))).Ahead p.recording n
      "Cannot step: Already at the last token" := by
  rw [@replay_replicate p (.key .right) quitting_right hq]
  cases n with
  | zero => exact ahead_zero hp rfl _
  | succ n =>
      have hright := strides_right.iterate hp (fun hon => by contradiction) n
      change ((·.press .right)^[n + 1] p).Ahead _ _ _
      rw [hright]
      exact ahead_forwarded hp _ _ _

/-- So many intervals lead as many tokens further on, and end auto-play if there are not as
many. -/
theorem ahead_replay_step (hq : ¬ p.quitting) (hplaying : p.playing)
    (hp : p.recording.position < p.recording.size) (n : Nat) :
    (p.replay (List.replicate n .step)).Ahead p.recording n "Playback complete" ∧
      ((p.replay (List.replicate n .step)).playing ↔
        n ≤ p.recording.size - 1 - p.recording.position) := by
  rw [@replay_replicate p .step quitting_tick hq]
  cases n with
  | zero => exact ⟨ahead_zero hp rfl _, iff_of_true hplaying (Nat.zero_le _)⟩
  | succ n =>
      have htick := strides_tick.iterate hp (fun _ => hplaying) n
      change (tick^[n + 1] p).Ahead _ _ _ ∧ ((tick^[n + 1] p).playing ↔ _)
      rw [htick]
      exact ⟨ahead_forwarded hp _ _ _, playing_forwarded hp _ _⟩

theorem press_space (h : ¬ p.playing) :
    p.press (.char ' ') = { p with playing := true, message := "Playing..." } :=
  if_neg h

/-- While auto-play is off its intervals change nothing. -/
theorem replay_of_not_playing (h : ¬ p.playing) {ds : List Deed} (hd : ∀ deed ∈ ds, deed = .step) :
    p.replay ds = p := by
  induction ds with
  | nil => rfl
  | cons deed ds ih =>
      rw [List.forall_mem_cons] at hd
      by_cases hq : p.quitting
      · exact replay_of_quitting hq _
      · rw [replay, if_neg hq, hd.1, act, tick_of_not_playing h]
        exact ih hd.2

end Player

/-- A leap, so many steps and so many intervals of auto-play lead to the same token, whatever
else happens that no player takes notice of. Auto-play goes off with the first interval that
finds it at the last token. -/
theorem steps_agree {b : Browser} (hq : ¬ b.player.quitting)
    (hp : b.player.recording.position < b.player.recording.size) (n : Nat) :
    let r := b.player.recording
    let left := r.size - 1 - r.position
    (1 ≤ n → n ≤ 9 →
      ∀ events, b.player.effective (deeds events) = [.key (.char n.digitChar)] →
        (b.run events).player.Ahead r n
          ("Stepped forward " ++ toString left ++ " token(s)")) ∧
    (∀ events, b.player.effective (deeds events) = List.replicate n (.key .right) →
      (b.run events).player.Ahead r n "Cannot step: Already at the last token") ∧
    (¬ b.player.playing →
      ∀ events, deeds events = .key (.char ' ') :: List.replicate n .step →
        (b.run events).player.Ahead r n "Playback complete" ∧
        ((b.run events).player.playing ↔ n ≤ left) ∧
        (left < n → ∀ later, (∀ deed ∈ deeds later, deed = .step) →
          ((b.run events).run later).player = (b.run events).player)) := by
  intro r left
  have hrun (events : List Event) : (b.run events).player =
      b.player.replay (b.player.effective (deeds events)) := by
    rw [b.player_run_eq_replay, Player.replay_effective]
  refine ⟨?digit, ?right, ?space⟩
  case digit =>
    intro hlow hhigh events he
    rw [hrun, he]
    exact Player.ahead_replay_digit hq hp hlow hhigh
  case right =>
    intro events he
    rw [hrun, he]
    exact Player.ahead_replay_right hq hp n
  case space =>
    intro hidle events he
    have hplayed : (b.run events).player =
        (b.player.press (.char ' ')).replay (List.replicate n .step) := by
      rw [b.player_run_eq_replay, he, Player.replay, if_neg hq, Player.act]
    rw [hplayed, Player.press_space hidle]
    obtain ⟨hahead, hplaying⟩ := @Player.ahead_replay_step
      { b.player with playing := true, message := "Playing..." } hq rfl hp n
    refine ⟨hahead, hplaying, fun hn later hl => ?_⟩
    rw [(b.run events).player_run_eq_replay, hplayed, Player.press_space hidle]
    exact Player.replay_of_not_playing (fun hon => Nat.not_le_of_lt hn (hplaying.1 hon)) hl

/-- Four tokens from the second of five, over a broken number, while the panes are scrolled and
the terminal changes its size. -/
theorem steps_agree_cut_short :
    let read := (Lexer.ofString "a 0x b c").tokenize
    let recording := Recording.ofRun read.1 read.2.diagnostics
    let b := Browser.start { recording with position := 1 } "" ⟨80, 24⟩
    let r := b.player.recording
    let presses : List Event := [.turn false (some .right), .turn true (some .tab),
      .turn false (some .right), .resize ⟨9, 0⟩, .turn true (some .right),
      .turn false (some .down), .turn true (some .right)]
    let intervals : List Event := [.turn false (some (.char ' ')), .turn true none,
      .turn false none, .turn true (some .up), .resize ⟨9, 0⟩, .turn true none,
      .turn true (some .heldSpace)]
    ¬ b.player.quitting ∧ r.position < r.size ∧ r.size - 1 - r.position = 3 ∧
    (b.run [.turn false (some (.char '4'))]).player.Ahead r 4
      ("Stepped forward " ++ toString 3 ++ " token(s)") ∧
    (b.run presses).player.Ahead r 4 "Cannot step: Already at the last token" ∧
    (b.run intervals).player.Ahead r 4 "Playback complete" ∧
    ¬ (b.run intervals).player.playing ∧
    ((b.run intervals).run [.turn true none]).player = (b.run intervals).player := by
  intro read recording b r presses intervals
  have hq : ¬ b.player.quitting := by decide +kernel
  have hp : r.position < r.size := by decide +kernel
  have hleft : r.size - 1 - r.position = 3 := by decide +kernel
  have hshort : r.size - 1 - r.position < 4 := by decide +kernel
  obtain ⟨hdigit, hright, hspace⟩ := steps_agree hq hp 4
  have hleap := hdigit (by decide) (by decide) [.turn false (some (.char '4'))]
    (by decide +kernel)
  obtain ⟨hahead, hplaying, hlater⟩ :=
    hspace (by decide +kernel) intervals (by decide +kernel)
  rw [hleft] at hleap
  refine ⟨hq, hp, hleft, hleap, hright presses (by decide +kernel), hahead, ?_, ?_⟩
  · exact fun hon => Nat.not_le_of_lt hshort (hplaying.1 hon)
  · exact hlater hshort [.turn true none] (by decide +kernel)

end TokenScope
