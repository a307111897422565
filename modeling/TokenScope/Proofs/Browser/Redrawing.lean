import TokenScope.Proofs.Browser.Independence
import TokenScope.Proofs.Browser.SourceWindow
import TokenScope.Proofs.Browser.TokenListing

/-!
Drawing twice. A scroll state says itself whether a drawing would move it, and a drawing makes
it one that the next would not, wherever the cursor is and however the window was put there.
So it is the cursor and the keys that scroll, and turns without either show the same window
again and again.
-/

namespace TokenScope

namespace SourceScroll

/-- The current line is held on a row of the window, if the text has that line the window is
where the row and the ends of the text want it, and it leaves no row empty. -/
structure Settled (scroll : SourceScroll) (visible total line : Nat) : Prop where
  held : ∃ row, scroll.target = some row ∧ row < visible ∧
    (1 ≤ line → line ≤ total → scroll.offset = min (line - 1 - row) (total - visible))
  bounded : scroll.offset ≤ total - visible

variable {scroll : SourceScroll} {visible total line : Nat}

theorem settle_eq : scroll.settle visible total line =
    let row := min (scroll.target.getD (visible / 2)) (visible - 1)
    let offset := if 0 < line ∧ line ≤ total then line - 1 - row else scroll.offset
    ⟨min offset (total - visible), some row⟩ := by
  simp only [settle, SourceScroll.mk.injEq, and_true]
  generalize (if 0 < line ∧ line ≤ total then _ else scroll.offset) = offset
  split <;> omega

theorem settled_settle (hv : 0 < visible) :
    (scroll.settle visible total line).Settled visible total line := by
  rw [settle_eq]
  refine ⟨⟨_, rfl, by omega, fun hlow hhigh => ?_⟩, Nat.min_le_right _ _⟩
  have hin : 0 < line ∧ line ≤ total := ⟨hlow, hhigh⟩
  simp only [if_pos hin]

/-- A drawing leaves the settled states alone and no others. -/
theorem settle_eq_self_iff (hv : 0 < visible) :
    scroll.settle visible total line = scroll ↔ scroll.Settled visible total line := by
  constructor
  · intro h
    rw [← h]
    exact settled_settle hv
  · rintro ⟨⟨row, htarget, hrow, hplace⟩, hbounded⟩
    obtain ⟨offset, target⟩ := scroll
    subst htarget
    have hheld : min row (visible - 1) = row := by omega
    simp only [settle_eq, Option.getD_some, hheld, SourceScroll.mk.injEq, and_true]
    split
    case isTrue hline => exact (hplace hline.1 hline.2).symm
    case isFalse => exact Nat.min_eq_left hbounded

end SourceScroll

/-- A step of auto-play leaves the cursor where it is or moves it on by one. -/
theorem Player.recording_tick (p : Player) :
    p.tick.recording = p.recording ∨
      p.tick.recording = { p.recording with position := p.recording.position + 1 } := by
  unfold tick Recording.forward
  by_cases hplaying : p.playing
  · by_cases hend : p.recording.atEnd
    · simp [hplaying, hend]
    · simp [hplaying, hend]
  · simp [hplaying]

namespace Browser

variable {b : Browser}

/-- Turns in which no key is pressed; in each the interval of auto-play has passed or not. -/
def idle (dues : List Bool) : List Event := dues.map (.turn · none)

theorem view_turn_none (b : Browser) (due : Bool) : (b.turn due none).view = b.draw.view := by
  obtain hv | ⟨k, hk, -⟩ := b.view_turn due none
  · exact hv
  · contradiction

theorem recording_turn_none (b : Browser) (due : Bool) :
    (b.turn due none).player.recording = b.player.recording ∨
      (b.turn due none).player.recording =
        { b.player.recording with position := b.player.recording.position + 1 } := by
  by_cases hq : b.player.quitting
  · have hturn : b.turn due none = b.draw := if_pos hq
    rw [hturn]
    exact .inl rfl
  · rw [player_turn hq]
    cases due with
    | false => exact .inl rfl
    | true => exact b.player.recording_tick

theorem position_le_idle (b : Browser) (dues : List Bool) :
    b.player.recording.position ≤ (b.run (idle dues)).player.recording.position := by
  induction dues generalizing b with
  | nil => exact Nat.le_refl _
  | cons due dues ih =>
      refine Nat.le_trans ?_ (ih (b.turn due none))
      obtain h | h := b.recording_turn_none due <;> rw [h]
      exact Nat.le_succ _

theorem view_draw_draw (b : Browser) : b.draw.draw.view = b.draw.view := by
  have hsource : b.draw.draw.view.source = b.draw.view.source :=
    (SourceScroll.settle_eq_self_iff b.size.visibleRows_pos).2
      (SourceScroll.settled_settle b.size.visibleRows_pos)
  have htokens : b.draw.draw.view.tokens = b.draw.view.tokens := b.settled_draw.tokens_draw
  change { b.draw.view with source := b.draw.draw.view.source,
                            tokens := b.draw.draw.view.tokens } = b.draw.view
  rw [hsource, htokens]

/-- The same windows over the same recording with the cursor at the same place. -/
structure LooksLike (c b : Browser) : Prop where
  view : c.view = b.view
  recording : c.player.recording = b.player.recording
  size : c.size = b.size

/-- A drawing sees nothing else. -/
theorem LooksLike.view_draw {c : Browser} (h : c.LooksLike b) : c.draw.view = b.draw.view := by
  simp only [draw, h.view, h.recording, h.size]

/-- Turns without a key go on looking like what was drawn, as long as the cursor stays. -/
theorem looksLike_idle (h : b.draw.view = b.view) {dues : List Bool}
    (hp : (b.run (idle dues)).player.recording.position = b.player.recording.position) :
    (b.run (idle dues)).LooksLike b := by
  induction dues generalizing b with
  | nil => exact ⟨rfl, rfl, rfl⟩
  | cons due dues ih =>
      have hlater := (b.turn due none).position_le_idle dues
      change ((b.turn due none).run (idle dues)).player.recording.position = _ at hp
      rw [hp] at hlater
      obtain hr | hr := b.recording_turn_none due
      · have hturn : (b.turn due none).LooksLike b :=
          ⟨(b.view_turn_none due).trans h, hr, b.size_turn due none⟩
        have hdrawn := hturn.view_draw.trans (h.trans hturn.view.symm)
        have hlast := ih hdrawn (by rw [hp, hr])
        exact ⟨hlast.view.trans hturn.view, hlast.recording.trans hturn.recording,
          hlast.size.trans hturn.size⟩
      · rw [hr] at hlater
        exact absurd hlater (Nat.not_succ_le_self _)

/-- With auto-play off a turn without a key draws and does nothing else. -/
theorem turn_none_of_not_playing (h : ¬ b.player.playing) (due : Bool) :
    b.turn due none = b.draw := by
  have htick : b.draw.player.tick = b.draw.player := Player.tick_of_not_playing h
  simp only [turn, htick, ite_self]

theorem run_idle_of_not_playing (h : ¬ b.player.playing) (hdrawn : b.draw = b)
    (dues : List Bool) : b.run (idle dues) = b := by
  induction dues with
  | nil => rfl
  | cons due dues ih =>
      change (b.turn due none).run (idle dues) = b
      rw [turn_none_of_not_playing h, hdrawn, ih]

/-- What one drawing leaves to the next ones of the same size. The source pane holds the line of
the cursor and the token pane has followed it, both within their ends, and then nothing moves. -/
structure DrawnOnce (b : Browser) : Prop where
  held : b.draw.view.source.Settled b.size.visibleRows b.view.lines.length
    (SourcePane.currentLine b.player.recording)
  followed : b.draw.Settled b.draw.view.tokens.offset
  again : b.draw.draw = b.draw
  sourceLines : b.draw.draw.sourceLines = b.draw.sourceLines
  listed : b.draw.draw.listed = b.draw.listed
  screen : b.draw.screen = b.screen
  rests : ¬ b.player.playing → ∀ dues, b.draw.run (idle dues) = b.draw
  /-- Auto-play alone moves the cursor in turns without keys. While it does not, the windows stay
  as they are, also in the drawing after the last turn. -/
  stays : ∀ dues, (b.draw.run (idle dues)).player.recording.position =
      b.player.recording.position →
    (b.draw.run (idle dues)).view = b.draw.view ∧
      (b.draw.run (idle dues)).draw.view = b.draw.view

end Browser

/-- Drawing settles a browser once and for all, whatever it has been through and in whatever
size it is drawn. -/
theorem drawnOnce (b : Browser) : b.DrawnOnce := by
  have hagain : b.draw.draw = b.draw :=
    congrArg (fun view => { b.draw with view }) b.view_draw_draw
  constructor
  case held => exact SourceScroll.settled_settle b.size.visibleRows_pos
  case followed => exact b.settled_draw
  case again => exact hagain
  case sourceLines => rw [hagain]
  case listed => rw [hagain]
  case screen =>
    rw [Browser.screen, hagain]
    rfl
  case rests => exact fun h dues => @Browser.run_idle_of_not_playing b.draw h hagain dues
  case stays =>
    intro dues hp
    have hlast := Browser.looksLike_idle b.view_draw_draw hp
    exact ⟨hlast.view, hlast.view_draw.trans b.view_draw_draw⟩

end TokenScope
