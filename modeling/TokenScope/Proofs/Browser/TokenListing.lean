import TokenScope.Proofs.Browser.Screen
import TokenScope.Proofs.Browser.TokenWindow

/-!
The rows of the token list. After every drawing they are consecutive tokens with no gap and no
row left empty that a token could fill, and the marker is on the row of the cursor; on the
screen they are one below the other as long as there is room. A drawing with the cursor at a new
place brings it into the window, by no move if it is there already; any other leaves the window
where keys have put it, as far as the tokens fill it.
-/

namespace TokenScope

namespace TokenPane

end TokenPane

namespace TokenScroll

variable {scroll : TokenScroll} {visible total position : Nat}

theorem offset_settle_le : (scroll.settle visible total position).offset ≤ total - visible :=
  Nat.min_le_right _ _

/-- A drawing leaves those states alone that have followed the cursor and leave no row empty. -/
theorem settle_eq_self_iff : scroll.settle visible total position = scroll ↔
    scroll.followed = some position ∧ scroll.offset ≤ total - visible := by
  constructor
  · intro h
    rw [← h]
    exact ⟨followed_settle, offset_settle_le⟩
  · rintro ⟨hfollowed, hbounded⟩
    rw [settle, follow, if_pos hfollowed, bound, Nat.min_eq_left hbounded]

end TokenScroll

namespace Browser

/-- The rows of the token list, in the window that a drawing has settled. -/
def listed (b : Browser) : List TokenPane.Item :=
  TokenPane.window b.player.recording b.view.tokens.offset b.size.visibleRows

/-- An event leaves the cursor where it is, scrolls no tokens, and adds no rows. -/
structure LeftAloneBy (b : Browser) (event : Event) : Prop where
  cursor : (b.handle event).player.recording.position = b.player.recording.position
  keys : ∀ due key, event = .turn due key → ¬ b.view.scrollsTokens key
  rows : (b.handle event).size.visibleRows ≤ b.size.visibleRows

def LeftAlone (b : Browser) : List Event → Prop
  | [] => True
  | event :: rest => b.LeftAloneBy event ∧ (b.handle event).LeftAlone rest

/-- The window of tokens is where the last drawing has left it. -/
structure Settled (b : Browser) (offset : Nat) : Prop where
  placed : b.view.tokens.offset = offset
  followed : b.view.tokens.followed = some b.player.recording.position
  bounded : offset ≤ b.player.recording.size - b.size.visibleRows

variable {b : Browser} {offset : Nat}

theorem settled_draw (b : Browser) : b.draw.Settled b.draw.view.tokens.offset :=
  ⟨rfl, TokenScroll.followed_settle, TokenScroll.offset_settle_le⟩

namespace Settled

/-- Drawing again changes nothing. -/
theorem tokens_draw (h : b.Settled offset) : b.draw.view.tokens = b.view.tokens := by
  have hbounded := h.bounded
  rw [← h.placed] at hbounded
  exact TokenScroll.settle_eq_self_iff.2 ⟨h.followed, hbounded⟩

theorem tokens_turn (h : b.Settled offset) {due : Bool} {key : Option Key}
    (hk : ¬ b.view.scrollsTokens key) : (b.turn due key).view.tokens = b.view.tokens := by
  obtain hv | ⟨k, rfl, hv⟩ := b.view_turn due key
  · rw [hv, h.tokens_draw]
  · rw [hv, (b.draw.view.tokens_press k).2 hk, h.tokens_draw]

theorem handle {r : Recording} (h : b.Settled offset) (hb : b.player.recording.BrowsedFrom r)
    {event : Event} (hl : b.LeftAloneBy event) : (b.handle event).Settled offset := by
  have htokens : (b.handle event).view.tokens = b.view.tokens := by
    cases event with
    | resize size => rfl
    | turn due key => exact h.tokens_turn (hl.keys due key rfl)
  constructor
  case placed => rw [htokens, h.placed]
  case followed => rw [htokens, h.followed, hl.cursor]
  case bounded =>
    have hsize : (b.handle event).player.recording.size = b.player.recording.size :=
      (browsedFrom_handle hb event).size_eq.trans hb.size_eq.symm
    rw [hsize]
    exact Nat.le_trans h.bounded (Nat.sub_le_sub_left hl.rows _)

/-- It stays there as long as it is left alone. -/
theorem run {r : Recording} (h : b.Settled offset) (hb : b.player.recording.BrowsedFrom r)
    {events : List Event} (hl : b.LeftAlone events) : (b.run events).Settled offset := by
  induction events generalizing b with
  | nil => exact h
  | cons event events ih =>
      exact ih (h.handle hb hl.1) (browsedFrom_handle hb event) hl.2

end Settled

end Browser

end TokenScope
