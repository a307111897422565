import TokenScope.Proofs.Lexing.Ending
import TokenScope.Proofs.Recording.Cursor

/-!
Walks through a recording. A recording ends with the end of input and holds no other, so that
the last token is told by its kind as well as by its place. This is so wherever the moves have
led, and in whatever state the lexer was that was recorded.
-/

namespace TokenScope
namespace Recording

/-- The cursor is on the end of input. -/
def OnEnd (r : Recording) : Prop := ∃ t, r.current? = some t ∧ t.isEnd

/-- A recording whose cursor has been moved about in `r`. -/
structure WalkedFrom (q r : Recording) : Prop where
  /-- Tokens, diagnostics, counts and lines are what they were. -/
  same : q = { r with position := q.position }
  onToken : ∃ h : q.position < r.tokens.size, q.current? = some r.tokens[q.position]
  atEnd : q.atEnd ↔ q.OnEnd
  forward_refused : ∀ e, (q.move .forward).2 = some e ↔ e = .atEnd ∧ q.OnEnd
  back_refused : ∀ e, (q.move .back).2 = some e ↔ e = .atStart ∧ q.position = 0
  refused_same : ∀ m e, (q.move m).2 = some e → (q.move m).1 = q
  forward_back : (q.move .forward).2 = none → (q.move .forward).1.move .back = (q, none)
  back_forward : (q.move .back).2 = none → (q.move .back).1.move .forward = (q, none)
  /-- From the first token on these are all tokens. -/
  swept : q.sweep = (r.tokens.toList.zipIdx.drop q.position, .atEnd)

variable {lexer : Lexer} {limit : Nat} {q r : Recording}

theorem browsedFrom_of_record (hr : record lexer limit = .ok r) : r.BrowsedFrom r := by
  obtain rfl := Lexer.eq_ofRun_of_record hr
  exact ⟨rfl, lexer.size_tokenize_pos⟩

theorem onEnd_iff_of_record (hr : record lexer limit = .ok r) (h : q.BrowsedFrom r) :
    q.OnEnd ↔ q.position + 1 = q.size := by
  obtain ⟨t, ht, -⟩ := h.exists_current
  have htoken : lexer.tokenize.1[q.position]? = some t := by
    rw [h.same, Lexer.eq_ofRun_of_record hr] at ht
    exact ht
  have hsize : q.size = lexer.tokenize.1.size := by
    rw [h.size_eq, Lexer.eq_ofRun_of_record hr]
    rfl
  rw [hsize, ← Lexer.isEnd_iff_of_getElem?_tokenize htoken, OnEnd, ht]
  simp

/-- The cursor can be moved about in any recording as long as one likes. -/
theorem walkedFrom_of_record (hr : record lexer limit = .ok r) (ms : List Move) :
    (r.moved ms).WalkedFrom r := by
  have hq := (browsedFrom_of_record hr).moved ms
  generalize r.moved ms = q at hq
  have hp : q.position < q.size := hq.lt_size
  have hend : q.OnEnd ↔ q.position + 1 = q.size := onEnd_iff_of_record hr hq
  have htokens : q.tokens = r.tokens := by rw [hq.same]
  constructor
  case same => exact hq.same
  case onToken =>
    refine ⟨hq.onToken, ?_⟩
    rw [current?, htokens]
    exact Array.getElem?_eq_getElem hq.onToken
  case atEnd =>
    rw [hend, atEnd_iff]
    exact ⟨Nat.le_antisymm hp, fun hlast => Nat.le_of_eq hlast.symm⟩
  case forward_refused =>
    intro e
    rw [hend, move_forward_refused_iff hp]
  case back_refused => exact q.move_back_refused_iff
  case refused_same => exact fun m e he => eq_of_move_refused hp he
  case forward_back => exact move_back_of_forward hp
  case back_forward => exact move_forward_of_back hp
  case swept => rw [sweep_eq hp, htokens]

/-- The moves overstep both ends and come to rest on a string over two lines. -/
theorem walkedFrom_of_record_overstepping :
    let lexer := (Lexer.ofString "x 0x \"a\nb\" y").after 1
    let moves : List Move := [.back, .toEnd, .forward, .back, .back, .forward, .toStart, .forward]
    ∃ r, record lexer 4 = .ok r ∧ (r.moved moves).WalkedFrom r ∧
      (r.moved moves).current? = some ⟨.string, "a\nb", ⟨1, 6⟩, 5⟩ := by
  intro lexer moves
  have hsize : lexer.tokenize.1.size ≤ 4 := by decide +kernel
  have hr := Lexer.record_of_size_le hsize
  refine ⟨_, hr, walkedFrom_of_record hr moves, ?_⟩
  decide +kernel

end Recording
end TokenScope
