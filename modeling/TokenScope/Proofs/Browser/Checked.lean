import Mathlib.Algebra.Group.Nat.Defs
import TokenScope.Proofs.Browser.Runs

/-!
The browser on a machine with words of 64 bits, where a sum that no word can hold, a difference
below zero, an index out of range and a missing current token are failures. Sums and differences
stand in the order in which they are taken; those that never fail, because they stop at zero,
are written as before. Drawing reads the source pane line by line even where no row is left
for it.
-/

namespace TokenScope

namespace Word

/-- How many values a word has. -/
def count : Nat := 2 ^ 64

/-- A sum that has to be less than a bound. -/
def addBelow? (bound a b : Nat) : Option Nat := if a + b < bound then some (a + b) else none

def add? (a b : Nat) : Option Nat := addBelow? count a b

def sub? (a b : Nat) : Option Nat := if b ≤ a then some (a - b) else none

/-- The characters from one index up to another. -/
def slice? (cs : List Char) (first stop : Nat) : Option (List Char) :=
  if first ≤ stop ∧ stop ≤ cs.length then some ((cs.drop first).take (stop - first)) else none

variable {a b : Nat}

theorem add?_of_lt (h : a + b < count) : add? a b = some (a + b) := if_pos h

theorem sub?_of_le (h : b ≤ a) : sub? a b = some (a - b) := if_pos h

theorem slice?_of_le {cs : List Char} (hab : a ≤ b) (hb : b ≤ cs.length) :
    slice? cs a b = some ((cs.drop a).take (b - a)) := if_pos ⟨hab, hb⟩

end Word

namespace Recording

def atEnd? (r : Recording) : Option Bool := do
  let next ← Word.add? r.position 1
  some (r.size ≤ next)

def forward? (r : Recording) : Option (Except StepError Recording) := do
  if ← r.atEnd? then some (.error .atEnd)
  else
    let position ← Word.add? r.position 1
    some (.ok { r with position })

def back? (r : Recording) : Option (Except StepError Recording) :=
  if r.atStart then some (.error .atStart)
  else do
    let position ← Word.sub? r.position 1
    some (.ok { r with position })

/-- Steps are counted in 32 bits. -/
def advance? (r : Recording) : Nat → Option (Nat × Recording)
  | 0 => some (0, r)
  | n + 1 => do
      match ← r.forward? with
      | .error _ => some (0, r)
      | .ok later =>
          let (steps, last) ← later.advance? n
          let more ← Word.addBelow? (2 ^ 32) steps 1
          some (more, last)

/-- The tokens of a line. Every index that is listed for the line has to be one of a token. -/
def onLine? (r : Recording) (line : Nat) : Option (List (Nat × Token)) :=
  (r.index.onLine line).mapM fun i => do
    let token ← r.tokens[i]?
    some (i, token)

variable {r : Recording}

theorem atEnd?_eq (h : r.position + 1 < Word.count) : r.atEnd? = some r.atEnd := by
  rw [atEnd?, Word.add?_of_lt h]
  rfl

theorem forward?_eq (h : r.position + 1 < Word.count) : r.forward? = some r.forward := by
  rw [forward?, atEnd?_eq h, Word.add?_of_lt h, forward]
  cases r.atEnd <;> rfl

theorem back?_eq (r : Recording) : r.back? = some r.back := by
  obtain ⟨hz, hb⟩ | ⟨hpos, hb⟩ := r.back_cases
  · have hs : r.atStart := atStart_iff.2 hz
    rw [back?, if_pos hs, back, if_pos hs]
  · have hs : ¬ r.atStart := fun hs => Nat.ne_of_gt hpos (atStart_iff.1 hs)
    rw [back?, if_neg hs, Word.sub?_of_le hpos, hb]
    rfl

/-- A step leads to a token. -/
theorem lt_of_forward {later : Recording} (h : r.forward = .ok later) :
    later.position < later.size := by
  obtain ⟨hnext, rfl⟩ := of_forward_eq_ok h
  exact hnext

theorem lt_of_back {later : Recording} (hp : r.position < r.size) (h : r.back = .ok later) :
    later.position < later.size := by
  obtain ⟨-, hb⟩ | ⟨-, hb⟩ := r.back_cases
  · rw [hb] at h
    contradiction
  · rw [hb] at h
    cases h
    exact Nat.lt_of_le_of_lt (Nat.sub_le _ 1) hp

theorem advance?_eq (hp : r.position < r.size) (hs : r.size < Word.count) {n : Nat}
    (hn : n < 2 ^ 32) : r.advance? n = some (r.advance n) := by
  induction n generalizing r with
  | zero => rfl
  | succ n ih =>
      have hword : r.position + 1 < Word.count := by omega
      rw [advance?, forward?_eq hword]
      obtain ⟨-, hf⟩ | ⟨hnext, hf⟩ := forward_cases hp
      · rw [hf, advance, hf]
        rfl
      · have hlater := @ih { r with position := r.position + 1 } hnext hs (by omega)
        have hcount : (({ r with position := r.position + 1 } : Recording).advance n).1 + 1 <
            2 ^ 32 := by
          have hle := (@advance_spec { r with position := r.position + 1 } hnext n).1
          omega
        rw [hf, advance, hf]
        simp only [Option.bind_eq_bind, Option.bind_some, hlater, Word.addBelow?, if_pos hcount]

theorem onLine?_eq {line : Nat} (h : ∀ i ∈ r.index.onLine line, i < r.size) :
    r.onLine? line = some (r.onLine line) := by
  rw [onLine?, onLine]
  generalize r.index.onLine line = listed at h ⊢
  induction listed with
  | nil => rfl
  | cons i rest ih =>
      rw [List.forall_mem_cons] at h
      have hi : i < r.tokens.size := h.1
      have ht : r.tokens[i]? = some r.tokens[i] := Array.getElem?_eq_getElem hi
      rw [List.mapM_cons, ih h.2, ht, List.filterMap_cons, ht]
      rfl

end Recording

namespace Player

/-- There has to be a current token. -/
def describe? (p : Player) : Option Player := do
  let message ← p.recording.describe?
  some { p with message }

def start? (recording : Recording) : Option Player :=
  describe? ⟨recording, false, false, "Ready!"⟩

def stepped? (p : Player) (result : Except StepError Recording) : Option Player :=
  match result with
  | .ok recording => { p with recording, playing := false }.describe?
  | .error e => some { p with playing := false, message := "Cannot step: " ++ e.message }

def leap? (p : Player) (n : Nat) : Option Player := do
  let (steps, recording) ← p.recording.advance? n
  let landed ← describe? { p with recording, playing := false }
  if steps < n then
    some { landed with message := "Stepped forward " ++ toString steps ++ " token(s)" }
  else some landed

def tick? (p : Player) : Option Player :=
  if p.playing then do
    match ← p.recording.forward? with
    | .ok recording => describe? { p with recording }
    | .error _ => some { p with playing := false, message := "Playback complete" }
  else some p

/-- A turn in which the interval of auto-play has passed or not. -/
def pass? (p : Player) (due : Bool) : Option Player := if due then p.tick? else some p

def pressChar? (p : Player) (c : Char) : Option Player :=
  if c = 'q' ∨ c = 'Q' then some { p with quitting := true }
  else if '1' ≤ c ∧ c ≤ '9' then p.leap? (c.toNat - '0'.toNat)
  else if c = ' ' then some p.togglePlay
  else some p

/-- The other keys take no sum, and no difference but one that stops at zero. -/
def press? (p : Player) : Key → Option Player
  | .left => do p.stepped? (← p.recording.back?)
  | .right => do p.stepped? (← p.recording.forward?)
  | .char c => p.pressChar? c
  | key => some (p.press key)

variable {p : Player}

theorem describe?_eq (hp : p.recording.position < p.recording.size) :
    p.describe? = some p.describe := by
  have hin : p.recording.position < p.recording.tokens.size := hp
  have ht : p.recording.current? = some p.recording.tokens[p.recording.position] :=
    Array.getElem?_eq_getElem hin
  rw [describe?, describe, Recording.describe?, ht]
  rfl

theorem stepped?_eq {result : Except StepError Recording}
    (h : ∀ later, result = .ok later → later.position < later.size) :
    p.stepped? result = some (p.stepped result) := by
  cases result with
  | ok later => exact describe?_eq (h later rfl)
  | error e => rfl

section OnToken

variable (hp : p.recording.position < p.recording.size) (hs : p.recording.size < Word.count)
include hp hs

theorem next_lt : p.recording.position + 1 < Word.count := by omega

theorem leap?_eq {n : Nat} (hn : n < 2 ^ 32) : p.leap? n = some (p.leap n) := by
  obtain ⟨-, hlt, hr, -⟩ := Recording.advance_spec hp n
  rw [leap?, Recording.advance?_eq hp hs hn, leap]
  generalize p.recording.advance n = later at *
  obtain ⟨steps, last⟩ := later
  have hland : last.position < last.size := by
    simp only at hr hlt
    rw [hr]
    exact hlt
  have hd := @describe?_eq { p with recording := last, playing := false } hland
  simp only [Option.bind_eq_bind, Option.bind_some, hd]
  split <;> rfl

theorem tick?_eq : p.tick? = some p.tick := by
  rw [tick?, tick]
  by_cases hplaying : p.playing
  · rw [if_pos hplaying, if_pos hplaying, Recording.forward?_eq (next_lt hp hs)]
    cases hf : p.recording.forward with
    | ok later => exact describe?_eq (Recording.lt_of_forward hf)
    | error e => rfl
  · rw [if_neg hplaying, if_neg hplaying]

theorem pressChar?_eq (c : Char) : p.pressChar? c = some (p.pressChar c) := by
  unfold pressChar? pressChar
  split
  · rfl
  · split
    · rename_i hc
      have hnine : c.toNat ≤ '9'.toNat := hc.2
      have hn : c.toNat - '0'.toNat < 2 ^ 32 := by
        have hvalue : '9'.toNat < 2 ^ 32 := by decide
        omega
      exact leap?_eq hp hs hn
    · split <;> rfl

theorem press?_eq (key : Key) : p.press? key = some (p.press key) := by
  cases key with
  | left =>
      rw [press?, Recording.back?_eq]
      exact stepped?_eq fun later hl => Recording.lt_of_back hp hl
  | right =>
      rw [press?, Recording.forward?_eq (next_lt hp hs)]
      exact stepped?_eq fun later hl => Recording.lt_of_forward hl
  | char c => exact pressChar?_eq hp hs c
  | enter | backspace | up | down | tab | heldSpace | other => rfl

end OnToken

end Player

namespace TokenScroll

def follow? (scroll : TokenScroll) (visible position : Nat) : Option TokenScroll :=
  if scroll.followed = some position then some scroll
  else if position < scroll.offset then some ⟨position, some position⟩
  else do
    let stop ← Word.add? scroll.offset visible
    if stop ≤ position then
      let next ← Word.add? position 1
      let offset ← Word.sub? next visible
      some ⟨offset, some position⟩
    else some ⟨scroll.offset, some position⟩

def settle? (scroll : TokenScroll) (visible total position : Nat) : Option TokenScroll := do
  let scroll ← scroll.follow? visible position
  if visible < total then
    let bound ← Word.sub? total visible
    some { scroll with offset := min scroll.offset bound }
  else some { scroll with offset := 0 }

def down? (scroll : TokenScroll) : Option TokenScroll := do
  let offset ← Word.add? scroll.offset 1
  some { scroll with offset }

variable {scroll : TokenScroll} {visible total position : Nat}

theorem follow?_eq (ho : scroll.offset + visible < Word.count)
    (hp : position + 1 < Word.count) :
    scroll.follow? visible position = some (scroll.follow visible position) := by
  unfold follow? follow
  split
  · rfl
  · split
    · rfl
    · rw [Word.add?_of_lt ho, Word.add?_of_lt hp]
      by_cases h : scroll.offset + visible ≤ position
      · have hle : visible ≤ position + 1 := by omega
        simp [h, Word.sub?_of_le hle]
      · simp [h]

theorem settle?_eq (ho : scroll.offset + visible < Word.count)
    (hp : position + 1 < Word.count) :
    scroll.settle? visible total position = some (scroll.settle visible total position) := by
  rw [settle?, follow?_eq ho hp, settle, bound]
  by_cases h : visible < total
  · simp [h, Word.sub?_of_le (Nat.le_of_lt h)]
  · simp [h, Nat.sub_eq_zero_of_le (Nat.le_of_not_lt h)]

/-- A window with a row leaves the offset below the number of tokens. -/
theorem offset_settle_lt (hv : 0 < visible) (ht : 0 < total) :
    (scroll.settle visible total position).offset < total := by
  have hle : (scroll.settle visible total position).offset ≤ total - visible :=
    Nat.min_le_right _ _
  omega

theorem down?_eq (ho : scroll.offset + 1 < Word.count) : scroll.down? = some scroll.down := by
  rw [down?, Word.add?_of_lt ho]
  rfl

end TokenScroll

namespace SourceScroll

/-- The offset that holds a line on a row, or the old one where the text has no such line. -/
def hold? (scroll : SourceScroll) (total line row : Nat) : Option Nat :=
  if 0 < line ∧ line ≤ total then do
    let above ← Word.sub? line 1
    some (above - row)
  else some scroll.offset

def settle? (scroll : SourceScroll) (visible total line : Nat) : Option SourceScroll := do
  let row := min (scroll.target.getD (visible / 2)) (visible - 1)
  let offset ← scroll.hold? total line row
  if visible < total then
    let bound ← Word.sub? total visible
    some ⟨min offset bound, some row⟩
  else some ⟨0, some row⟩

def lower? (scroll : SourceScroll) : Option SourceScroll :=
  match scroll.target with
  | some row => do
      let lower ← Word.add? row 1
      some { scroll with target := some lower }
  | none => some scroll

variable {scroll : SourceScroll} {visible total line : Nat}

theorem hold?_eq {row : Nat} :
    scroll.hold? total line row =
      some (if 0 < line ∧ line ≤ total then line - 1 - row else scroll.offset) := by
  unfold hold?
  split
  · rename_i h
    rw [Word.sub?_of_le h.1]
    rfl
  · rfl

theorem settle?_eq :
    scroll.settle? visible total line = some (scroll.settle visible total line) := by
  rw [settle?, hold?_eq, settle]
  by_cases h : visible < total
  · simp [h, Word.sub?_of_le (Nat.le_of_lt h)]
  · simp [h]

theorem lower?_eq (h : ∀ row, scroll.target = some row → row + 1 < Word.count) :
    scroll.lower? = some scroll.lower := by
  unfold lower? lower
  split
  · rename_i row ht
    rw [Word.add?_of_lt (h row ht), ht]
    rfl
  · rename_i ht
    obtain ⟨offset, target⟩ := scroll
    cases ht
    rfl

end SourceScroll

namespace SourcePane

/-- The spans of a line from an index on. -/
def spansFrom? (line : List Char) (current cursor : Nat) :
    List (Nat × Token) → Option (List Span)
  | [] => do
      let left ← Word.slice? line cursor line.length
      some (gap left)
  | (i, token) :: rest => do
      let first := min (token.location.column - 1) line.length
      let stop ← Word.add? first token.width
      let last := min stop line.length
      if first < cursor then spansFrom? line current cursor rest
      else
        let before ← Word.slice? line cursor first
        let shown ← Word.slice? line first last
        let later ← spansFrom? line current last rest
        some (gap before ++ tokenSpan token.kind (i = current) shown :: later)

def spans? (r : Recording) (number : Nat) (line : List Char) : Option (List Span) := do
  spansFrom? line r.position 0 (← r.onLine? number)

/-- The spans of lines that follow on so many others. -/
def spansAfter? (r : Recording) (above : Nat) : List (List Char) → Option (List (List Span))
  | [] => some []
  | line :: rest => do
      let number ← Word.add? above 1
      let first ← spans? r number line
      let later ← spansAfter? r number rest
      some (first :: later)

theorem spansFrom?_eq {line : List Char} {current cursor : Nat} {ts : List (Nat × Token)}
    (hc : cursor ≤ line.length) (hw : ∀ m ∈ ts, line.length + m.2.width < Word.count) :
    spansFrom? line current cursor ts =
      some (spansFrom line.length current cursor (line.drop cursor) ts) := by
  induction ts generalizing cursor with
  | nil =>
      have hall : (line.drop cursor).take (line.length - cursor) = line.drop cursor := by
        rw [← List.length_drop, List.take_length]
      rw [spansFrom?, Word.slice?_of_le hc (Nat.le_refl _), hall]
      rfl
  | cons m ts ih =>
      obtain ⟨i, token⟩ := m
      rw [List.forall_mem_cons] at hw
      simp only [spansFrom?, spansFrom]
      generalize hfirst : min (token.location.column - 1) line.length = first
      have hle : first ≤ line.length := hfirst ▸ Nat.min_le_right _ _
      have hstop : first + token.width < Word.count :=
        Nat.lt_of_le_of_lt (Nat.add_le_add_right hle _) hw.1
      rw [Word.add?_of_lt hstop]
      generalize hlast : min (first + token.width) line.length = last
      have hlow : first ≤ last := by omega
      have hhigh : last ≤ line.length := hlast ▸ Nat.min_le_right _ _
      simp only [Option.bind_eq_bind, Option.bind_some, hlast]
      by_cases hpassed : first < cursor
      · rw [if_pos hpassed, if_pos hpassed]
        exact ih hc hw.2
      · have hnext := Nat.le_of_not_lt hpassed
        have hd : (line.drop cursor).drop (first - cursor) = line.drop first := by
          rw [List.drop_drop, Nat.add_sub_cancel' hnext]
        have hl : (line.drop first).drop (last - first) = line.drop last := by
          rw [List.drop_drop, Nat.add_sub_cancel' hlow]
        rw [if_neg hpassed, if_neg hpassed, Word.slice?_of_le hnext hle,
          Word.slice?_of_le hlow hhigh, ih hhigh hw.2, hd, hl]
        rfl

theorem spans?_eq {r : Recording} {number : Nat} {line : List Char}
    (hi : ∀ i ∈ r.index.onLine number, i < r.size)
    (hw : ∀ t ∈ r.tokens, line.length + t.width < Word.count) :
    spans? r number line = some (spans r number line) := by
  rw [spans?, Recording.onLine?_eq hi]
  apply spansFrom?_eq (Nat.zero_le _)
  intro m hm
  obtain ⟨i, -, ht⟩ := List.mem_filterMap.1 hm
  obtain ⟨t, hget, rfl⟩ := Option.map_eq_some_iff.1 ht
  exact hw t (Array.mem_of_getElem? hget)

/-- The spans of the lines in a window. -/
def spansAfter (r : Recording) (above : Nat) (lines : List (List Char)) : List (List Span) :=
  lines.mapIdx fun k line => spans r (above + 1 + k) line

theorem spansAfter?_eq {r : Recording} {above : Nat} {lines : List (List Char)}
    (hl : lines ≠ [] → above + lines.length < Word.count)
    (hi : ∀ number, ∀ i ∈ r.index.onLine number, i < r.size)
    (hw : ∀ line ∈ lines, ∀ t ∈ r.tokens, line.length + t.width < Word.count) :
    spansAfter? r above lines = some (spansAfter r above lines) := by
  induction lines generalizing above with
  | nil => rfl
  | cons line lines ih =>
      rw [List.forall_mem_cons] at hw
      have hall := hl (List.cons_ne_nil line lines)
      rw [List.length_cons] at hall
      have hnumber : above + 1 < Word.count := by omega
      have hrest : spansAfter? r (above + 1) lines = some (spansAfter r (above + 1) lines) :=
        ih (fun _ => by omega) hw.2
      rw [spansAfter?, Word.add?_of_lt hnumber]
      simp only [Option.bind_eq_bind, Option.bind_some, spans?_eq (hi _) hw.1, hrest]
      rw [spansAfter, spansAfter, List.mapIdx_cons]
      simp only [Nat.add_zero, Nat.add_assoc, Nat.add_comm 1]

end SourcePane

namespace View

/-- The keys that scroll add in a way that stops at the largest word. Here it must not come to
that. -/
def press? (view : View) : Key → Option View
  | .up => match view.focus with
      | .source => do
          let source ← view.source.lower?
          some { view with source }
      | .tokens => some { view with tokens := view.tokens.up }
  | .down => match view.focus with
      | .source => some { view with source := view.source.raise }
      | .tokens => do
          let tokens ← view.tokens.down?
          some { view with tokens }
  | key => some (view.press key)

end View

/-- Whether the status bar has the badge of the last token, which it has not while playing. -/
def StatusBar.ended? (r : Recording) (playing : Bool) : Option Bool :=
  if playing then some false else r.atEnd?

/-- What drawing computes beside the places of the windows. -/
structure Drawing where
  /-- The spans of the lines in the window of the source pane. -/
  lines : List (List Span)
  /-- The number of the current token in the status bar. -/
  number : Nat
  /-- Whether the status bar has the badge of the last token. -/
  ended : Bool

namespace Browser

def start? (recording : Recording) (text : String) (size : Size) : Option Browser := do
  let player ← Player.start? recording
  some ⟨player, .start text, size.limited⟩

def draw? (b : Browser) : Option (Browser × Drawing) := do
  let r := b.player.recording
  let visible := b.size.visibleRows
  let source ← b.view.source.settle? visible b.view.lines.length (SourcePane.currentLine r)
  let lines ← SourcePane.spansAfter? r source.offset
    ((b.view.lines.drop source.offset).take visible)
  let tokens ← b.view.tokens.settle? visible r.size r.position
  let number ← Word.add? r.position 1
  let ended ← StatusBar.ended? r b.player.playing
  some ({ b with view := { b.view with source, tokens } }, ⟨lines, number, ended⟩)

def press? (b : Browser) (key : Key) : Option Browser := do
  let player ← b.player.press? key
  let view ← b.view.press? key
  some { b with player, view }

def turn? (b : Browser) (due : Bool) (key : Option Key) : Option Browser := do
  let (drawn, _) ← b.draw?
  if drawn.player.quitting then some drawn
  else
    let player ← drawn.player.pass? due
    match key with
    | some key => press? { drawn with player } key
    | none => some { drawn with player }

def handle? (b : Browser) : Event → Option Browser
  | .resize size => some { b with size := size.limited }
  | .turn due key => b.turn? due key

def run? (b : Browser) (events : List Event) : Option Browser := events.foldlM handle? b

end Browser
end TokenScope
