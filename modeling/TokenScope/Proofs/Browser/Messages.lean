import TokenScope.Proofs.Browser.Runs
import TokenScope.Proofs.Recording.Explained

/-!
Messages are never stale. Whatever was pressed and however far auto-play went, the message
describes the token under the cursor, or tells the state of auto-play, or says that the end was
reached at which the cursor stands.
-/

namespace TokenScope

/-- The message describes the current token: an error by the one diagnostic that stands where
the token does, any other token by its kind, its text and its place. -/
inductive Recording.Describes (r : Recording) : String → Prop
  | token {t : Token} (ht : r.current? = some t) (he : ¬ t.isError) :
      Describes r (t.render ++ " at " ++ t.location.render)
  | error {t : Token} {d : Diagnostic} (ht : r.current? = some t) (he : t.isError)
      (hd : d ∈ r.diagnostics) (hf : d.fault ≠ .unexpectedCharacter)
      (hl : d.location = t.location)
      (only : ∀ e ∈ r.diagnostics, e.location = t.location → e = d) :
      Describes r d.message

/-- The message tells how things are, given whether auto-play is on. -/
inductive UpToDate (r : Recording) : Bool → String → Prop
  | described {playing : Bool} {message : String} (h : r.Describes message) :
      UpToDate r playing message
  | plays : UpToDate r true "Playing..."
  | paused : UpToDate r false "Paused"
  | atEnd (h : r.position + 1 = r.size) {message : String} (hm : EndNote message) :
      UpToDate r false message
  | atStart (h : r.position = 0) {message : String} (hm : StartNote message) :
      UpToDate r false message

/-- While auto-play is on, nothing is said but that and what the current token is. -/
theorem UpToDate.of_playing {r : Recording} {message : String} (h : UpToDate r true message) :
    message = "Playing..." ∨ r.Describes message := by
  cases h with
  | described h => exact .inr h
  | plays => exact .inl rfl

namespace Recording

variable {q r : Recording}

/-- What is found for the current token is its description. -/
theorem describes_of_describe? (hr : r.Explained) (hq : q.BrowsedFrom r) {message : String}
    (h : q.describe? = some message) : q.Describes message := by
  obtain ⟨t, ht, hm⟩ := hq.exists_current
  have hfound : q.diagnostics = r.diagnostics := by rw [hq.same]
  rw [describe?, ht, Option.map_some, Option.some.injEq] at h
  rw [← h]
  by_cases he : t.isError
  · obtain ⟨d, hd, hf, hl⟩ := hr.failures t hm he
    have honly : ∀ e ∈ r.diagnostics, e.location = t.location → e = d := fun e he hle =>
      hr.eq_of_location_eq he hd (hle.trans hl.symm)
    have hfind := hr.find?_eq_some hd
    rw [hl] at hfind
    rw [if_pos he, hfound, hfind]
    exact .error ht he (hfound ▸ hd) hf hl (hfound ▸ honly)
  · rw [if_neg he]
    exact .token ht he

theorem describes_describe {p : Player} (hr : r.Explained) (hq : p.recording.BrowsedFrom r) :
    p.recording.Describes p.describe.message := by
  obtain ⟨t, ht, -⟩ := hq.exists_current
  obtain ⟨message, hm⟩ : ∃ message, p.recording.describe? = some message := by
    rw [describe?, ht]
    exact ⟨_, rfl⟩
  have hd := describes_of_describe? hr hq hm
  unfold Player.describe
  rwa [hm]

end Recording

/-- No key and no step of auto-play leaves a stale message behind. -/
theorem Player.Becomes.upToDate {r : Recording} (hr : r.Explained) {p later : Player}
    (hq : p.recording.BrowsedFrom r) (h : UpToDate p.recording p.playing p.message)
    (hb : p.Becomes later) : UpToDate later.recording later.playing later.message := by
  have hlater := hb.browsedFrom hq
  cases hb with
  | rests quitting => exact h
  | lands hi playing =>
      rw [recording_describe] at hlater ⊢
      exact .described (Recording.describes_describe hr hlater)
  | plays => exact .plays
  | pauses => exact .paused
  | ends hi hm => exact .atEnd hi hm
  | starts hs hm => exact .atStart rfl hm

/-- The message of a browser that was opened on a recording, its cursor on any token, and has
handled any events. -/
theorem message_upToDate {source : String} {requests : List Request} {lexer : Lexer}
    (hs : ((Session.ready (.ofString source)).run requests).2 = .ready lexer) {limit : Nat}
    {r : Recording} (hr : Recording.record lexer limit = .ok r) {position : Nat}
    (hp : position < r.size) (text : String) (size : Size) (events : List Event) :
    let p := ((Browser.start { r with position } text size).run events).player
    UpToDate p.recording p.playing p.message ∧
      (p.playing → p.message = "Playing..." ∨ p.recording.Describes p.message) := by
  intro p
  have he := Recording.explained_of_record hs hr
  have hplace := Recording.BrowsedFrom.place r hp
  have hstart : (Player.start { r with position }).recording.BrowsedFrom r := by
    rw [Player.start, Player.recording_describe]
    exact hplace
  have hfirst : UpToDate (Player.start { r with position }).recording
      (Player.start { r with position }).playing (Player.start { r with position }).message := by
    rw [Player.start, Player.recording_describe]
    exact .described (@Recording.describes_describe r ⟨{ r with position }, _, _, _⟩ he hplace)
  have hrun := (Browser.player_run (b := .start { r with position } text size)
    (motive := fun p => UpToDate p.recording p.playing p.message)
    (fun _ _ hq hu hb => hb.upToDate he hq hu) hstart hfirst events).2
  refine ⟨hrun, fun hplaying => ?_⟩
  rw [hplaying] at hrun
  exact hrun.of_playing

/-- A lexer that has given a token and lost its diagnostics is recorded; auto-play goes over an
error to the end, then nine steps are asked for. -/
theorem message_upToDate_broken_number :
    let requests : List Request := [.next, .takeDiagnostics]
    let events : List Event := [.turn false (some (.char ' ')), .turn true none,
      .turn true none, .turn false (some (.char '9'))]
    ∃ lexer r, ((Session.ready (.ofString "x @ 2e+ \"p")).run requests).2 = .ready lexer ∧
      Recording.record lexer 3 = .ok r ∧ 0 < r.size ∧
      let p := ((Browser.start { r with position := 0 } "" ⟨80, 24⟩).run events).player
      UpToDate p.recording p.playing p.message ∧
        (p.playing → p.message = "Playing..." ∨ p.recording.Describes p.message) := by
  intro requests events
  let lexer : Lexer := { (Lexer.ofString "x @ 2e+ \"p").next.2 with diagnostics := #[] }
  have hs : ((Session.ready (.ofString "x @ 2e+ \"p")).run requests).2 = .ready lexer := rfl
  have hsize : lexer.tokenize.1.size ≤ 3 := by decide +kernel
  have hr := (Lexer.record_eq lexer 3).trans (if_pos hsize)
  have hp : 0 < (Recording.ofRun lexer.tokenize.1 lexer.tokenize.2.diagnostics).size :=
    Lexer.size_tokenize_pos lexer
  exact ⟨lexer, _, hs, hr, hp, message_upToDate hs hr hp "" ⟨80, 24⟩ events⟩

end TokenScope
