import TokenScope.Proofs.Lexing.Findings
import TokenScope.Proofs.Lexing.Requests

/-!
Errors of a recording. Whatever was asked of a lexer before it was recorded, each error token
of the recording has one diagnostic that stands where it does, the one of its own failure.
-/

namespace TokenScope

/-- Error tokens have their diagnostics, and no two diagnostics stand at one place. -/
structure Recording.Explained (r : Recording) : Prop where
  failures : ∀ t ∈ r.tokens, t.isError →
    ∃ d ∈ r.diagnostics, d.fault ≠ .unexpectedCharacter ∧ d.location = t.location
  ordered : r.diagnostics.toList.Pairwise fun d e => d.location.Before e.location

theorem Recording.Explained.eq_of_location_eq {r : Recording} (h : r.Explained) {d e : Diagnostic}
    (hd : d ∈ r.diagnostics) (he : e ∈ r.diagnostics) (hl : d.location = e.location) : d = e := by
  have hn : (r.diagnostics.toList.map (·.location)).Nodup :=
    List.pairwise_map.2 (h.ordered.imp fun hde => hde.ne)
  exact List.inj_on_of_nodup_map hn (Array.mem_toList_iff.2 hd) (Array.mem_toList_iff.2 he) hl

/-- A diagnostic is found by its place. -/
theorem Recording.Explained.find?_eq_some {r : Recording} (h : r.Explained) {d : Diagnostic}
    (hd : d ∈ r.diagnostics) :
    r.diagnostics.find? (fun e => e.location = d.location) = some d := by
  cases hs : r.diagnostics.find? fun e => e.location = d.location with
  | none =>
      rw [Array.find?_eq_none] at hs
      exact absurd (decide_eq_true rfl) (hs d hd)
  | some e =>
      have hl : e.location = d.location := by simpa using Array.find?_some hs
      rw [h.eq_of_location_eq (Array.mem_of_find?_eq_some hs) hd hl]

theorem Accounts.exists_failure {tokens : List Token} {found : List Diagnostic}
    (h : Accounts tokens found) {t : Token} (ht : t ∈ tokens) (he : t.isError) :
    ∃ d ∈ found, d.fault ≠ .unexpectedCharacter ∧ d.location = t.location := by
  have hm : t.location ∈ (tokens.filter (·.isError)).map (·.location) :=
    List.mem_map_of_mem (List.mem_filter.2 ⟨ht, he⟩)
  rw [← h.failures] at hm
  obtain ⟨d, hd, hl⟩ := List.mem_map.1 hm
  obtain ⟨hd, hf⟩ := List.mem_filter.1 hd
  exact ⟨d, hd, of_decide_eq_true hf, hl⟩

/-- Draining a lexer finds a failure for each error token it gives. -/
theorem Lexer.exists_failure {lexer : Lexer} {t : Token}
    (ht : t ∈ lexer.tokenize.1) (he : t.isError) :
    ∃ d ∈ lexer.tokenize.2.diagnostics,
      d.fault ≠ .unexpectedCharacter ∧ d.location = t.location := by
  obtain ⟨unread, here, found⟩ := lexer
  rw [tokenize_eq unread] at ht ⊢
  have hown := Piece.accounts here (Piece.sound_of_mem_pieces unread)
  rw [List.mem_toArray, List.mem_append, List.mem_singleton] at ht
  obtain ht | rfl := ht
  · obtain ⟨d, hd, hf⟩ := hown.exists_failure ht he
    refine ⟨d, ?_, hf⟩
    rw [← Array.mem_toList_iff, Array.toList_appendList]
    exact List.mem_append_right _ hd
  · contradiction

/-- Before recording, any of the requests may have been made, and diagnostics taken. -/
theorem Recording.explained_of_record {source : String} {requests : List Request} {lexer : Lexer}
    (hs : ((Session.ready (.ofString source)).run requests).2 = .ready lexer) {limit : Nat}
    {r : Recording} (hr : record lexer limit = .ok r) : r.Explained := by
  obtain ⟨n, hmoves⟩ := Session.exists_after_of_run hs
  generalize Request.takenBy requests ((Session.ready (.ofString source)).run requests).1 = taken
    at hmoves
  have hall := accounts_given source (n + lexer.tokenize.1.size)
  rw [Lexer.after_add, hmoves, Lexer.after_preceded, Lexer.after_size_tokenize] at hall
  obtain rfl := Lexer.eq_ofRun_of_record hr
  constructor
  case failures => exact fun t ht he => Lexer.exists_failure ht he
  case ordered =>
    have hord := hall.ordered
    simp only [Lexer.preceded, Array.toList_append] at hord
    exact (List.pairwise_append.1 hord).2.1

end TokenScope
