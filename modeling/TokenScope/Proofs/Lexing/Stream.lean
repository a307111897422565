import TokenScope.Proofs.Lexing.Places
import TokenScope.Recording

/-!
A lexer's tokens as one stream. Asking for tokens one by one, for all of them, or for all
of them up to a limit moves along the same stream, which goes on with its end of input for
ever; the diagnostics a lexer already holds have no part in it.
-/

namespace TokenScope
namespace Lexer

/-- The first tokens a lexer gives. -/
def given : Lexer → Nat → List Token
  | _, 0 => []
  | lexer, n + 1 => lexer.next.1 :: lexer.next.2.given n

theorem length_given (lexer : Lexer) (n : Nat) : (lexer.given n).length = n := by
  induction n generalizing lexer with
  | zero => rfl
  | succ n ih => rw [given, List.length_cons, ih]

theorem getElem?_given (lexer : Lexer) {i n : Nat} (h : i < n) :
    (lexer.given n)[i]? = some (lexer.after i).next.1 := by
  induction i generalizing lexer n with
  | zero =>
      cases n with
      | zero => contradiction
      | succ n => rfl
  | succ i ih =>
      cases n with
      | zero => contradiction
      | succ n =>
          rw [given, List.getElem?_cons_succ, after_succ]
          exact ih lexer.next.2 (Nat.lt_of_succ_lt_succ h)

theorem after_add (lexer : Lexer) (m n : Nat) : lexer.after (m + n) = (lexer.after m).after n := by
  induction n with
  | zero => rfl
  | succ n ih =>
      change (lexer.after (m + n)).next.2 = _
      rw [ih]
      rfl

theorem given_add (lexer : Lexer) (m n : Nat) :
    lexer.given (m + n) = lexer.given m ++ (lexer.after m).given n := by
  induction m generalizing lexer with
  | zero => rw [Nat.zero_add]; rfl
  | succ m ih => rw [Nat.succ_add, given, given, ih, after_succ, List.cons_append]

theorem next_eq_endOfInput {lexer : Lexer} (h : lexer.next.1.isEnd) :
    lexer.next = (.endOfInput lexer.skip.location, lexer.skip) := by
  apply next_of_first?_eq_none
  rw [(isEnd_next_iff lexer).1 h]
  rfl

/-- At the end of input nothing changes any more. -/
theorem next_of_isEnd {lexer : Lexer} (h : lexer.next.1.isEnd) :
    lexer.next.2.next = (lexer.next.1, lexer.next.2) := by
  have hs : lexer.skip.unread = [] := (isEnd_next_iff lexer).1 h
  rw [next_eq_endOfInput h]
  generalize lexer.skip = ready at hs
  obtain ⟨unread, here, found⟩ := ready
  subst hs
  exact next_nil

theorem given_of_isEnd {lexer : Lexer} (h : lexer.next.1.isEnd) (n : Nat) :
    lexer.given n = List.replicate n lexer.next.1 := by
  cases n with
  | zero => rfl
  | succ n =>
      rw [given, List.replicate_succ]
      congr 1
      induction n with
      | zero => rfl
      | succ n ih => rw [given, next_of_isEnd h, ih, List.replicate_succ]

/-- Token by token to the end of input. -/
theorem stream_induction {motive : Lexer → Prop}
    (ending : ∀ lexer : Lexer, lexer.next.1.isEnd → motive lexer)
    (step : ∀ lexer : Lexer, ¬ lexer.next.1.isEnd → motive lexer.next.2 → motive lexer)
    (lexer : Lexer) : motive lexer := by
  induction hn : lexer.unread.length using Nat.strongRecOn generalizing lexer with
  | ind n ih =>
      by_cases he : lexer.next.1.isEnd
      · exact ending lexer he
      · apply step lexer he
        have hlt := length_next_lt he
        rw [hn] at hlt
        exact ih _ hlt lexer.next.2 rfl

theorem size_tokenize_of_not_isEnd {lexer : Lexer} (h : ¬ lexer.next.1.isEnd) :
    lexer.tokenize.1.size = lexer.next.2.tokenize.1.size + 1 := by
  rw [tokenize_of_not_isEnd h, Array.size_append, Nat.add_comm]
  rfl

theorem size_tokenize_pos (lexer : Lexer) : 0 < lexer.tokenize.1.size :=
  List.length_pos_iff.2 (tokenize_ne_nil lexer)

/-- Asking for all tokens is asking for the right number of them one by one. -/
theorem given_size_tokenize (lexer : Lexer) :
    lexer.given lexer.tokenize.1.size = lexer.tokenize.1.toList := by
  induction lexer using stream_induction with
  | ending lexer h =>
      rw [tokenize_of_isEnd h]
      rfl
  | step lexer h ih =>
      rw [size_tokenize_of_not_isEnd h, given, ih, tokenize_of_not_isEnd h, Array.toList_append]
      rfl

theorem next_after_of_getElem?_tokenize {lexer : Lexer} {i : Nat} {t : Token}
    (h : lexer.tokenize.1[i]? = some t) : (lexer.after i).next.1 = t := by
  have hn := lexer.getElem?_given (Array.getElem?_eq_some_iff.1 h).1
  rw [given_size_tokenize, Array.getElem?_toList] at hn
  exact Option.some.inj (hn.symm.trans h)

theorem after_size_tokenize (lexer : Lexer) :
    lexer.after lexer.tokenize.1.size = lexer.tokenize.2 := by
  induction lexer using stream_induction with
  | ending lexer h =>
      rw [tokenize_of_isEnd h]
      rfl
  | step lexer h ih =>
      rw [size_tokenize_of_not_isEnd h, after_succ, ih, tokenize_of_not_isEnd h]

/-- The limit counts the end of input; past it the lexer has given as many tokens as it says. -/
theorem drainWithin_eq (limit : Nat) (lexer : Lexer) (before : Array Token) :
    drainWithin limit lexer before =
      if before.size + lexer.tokenize.1.size ≤ limit then
        (.ok (before ++ lexer.tokenize.1), lexer.tokenize.2)
      else (.error ⟨limit⟩, lexer.after (limit - before.size)) := by
  induction lexer using stream_induction generalizing before with
  | ending lexer h =>
      rw [drainWithin, tokenize_of_isEnd h]
      by_cases hl : limit ≤ before.size
      · have hs : ¬ before.size + 1 ≤ limit := by omega
        have hz : limit - before.size = 0 := by omega
        simp [hl, hs, hz, after]
      · have hs : before.size + 1 ≤ limit := by omega
        simp [hl, hs, h]
  | step lexer h ih =>
      have hpos := size_tokenize_pos lexer.next.2
      rw [drainWithin, size_tokenize_of_not_isEnd h]
      by_cases hl : limit ≤ before.size
      · have hs : ¬ before.size + (lexer.next.2.tokenize.1.size + 1) ≤ limit := by omega
        have hz : limit - before.size = 0 := by omega
        simp [hl, hs, hz, after]
      · have hrest : limit - before.size = limit - (before.size + 1) + 1 := by omega
        have hsize : before.size + (lexer.next.2.tokenize.1.size + 1) =
            before.size + 1 + lexer.next.2.tokenize.1.size := by omega
        have hpush : before.push lexer.next.1 ++ lexer.next.2.tokenize.1 =
            before ++ (#[lexer.next.1] ++ lexer.next.2.tokenize.1) := by
          rw [Array.push_eq_append, Array.append_assoc]
        rw [if_neg hl]
        simp only [h, dite_false, Bool.false_eq_true, ih, Array.size_push]
        rw [hrest, after_succ, tokenize_of_not_isEnd h, hsize, hpush]

theorem collect_eq (lexer : Lexer) (limit : Nat) :
    lexer.collect limit =
      if lexer.tokenize.1.size ≤ limit then (.ok lexer.tokenize.1, lexer.tokenize.2)
      else (.error ⟨limit⟩, lexer.after limit) := by
  rw [collect, drainWithin_eq]
  simp

theorem record_eq (lexer : Lexer) (limit : Nat) :
    Recording.record lexer limit =
      if lexer.tokenize.1.size ≤ limit then
        .ok (.ofRun lexer.tokenize.1 lexer.tokenize.2.diagnostics)
      else .error ⟨limit⟩ := by
  rw [Recording.record, collect_eq]
  by_cases h : lexer.tokenize.1.size ≤ limit
  · rw [if_pos h, if_pos h]
  · rw [if_neg h, if_neg h]

theorem record_of_size_le {lexer : Lexer} {limit : Nat} (h : lexer.tokenize.1.size ≤ limit) :
    Recording.record lexer limit = .ok (.ofRun lexer.tokenize.1 lexer.tokenize.2.diagnostics) :=
  (record_eq lexer limit).trans (if_pos h)

theorem eq_ofRun_of_record {lexer : Lexer} {limit : Nat} {r : Recording}
    (h : Recording.record lexer limit = .ok r) :
    r = .ofRun lexer.tokenize.1 lexer.tokenize.2.diagnostics := by
  rw [record_eq] at h
  split at h
  · exact (Except.ok.inj h).symm
  · contradiction

/-- The end of input that a lexer comes to. -/
def ending (lexer : Lexer) : Token :=
  lexer.tokenize.1.toList.getLast (tokenize_ne_nil lexer)

theorem ending_of_isEnd {lexer : Lexer} (h : lexer.next.1.isEnd) :
    lexer.ending = lexer.next.1 := by
  simp [ending, tokenize_of_isEnd h]

theorem ending_of_not_isEnd {lexer : Lexer} (h : ¬ lexer.next.1.isEnd) :
    lexer.ending = lexer.next.2.ending := by
  simp only [ending, tokenize_of_not_isEnd h, Array.toList_append]
  exact List.getLast_append_of_ne_nil _ (tokenize_ne_nil lexer.next.2)

/-- The first of all tokens and then the end of input again and again. -/
def stream (lexer : Lexer) (n : Nat) : List Token :=
  (lexer.tokenize.1.toList ++ List.replicate n lexer.ending).take n

theorem given_eq_take (lexer : Lexer) {n k : Nat} (h : n ≤ k) :
    lexer.given n = (lexer.tokenize.1.toList ++ List.replicate k lexer.ending).take n := by
  induction lexer using stream_induction generalizing n with
  | ending lexer he =>
      rw [given_of_isEnd he, ending_of_isEnd he, tokenize_of_isEnd he]
      change _ = (List.replicate (k + 1) lexer.next.1).take n
      rw [List.take_replicate, Nat.min_eq_left (Nat.le_succ_of_le h)]
  | step lexer he ih =>
      cases n with
      | zero => rfl
      | succ n =>
          rw [given, ih (Nat.le_of_succ_le h), ending_of_not_isEnd he, tokenize_of_not_isEnd he,
            Array.toList_append]
          rfl

theorem given_eq_stream (lexer : Lexer) (n : Nat) : lexer.given n = lexer.stream n :=
  given_eq_take lexer (Nat.le_refl n)

theorem not_isEnd_of_mem_given {lexer : Lexer} {n : Nat} (h : n < lexer.tokenize.1.size) :
    ∀ t ∈ lexer.given n, ¬ t.isEnd := by
  induction lexer using stream_induction generalizing n with
  | ending lexer he =>
      rw [tokenize_of_isEnd he] at h
      obtain rfl : n = 0 := by simpa using h
      intro t ht
      contradiction
  | step lexer he ih =>
      rw [size_tokenize_of_not_isEnd he] at h
      cases n with
      | zero =>
          intro t ht
          contradiction
      | succ n =>
          rw [given, List.forall_mem_cons]
          exact ⟨he, ih (Nat.lt_of_succ_lt_succ h)⟩

section Preceded

variable (found : Array Diagnostic) (lexer : Lexer)

/-- The lexer with diagnostics in front of those it holds. -/
def preceded : Lexer := { lexer with diagnostics := found ++ lexer.diagnostics }

theorem preceded_empty : lexer.preceded #[] = lexer := by
  simp [preceded]

theorem preceded_preceded (earlier : Array Diagnostic) :
    (lexer.preceded found).preceded earlier = lexer.preceded (earlier ++ found) := by
  simp [preceded, Array.append_assoc]

theorem skip_preceded : (lexer.preceded found).skip = lexer.skip.preceded found := by
  have h (ds : List Diagnostic) : found ++ lexer.diagnostics ++ ds =
      found ++ (lexer.diagnostics ++ ds) := Array.ext' (by simp)
  simp only [skip, passing_eq, preceded, h]

theorem accept_preceded (lexeme : Lexeme) :
    (lexer.preceded found).accept lexeme = (lexer.accept lexeme).preceded found := by
  simp only [accept, preceded]
  cases lexeme.diagnostic? lexer.location <;> simp

/-- No token depends on the diagnostics found so far. -/
theorem next_preceded :
    (lexer.preceded found).next = (lexer.next.1, lexer.next.2.preceded found) := by
  have hu : (lexer.preceded found).skip.unread = lexer.skip.unread := by rw [skip_preceded]; rfl
  cases hf : Lexeme.first? lexer.skip.unread with
  | none =>
      rw [next_of_first?_eq_none hf, next_of_first?_eq_none (hu ▸ hf), skip_preceded]
      rfl
  | some lexeme =>
      rw [next_of_first?_eq_some hf, next_of_first?_eq_some (hu ▸ hf), skip_preceded,
        accept_preceded]
      rfl

theorem after_preceded (n : Nat) :
    (lexer.preceded found).after n = (lexer.after n).preceded found := by
  induction n with
  | zero => rfl
  | succ n ih => rw [after, ih, next_preceded, after]

theorem given_preceded (n : Nat) : (lexer.preceded found).given n = lexer.given n := by
  induction n generalizing lexer with
  | zero => rfl
  | succ n ih => rw [given, next_preceded, ih, given]

theorem tokenize_preceded :
    (lexer.preceded found).tokenize = (lexer.tokenize.1, lexer.tokenize.2.preceded found) := by
  induction lexer using stream_induction with
  | ending lexer h =>
      have hp : (lexer.preceded found).next.1.isEnd := by rwa [next_preceded]
      rw [tokenize_of_isEnd hp, tokenize_of_isEnd h, next_preceded]
  | step lexer h ih =>
      have hp : ¬ (lexer.preceded found).next.1.isEnd := by rwa [next_preceded]
      rw [tokenize_of_not_isEnd hp, tokenize_of_not_isEnd h, next_preceded, ih]

theorem collect_preceded (limit : Nat) :
    (lexer.preceded found).collect limit =
      ((lexer.collect limit).1, (lexer.collect limit).2.preceded found) := by
  rw [collect_eq, collect_eq, tokenize_preceded, after_preceded]
  by_cases h : lexer.tokenize.1.size ≤ limit
  · rw [if_pos h, if_pos h]
  · rw [if_neg h, if_neg h]

end Preceded

end Lexer
end TokenScope
