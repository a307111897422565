import Mathlib.Data.List.Forall2
import TokenScope.Lexer.Session
import TokenScope.Proofs.Lexing.Stream

/-!
All ways of asking a lexer read one stream. Whatever the requests and their order, each gets
the sort of answer it asks for; the tokens answered are the first of the stream, those that a
failed request lost included, and the diagnostics shown, taken and left are those of reading as
far token by token. Looking at diagnostics, or taking them away, changes no other answer.
-/

namespace TokenScope

/-- What an answer tells of one token. -/
inductive Glimpse where
  | seen (token : Token)
  /-- Nothing came, for the end of input was reached. -/
  | ended
  /-- Read before the limit was hit, and dropped. -/
  | lost

def Glimpse.Of : Glimpse → Token → Prop
  | seen token, t => token = t
  | ended, t => t.isEnd
  | lost, t => ¬ t.isEnd

/-- The tokens an answer stands for, in order. -/
def Answer.glimpses : Answer → List Glimpse
  | token t => [.seen t]
  | item (some t) => [.seen t]
  | item none => [.ended]
  | tokens ts => ts.toList.map .seen
  | limitExceeded e => List.replicate e.limit .lost
  | diagnostics _ | recording _ | consumed => []

def Answer.handed (answers : List Answer) : List Glimpse := answers.flatMap glimpses

theorem Answer.handed_cons (answer : Answer) (answers : List Answer) :
    handed (answer :: answers) = answer.glimpses ++ handed answers := rfl

/-- The last of the tokens is the end of input, and no other is. -/
def EndsOnce (tokens : List Token) : Prop :=
  ∃ before t, tokens = before ++ [t] ∧ t.isEnd ∧ ∀ s ∈ before, ¬ s.isEnd

namespace Request

/-- The sort of answer that a request gets. A limit that is hit is named in the answer. -/
inductive AnsweredBy : Request → Answer → Prop
  | next (t : Token) : AnsweredBy .next (.token t)
  | item {found : Option Token} (h : ∀ t ∈ found, ¬ t.isEnd) : AnsweredBy .item (.item found)
  | tokenize {ts : Array Token} (h : EndsOnce ts.toList) : AnsweredBy .tokenize (.tokens ts)
  | within {limit : Nat} {ts : Array Token} (hl : ts.size ≤ limit) (h : EndsOnce ts.toList) :
      AnsweredBy (.collect limit) (.tokens ts)
  | exceeded (limit : Nat) : AnsweredBy (.collect limit) (.limitExceeded ⟨limit⟩)
  | diagnostics (found : Array Diagnostic) : AnsweredBy .diagnostics (.diagnostics found)
  | takeDiagnostics (found : Array Diagnostic) :
      AnsweredBy .takeDiagnostics (.diagnostics found)

/-- Whether a request asks for diagnostics and for no token. -/
def inspects : Request → Bool
  | diagnostics | takeDiagnostics => true
  | _ => false

/-- The diagnostics that an answer took away from the lexer. -/
def taken : Request → Answer → List Diagnostic
  | takeDiagnostics, .diagnostics found => found.toList
  | _, _ => []

end Request

theorem Glimpse.of_seen (ts : List Token) : List.Forall₂ Glimpse.Of (ts.map .seen) ts := by
  rw [List.forall₂_map_left_iff]
  exact List.forall₂_same.2 fun t _ => rfl

theorem Glimpse.of_lost {ts : List Token} (h : ∀ t ∈ ts, ¬ t.isEnd) :
    List.Forall₂ Glimpse.Of (List.replicate ts.length .lost) ts := by
  induction ts with
  | nil => exact .nil
  | cons t ts ih =>
      rw [List.forall_mem_cons] at h
      exact .cons h.1 (ih h.2)

theorem Lexer.endsOnce_tokenize (lexer : Lexer) : EndsOnce lexer.tokenize.1.toList := by
  induction lexer using stream_induction with
  | ending lexer h =>
      rw [tokenize_of_isEnd h]
      exact ⟨[], lexer.next.1, rfl, h, fun s hs => by contradiction⟩
  | step lexer h ih =>
      obtain ⟨before, t, heq, ht, hbefore⟩ := ih
      rw [tokenize_of_not_isEnd h, Array.toList_append, heq]
      exact ⟨lexer.next.1 :: before, t, rfl, ht, List.forall_mem_cons.2 ⟨h, hbefore⟩⟩

/-- What an answer to one request has to do with the stream and with the diagnostics. -/
structure Answered (lexer : Lexer) (request : Request) (answer : Answer) (later : Lexer) :
    Prop where
  answers : lexer.answer request = (answer, .ready later)
  fits : request.AnsweredBy answer
  tokens : List.Forall₂ Glimpse.Of answer.glimpses (lexer.given answer.glimpses.length)
  /-- The lexer moved as many tokens on, and what was taken is all that it lacks. -/
  moves : lexer.after answer.glimpses.length =
    later.preceded (request.taken answer).toArray
  indifferent : ¬ request.inspects → ∀ found,
    (lexer.preceded found).answer request = (answer, .ready (later.preceded found))

namespace Answered

theorem next (lexer : Lexer) :
    Answered lexer .next (.token lexer.next.1) lexer.next.2 where
  answers := rfl
  fits := .next _
  tokens := Glimpse.of_seen [lexer.next.1]
  moves := (Lexer.preceded_empty _).symm
  indifferent := by
    intro _ found
    simp only [Lexer.answer, Lexer.next_preceded]

theorem item (lexer : Lexer) :
    Answered lexer .item (.item lexer.item.1) lexer.next.2 where
  answers := rfl
  fits := by
    refine .item fun t ht he => ?_
    by_cases h : lexer.next.1.isEnd
    · simp [Lexer.item, h] at ht
    · simp only [Lexer.item, h, Option.mem_def] at ht
      obtain rfl := Option.some.inj ht
      exact h he
  tokens := by
    by_cases h : lexer.next.1.isEnd
    · simp only [Lexer.item, h, if_true]
      exact .cons h .nil
    · simp only [Lexer.item, h]
      exact .cons rfl .nil
  moves := by
    have hone : (Answer.item lexer.item.1).glimpses.length = 1 := by
      cases lexer.item.1 <;> rfl
    rw [hone]
    exact (Lexer.preceded_empty _).symm
  indifferent := by
    intro _ found
    simp only [Lexer.answer, Lexer.item, Lexer.next_preceded]

theorem tokenize (lexer : Lexer) :
    Answered lexer .tokenize (.tokens lexer.tokenize.1) lexer.tokenize.2 := by
  have hsize : (Answer.tokens lexer.tokenize.1).glimpses.length = lexer.tokenize.1.size :=
    List.length_map _
  constructor
  case answers => rfl
  case fits => exact .tokenize lexer.endsOnce_tokenize
  case tokens =>
    rw [hsize, Lexer.given_size_tokenize]
    exact Glimpse.of_seen _
  case moves =>
    rw [hsize, Lexer.after_size_tokenize]
    exact (Lexer.preceded_empty _).symm
  case indifferent =>
    intro _ found
    simp only [Lexer.answer, Lexer.tokenize_preceded]

/-- Within the limit, collecting is asking for all tokens. -/
theorem collect {lexer : Lexer} {limit : Nat} (h : lexer.tokenize.1.size ≤ limit) :
    Answered lexer (.collect limit) (.tokens lexer.tokenize.1) lexer.tokenize.2 := by
  have hall := tokenize lexer
  have hc : lexer.collect limit = (.ok lexer.tokenize.1, lexer.tokenize.2) := by
    rw [Lexer.collect_eq, if_pos h]
  constructor
  case answers => simp only [Lexer.answer, hc]
  case fits => exact .within h lexer.endsOnce_tokenize
  case tokens => exact hall.tokens
  case moves => exact hall.moves
  case indifferent =>
    intro _ found
    simp only [Lexer.answer, Lexer.collect_preceded, hc]

/-- Past the limit as many tokens are lost as it allows, and none of them ends the input. -/
theorem collect_exceeded {lexer : Lexer} {limit : Nat} (h : limit < lexer.tokenize.1.size) :
    Answered lexer (.collect limit) (.limitExceeded ⟨limit⟩) (lexer.after limit) := by
  have hc : lexer.collect limit = (.error ⟨limit⟩, lexer.after limit) := by
    rw [Lexer.collect_eq, if_neg (Nat.not_le_of_lt h)]
  have hsize : (Answer.limitExceeded ⟨limit⟩).glimpses.length = limit := List.length_replicate
  constructor
  case answers => simp only [Lexer.answer, hc]
  case fits => exact .exceeded limit
  case tokens =>
    rw [hsize]
    have hl := Glimpse.of_lost (Lexer.not_isEnd_of_mem_given h)
    rwa [Lexer.length_given] at hl
  case moves =>
    rw [hsize]
    exact (Lexer.preceded_empty _).symm
  case indifferent =>
    intro _ found
    simp only [Lexer.answer, Lexer.collect_preceded, hc]

theorem diagnostics (lexer : Lexer) :
    Answered lexer .diagnostics (.diagnostics lexer.diagnostics) lexer where
  answers := rfl
  fits := .diagnostics _
  tokens := .nil
  moves := (Lexer.preceded_empty _).symm
  indifferent h := absurd rfl h

theorem takeDiagnostics (lexer : Lexer) :
    Answered lexer .takeDiagnostics (.diagnostics lexer.diagnostics)
      { lexer with diagnostics := #[] } where
  answers := rfl
  fits := .takeDiagnostics _
  tokens := .nil
  moves := by simp [Answer.glimpses, Lexer.after, Lexer.preceded, Request.taken]
  indifferent h := absurd rfl h

end Answered

/-- Every request but that for a recording leaves a lexer, which gave its answer from the
stream. -/
theorem exists_answered (lexer : Lexer) (request : Request)
    (h : ∀ limit, request ≠ .record limit) :
    ∃ answer later, Answered lexer request answer later := by
  cases request with
  | next => exact ⟨_, _, .next lexer⟩
  | item => exact ⟨_, _, .item lexer⟩
  | tokenize => exact ⟨_, _, .tokenize lexer⟩
  | diagnostics => exact ⟨_, _, .diagnostics lexer⟩
  | takeDiagnostics => exact ⟨_, _, .takeDiagnostics lexer⟩
  | collect limit =>
      by_cases hl : lexer.tokenize.1.size ≤ limit
      · exact ⟨_, _, .collect hl⟩
      · exact ⟨_, _, .collect_exceeded (Nat.lt_of_not_le hl)⟩
  | record limit => exact absurd rfl (h limit)

/-- All the diagnostics that a run of requests took away. -/
def Request.takenBy (requests : List Request) (answers : List Answer) : List Diagnostic :=
  (requests.zip answers).flatMap fun (request, answer) => request.taken answer

theorem run_cons {lexer later : Lexer} {request : Request} {answer : Answer}
    (h : Answered lexer request answer later) (requests : List Request) :
    (Session.ready lexer).run (request :: requests) =
      (answer :: ((Session.ready later).run requests).1,
        ((Session.ready later).run requests).2) := by
  simp only [Session.run, Session.answer, h.answers]

/-- Each request of a run gets its sort of answer. -/
theorem run_answered (lexer : Lexer) {requests : List Request}
    (h : ∀ limit, .record limit ∉ requests) :
    List.Forall₂ Request.AnsweredBy requests ((Session.ready lexer).run requests).1 := by
  induction requests generalizing lexer with
  | nil => exact .nil
  | cons request requests ih =>
      obtain ⟨answer, later, ha⟩ := exists_answered lexer request
        fun limit he => h limit (he ▸ .head _)
      rw [run_cons ha]
      exact .cons ha.fits (ih later fun limit hm => h limit (.tail _ hm))

/-- What a run of requests has to do with the stream and with the diagnostics. -/
theorem run_simulates (lexer : Lexer) {requests : List Request}
    (h : ∀ limit, .record limit ∉ requests) :
    let (answers, session) := (Session.ready lexer).run requests
    let handed := Answer.handed answers
    ∃ last, session = .ready last ∧
      List.Forall₂ Glimpse.Of handed (lexer.given handed.length) ∧
      lexer.after handed.length = last.preceded (Request.takenBy requests answers).toArray := by
  induction requests generalizing lexer with
  | nil => exact ⟨lexer, rfl, .nil, (Lexer.preceded_empty lexer).symm⟩
  | cons request requests ih =>
      obtain ⟨answer, later, ha⟩ := exists_answered lexer request
        fun limit he => h limit (he ▸ .head _)
      obtain ⟨last, hlast, htokens, hmoves⟩ := ih later fun limit hm => h limit (.tail _ hm)
      rw [run_cons ha]
      refine ⟨last, hlast, ?_, ?_⟩
      · have hg := Lexer.given_preceded (request.taken answer).toArray later
        rw [Answer.handed_cons, List.length_append, Lexer.given_add, ha.moves, hg]
        exact List.rel_append ha.tokens htokens
      · rw [Answer.handed_cons, List.length_append, Lexer.after_add, ha.moves,
          Lexer.after_preceded, hmoves, Lexer.preceded_preceded]
        simp [Request.takenBy]

namespace Session

theorem run_consumed (requests : List Request) : (consumed.run requests).2 = consumed := by
  induction requests with
  | nil => rfl
  | cons request requests ih => exact ih

/-- A lexer that is left was never recorded. -/
theorem record_not_mem_of_run {lexer last : Lexer} {requests : List Request}
    (h : ((ready lexer).run requests).2 = ready last) (limit : Nat) :
    .record limit ∉ requests := by
  induction requests generalizing lexer with
  | nil => exact List.not_mem_nil
  | cons request requests ih =>
      cases hs : (lexer.answer request).2 with
      | consumed =>
          have hrun : ((ready lexer).run (request :: requests)).2 = consumed := by
            simp only [run, answer, hs, run_consumed]
          rw [hrun] at h
          contradiction
      | ready later =>
          have hne : request ≠ .record limit := by
            rintro rfl
            simp only [Lexer.answer] at hs
            split at hs <;> contradiction
          simp only [run, answer, hs] at h
          rw [List.mem_cons, not_or]
          exact ⟨hne.symm, ih h⟩

/-- The lexer that a run leaves is the one before it some tokens on, but for the diagnostics
that were taken. -/
theorem exists_after_of_run {lexer last : Lexer} {requests : List Request}
    (h : ((ready lexer).run requests).2 = ready last) :
    ∃ n, lexer.after n =
      last.preceded (Request.takenBy requests ((ready lexer).run requests).1).toArray := by
  obtain ⟨reached, hreached, -, hmoves⟩ := run_simulates lexer (record_not_mem_of_run h)
  obtain rfl : last = reached := ready.inj (h.symm.trans hreached)
  exact ⟨_, hmoves⟩

end Session

/-- The answers to those requests that do not look at diagnostics. -/
def Request.otherAnswers (requests : List Request) (answers : List Answer) : List Answer :=
  ((requests.zip answers).filter fun entry => !entry.1.inspects).map Prod.snd

theorem otherAnswers_cons {request : Request} {requests : List Request} {answer : Answer}
    {answers : List Answer} :
    Request.otherAnswers (request :: requests) (answer :: answers) =
      if request.inspects then Request.otherAnswers requests answers
      else answer :: Request.otherAnswers requests answers := by
  cases h : request.inspects <;> simp [Request.otherAnswers, h]

/-- Without the requests that look at diagnostics the others are answered as before, however
many diagnostics are left to them. -/
theorem run_filter (lexer : Lexer) (found : Array Diagnostic) {requests : List Request}
    (h : ∀ limit, .record limit ∉ requests) :
    ((Session.ready (lexer.preceded found)).run (requests.filter fun q => !q.inspects)).1 =
      Request.otherAnswers requests ((Session.ready lexer).run requests).1 := by
  induction requests generalizing lexer found with
  | nil => rfl
  | cons request requests ih =>
      have hrest : ∀ limit, .record limit ∉ requests := fun limit hm => h limit (.tail _ hm)
      by_cases hi : request.inspects
      · rw [List.filter_cons_of_neg (by simp [hi])]
        cases request with
        | diagnostics =>
            rw [run_cons (.diagnostics lexer), otherAnswers_cons, if_pos hi]
            exact ih lexer found hrest
        | takeDiagnostics =>
            have hp : lexer.preceded found =
                Lexer.preceded (found ++ lexer.diagnostics) { lexer with diagnostics := #[] } := by
              simp [Lexer.preceded]
            rw [run_cons (.takeDiagnostics lexer), otherAnswers_cons, if_pos hi, hp]
            exact ih _ _ hrest
        | next | item | tokenize | collect _ | record _ => contradiction
      · obtain ⟨answer, later, ha⟩ := exists_answered lexer request
          fun limit he => h limit (he ▸ .head _)
        rw [List.filter_cons_of_pos (by simp [hi]), run_cons ha, otherAnswers_cons, if_neg hi]
        simp only [Session.run, Session.answer, ha.indifferent hi]
        rw [ih later found hrest]

/-- A request in a run is answered by the session that those before it have left. -/
theorem Session.getElem?_run (session : Session) (requests : List Request) (i : Nat) :
    (session.run requests).1[i]? =
      requests[i]?.map fun request => ((session.run (requests.take i)).2.answer request).1 := by
  induction requests generalizing session i with
  | nil => rfl
  | cons request requests ih =>
      cases i with
      | zero => rfl
      | succ i => exact ih (session.answer request).2 i

theorem Session.take_run (session : Session) (requests : List Request) (i : Nat) :
    (session.run requests).1.take i = (session.run (requests.take i)).1 := by
  induction requests generalizing session i with
  | nil => rw [List.take_nil, run, List.take_nil]
  | cons request requests ih =>
      cases i with
      | zero => rfl
      | succ i =>
          simp only [run, List.take_succ_cons]
          rw [ih]

/-- An answer with diagnostics has those that the lexer holds. -/
theorem Lexer.eq_of_answer_diagnostics {lexer : Lexer} {request : Request}
    {found : Array Diagnostic} (h : (lexer.answer request).1 = .diagnostics found) :
    found = lexer.diagnostics := by
  cases request with
  | diagnostics | takeDiagnostics => exact (Answer.diagnostics.inj h).symm
  | next | item | tokenize => contradiction
  | collect limit | record limit =>
      simp only [Lexer.answer] at h
      split at h <;> contradiction

/-- The answers to a run of requests on a fresh lexer, which is left as `last`. -/
structure OneStream (fresh : Lexer) (requests : List Request) (answers : List Answer)
    (last : Lexer) : Prop where
  answered : List.Forall₂ Request.AnsweredBy requests answers
  /-- The tokens handed out or lost are the first of the stream. -/
  tokens : List.Forall₂ Glimpse.Of (Answer.handed answers)
    (fresh.stream (Answer.handed answers).length)
  /-- What a request is shown and what was taken before it was found by reading as many tokens
  as the answers before it stand for. -/
  shown : ∀ i found, answers[i]? = some (.diagnostics found) →
    Request.takenBy (requests.take i) (answers.take i) ++ found.toList =
      (fresh.after (Answer.handed (answers.take i)).length).diagnostics.toList
  /-- What was taken and what is left was found by reading as many tokens. -/
  diagnostics : Request.takenBy requests answers ++ last.diagnostics.toList =
    (fresh.after (Answer.handed answers).length).diagnostics.toList
  indifferent :
    ((Session.ready fresh).run (requests.filter fun q => !q.inspects)).1 =
      Request.otherAnswers requests answers

/-- However a lexer is asked, it reads one stream. -/
theorem run_oneStream (source : String) (requests : List Request)
    (h : ∀ limit, .record limit ∉ requests) :
    let (answers, session) := (Session.ready (.ofString source)).run requests
    ∃ last, session = .ready last ∧ OneStream (.ofString source) requests answers last := by
  obtain ⟨last, hlast, htokens, hmoves⟩ := run_simulates (.ofString source) h
  refine ⟨last, hlast, ?_⟩
  constructor
  case answered => exact run_answered _ h
  case tokens =>
    rwa [← Lexer.given_eq_stream]
  case shown =>
    intro i found hi
    obtain ⟨held, hheld, -, hbefore⟩ := run_simulates (.ofString source)
      fun limit hm => h limit (List.mem_of_mem_take hm)
    rw [Session.getElem?_run, hheld, Option.map_eq_some_iff] at hi
    obtain ⟨request, -, hanswer⟩ := hi
    rw [Session.take_run, hbefore, Lexer.eq_of_answer_diagnostics hanswer]
    simp [Lexer.preceded]
  case diagnostics =>
    rw [hmoves]
    simp [Lexer.preceded]
  case indifferent =>
    have hf := run_filter (.ofString source) #[] h
    rwa [Lexer.preceded_empty] at hf

/-- Seven requests, two of which run into the end and one into its limit. -/
theorem run_oneStream_broken_numbers :
    let requests : List Request :=
      [.item, .takeDiagnostics, .collect 2, .diagnostics, .tokenize, .item, .next]
    (∀ limit, .record limit ∉ requests) ∧
    ∃ last, ((Session.ready (.ofString "0x @ 12.\n\"p")).run requests).2 = .ready last ∧
      OneStream (.ofString "0x @ 12.\n\"p") requests
        ((Session.ready (.ofString "0x @ 12.\n\"p")).run requests).1 last := by
  intro requests
  have h : ∀ limit, .record limit ∉ requests := by
    intro limit
    simp [requests]
  exact ⟨h, run_oneStream "0x @ 12.\n\"p" requests h⟩

end TokenScope
