import TokenScope.Proofs.Tree.Chains
import TokenScope.Tree.Shelf
import TokenScope.Tree.Stmt

/-!
Chains under names work as plain sequences under names, each in the order of growth. A push
adds at the end; the newest item is the last; what a split keeps apart is all but the last;
chains agree when their sequences do, item by item to a common end. A copy agrees with its
original, and neither shows what is done to the other.
-/

namespace TokenScope

/-- A name that is not there has the empty sequence. -/
def Sequences (α : Type) : Type := String → List α

namespace Sequences

variable {α : Type}

def put (held : Sequences α) (name : String) (items : List α) : Sequences α :=
  fun other => if other = name then items else held other

/-- Only a sequence with items can be acted on. -/
def act (held : Sequences α) (name : String)
    (deed : List α → Shelf.Answer α × Sequences α) : Shelf.Answer α × Sequences α :=
  if (held name).isEmpty then (.missing, held) else deed (held name)

def perform (copyItem : α → α) (agree : α → α → Bool) (held : Sequences α) :
    Shelf.Command α → Shelf.Answer α × Sequences α
  | .push name item =>
      let items := held name ++ [item]
      (.size items.length, held.put name items)
  | .pushMany name count item =>
      let items := held name ++ List.replicate count item
      (.size items.length, held.put name items)
  | .drop name => (.flag (!(held name).isEmpty), held.put name [])
  | .agree name other =>
      (.flag (Chain.agreeThroughout agree (held name) (held other)), held)
  | .size name => held.act name fun items => (.extent items.length false, held)
  | .newestFirst name => held.act name fun items => (.items items.reverse, held)
  | .inOrder name => held.act name fun items => (.items items, held)
  | .copies name => held.act name fun items => (.items (items.map copyItem), held)
  | .newest name => held.act name fun items => (items.getLast?.elim .missing .item, held)
  | .chain name =>
      held.act name fun items => ((Chain.ofList? items).elim .missing .chain, held)
  | .replaceNewest name item =>
      held.act name fun items => (.item item, held.put name (items.dropLast ++ [item]))
  | .copy name target =>
      held.act name fun items => (.size items.length, held.put target (items.map copyItem))
  | .split name target =>
      held.act name fun items =>
        (.size items.dropLast.length,
          (held.put name items.getLast?.toList).put target items.dropLast)

def run (copyItem : α → α) (agree : α → α → Bool) (held : Sequences α) :
    List (Shelf.Command α) → List (Shelf.Answer α) × Sequences α
  | [] => ([], held)
  | command :: rest =>
      let (first, later) := held.perform copyItem agree command
      let (answers, last) := later.run copyItem agree rest
      (first :: answers, last)

end Sequences

namespace Shelf

variable {α : Type} (copyItem : α → α) (agree : α → α → Bool) (shelf : Shelf α)

def sequences : Sequences α := fun name => Chain.sequence (shelf.get? name)

/-- The names whose chains a command may change. -/
def Command.written : Command α → List String
  | .push name _ | .pushMany name _ _ | .drop name | .replaceNewest name _ => [name]
  | .copy _ target => [target]
  | .split name target => [name, target]
  | .agree _ _ | .size _ | .newestFirst _ | .inOrder _ | .copies _ | .newest _ | .chain _ => []

theorem lookup_cons_eq {entries : List (String × Chain α)} (key name : String)
    (chain : Chain α) :
    ((key, chain) :: entries).lookup name =
      if name = key then some chain else entries.lookup name := by
  by_cases h : name = key
  · simp [h]
  · have hb : (name == key) = false := beq_false_of_ne h
    simp [List.lookup_cons, hb, h]

theorem lookup_others (entries : List (String × Chain α)) (name other : String) :
    (entries.filter fun entry => entry.1 ≠ name).lookup other =
      if other = name then none else entries.lookup other := by
  induction entries with
  | nil => simp
  | cons entry entries ih =>
      obtain ⟨key, chain⟩ := entry
      by_cases hkey : key = name
      · rw [List.filter_cons_of_neg (by simpa using hkey), ih, lookup_cons_eq]
        split <;> simp_all
      · rw [List.filter_cons_of_pos (by simpa using hkey), lookup_cons_eq, ih, lookup_cons_eq]
        split <;> simp_all

theorem get?_put (name other : String) (chain : Option (Chain α)) :
    (shelf.put name chain).get? other = if other = name then chain else shelf.get? other := by
  have hothers := lookup_others shelf.entries name other
  cases chain with
  | none => exact hothers
  | some chain =>
      simp only [put, get?, lookup_cons_eq, hothers]
      split <;> rfl

theorem sequences_put (name : String) (chain : Option (Chain α)) :
    (shelf.put name chain).sequences = shelf.sequences.put name (Chain.sequence chain) := by
  funext other
  change Chain.sequence ((shelf.put name chain).get? other) = _
  rw [get?_put, Sequences.put]
  split <;> rfl

/-- What acts on a sequence acts on the chain of that name, if there is one. -/
theorem act_sequences {name : String} {deed : List α → Answer α × Sequences α} :
    shelf.sequences.act name deed =
      match shelf.get? name with
      | none => (.missing, shelf.sequences)
      | some chain => deed chain.inOrder := by
  simp only [Sequences.act, sequences, Chain.isEmpty_sequence]
  cases shelf.get? name <;> rfl

theorem ask_sequences {name : String} {deed : List α → Answer α} {answer : Chain α → Answer α}
    (h : ∀ chain : Chain α, deed chain.inOrder = answer chain) :
    (shelf.sequences.act name fun items => (deed items, shelf.sequences)) =
      (shelf.ask name answer, shelf.sequences) := by
  rw [act_sequences, ask]
  cases shelf.get? name with
  | none => rfl
  | some chain => exact congrArg (·, shelf.sequences) (h chain)

theorem sequence_pushCopies (item : α) (count : Nat) (chain : Option (Chain α)) :
    Chain.sequence (pushCopies item count chain) =
      Chain.sequence chain ++ List.replicate count item := by
  induction count generalizing chain with
  | zero => simp [pushCopies]
  | succ count ih =>
      rw [pushCopies, ih, Chain.sequence_push, List.append_assoc, List.replicate_succ]
      rfl

theorem sizeOf_eq (chain : Option (Chain α)) :
    sizeOf chain = (Chain.sequence chain).length := by
  cases chain with
  | none => rfl
  | some chain => exact chain.size_eq

theorem agreeAt_eq (chain other : Option (Chain α)) :
    agreeAt agree chain other =
      Chain.agreeThroughout agree (Chain.sequence chain) (Chain.sequence other) := by
  -- a chain that is there has an item, which the sequence of an absent one lacks
  cases chain with
  | none =>
      cases other with
      | none => rfl
      | some other =>
          refine (Chain.agreeThroughout_of_length_ne agree ?_).symm
          exact fun h => other.inOrder_ne_nil (List.length_eq_zero_iff.1 h.symm)
  | some chain =>
      cases other with
      | none =>
          refine (Chain.agreeThroughout_of_length_ne agree ?_).symm
          exact fun h => chain.inOrder_ne_nil (List.length_eq_zero_iff.1 h)
      | some other => exact chain.same_eq agree other

/-- A command does to the sequences what it does to the chains, and its answer is the same. -/
theorem perform_sequences (command : Command α) :
    shelf.sequences.perform copyItem agree command =
      ((shelf.performWith copyItem agree command).1,
        (shelf.performWith copyItem agree command).2.sequences) := by
  cases command with
  | push name item =>
      have hpush : (Chain.push item (shelf.get? name)).inOrder = shelf.sequences name ++ [item] :=
        Chain.sequence_push item (shelf.get? name)
      simp only [Sequences.perform, performWith, sequences_put, Chain.size_eq, hpush,
        Chain.sequence_some]
  | pushMany name count item =>
      have hpush := sequence_pushCopies item count (shelf.get? name)
      simp only [Sequences.perform, performWith, sequences_put, sizeOf_eq, hpush, sequences]
  | drop name =>
      have hempty : (shelf.sequences name).isEmpty = (shelf.get? name).isNone :=
        Chain.isEmpty_sequence (shelf.get? name)
      simp [Sequences.perform, performWith, sequences_put, hempty]
  | agree name other =>
      simp only [Sequences.perform, performWith, agreeAt_eq, sequences]
  | size name =>
      rw [Sequences.perform, performWith]
      exact ask_sequences shelf fun chain => by rw [chain.size_eq, Chain.isEmpty]
  | newestFirst name =>
      rw [Sequences.perform, performWith]
      exact ask_sequences shelf fun chain => by rw [chain.newestFirst_eq]
  | inOrder name => exact ask_sequences shelf fun _ => rfl
  | copies name =>
      rw [Sequences.perform, performWith]
      exact ask_sequences shelf fun _ => rfl
  | newest name =>
      rw [Sequences.perform, performWith]
      exact ask_sequences shelf fun chain => by rw [chain.getLast?_inOrder]; rfl
  | chain name =>
      rw [Sequences.perform, performWith]
      exact ask_sequences shelf fun chain => by rw [chain.ofList?_inOrder]; rfl
  | replaceNewest name item =>
      rw [Sequences.perform, act_sequences, performWith]
      cases shelf.get? name with
      | none => rfl
      | some chain => simp [sequences_put, Chain.inOrder_replaceNewest]
  | copy name target =>
      rw [Sequences.perform, act_sequences, performWith]
      cases shelf.get? name with
      | none => rfl
      | some chain => simp [sequences_put, Chain.size_eq, Chain.inOrder_copy]
  | split name target =>
      rw [Sequences.perform, act_sequences, performWith]
      cases shelf.get? name with
      | none => rfl
      | some chain =>
          simp [sequences_put, sizeOf_eq, Chain.sequence_older?, Chain.getLast?_inOrder]

theorem run_sequences (commands : List (Command α)) :
    shelf.sequences.run copyItem agree commands =
      ((shelf.run copyItem agree commands).1, (shelf.run copyItem agree commands).2.sequences) := by
  induction commands generalizing shelf with
  | nil => rfl
  | cons command rest ih => simp only [Sequences.run, run, perform_sequences, ih]

/-- A command leaves alone the chains that it does not write. -/
theorem get?_performWith {command : Command α} {name : String} (h : name ∉ command.written) :
    (shelf.performWith copyItem agree command).2.get? name = shelf.get? name := by
  cases command with
  | push | pushMany | drop =>
      rw [Command.written, List.mem_singleton] at h
      rw [performWith, get?_put, if_neg h]
  | agree | size | newestFirst | inOrder | copies | newest | chain => rfl
  | replaceNewest written =>
      rw [Command.written, List.mem_singleton] at h
      rw [performWith]
      cases shelf.get? written with
      | none => rfl
      | some chain => exact (get?_put ..).trans (if_neg h)
  | copy source target =>
      rw [Command.written, List.mem_singleton] at h
      rw [performWith]
      cases shelf.get? source with
      | none => rfl
      | some chain => exact (get?_put ..).trans (if_neg h)
  | split source target =>
      simp only [Command.written, List.mem_cons, List.not_mem_nil, or_false, not_or] at h
      rw [performWith]
      cases shelf.get? source with
      | none => rfl
      | some chain => rw [get?_put, if_neg h.2, get?_put, if_neg h.1]

theorem get?_run {commands : List (Command α)} {name : String}
    (h : ∀ command ∈ commands, name ∉ command.written) :
    (shelf.run copyItem agree commands).2.get? name = shelf.get? name := by
  induction commands generalizing shelf with
  | nil => rfl
  | cons command rest ih =>
      rw [List.forall_mem_cons] at h
      exact (ih _ h.2).trans (get?_performWith copyItem agree shelf h.1)

/-- What holds of a shelf whose items are copied and compared by the given functions. -/
structure Sequenced : Prop where
  chains : ∀ name, shelf.get? name = Chain.ofList? (shelf.sequences name)
  run : ∀ commands,
    shelf.sequences.run copyItem agree commands =
      ((shelf.run copyItem agree commands).1, (shelf.run copyItem agree commands).2.sequences)
  copied : ∀ {name target chain}, shelf.get? name = some chain →
    ∃ made, (shelf.performWith copyItem agree (.copy name target)).2.get? target = some made ∧
      made.same agree chain ∧ chain.same agree made
  /-- What is done to the original is not seen in the copy. -/
  copy_apart : ∀ {name target later}, (∀ command ∈ later, target ∉ Command.written command) →
    let after := (shelf.performWith copyItem agree (.copy name target)).2
    (after.run copyItem agree later).2.get? target = after.get? target
  /-- What is done to the copy is not seen in the original. -/
  original_apart : ∀ {name target later}, name ≠ target →
    (∀ command ∈ later, name ∉ Command.written command) →
    let after := (shelf.performWith copyItem agree (.copy name target)).2
    (after.run copyItem agree later).2.get? name = shelf.get? name

theorem sequenced (hsymm : ∀ a b, agree a b → agree b a) (hcopy : ∀ a, agree (copyItem a) a) :
    Sequenced copyItem agree shelf where
  chains name := (Chain.ofList?_sequence (shelf.get? name)).symm
  run := run_sequences copyItem agree shelf
  copied {name target chain} hname := by
    have hmade := chain.inOrder_copy copyItem
    have hitself : chain.inOrder = chain.inOrder.map id := (List.map_id _).symm
    refine ⟨chain.copy copyItem, ?_, Chain.same_of_map hcopy hmade hitself, ?_⟩
    · simp [performWith, hname, get?_put]
    · exact Chain.same_of_map (fun a => hsymm _ _ (hcopy a)) hitself hmade
  copy_apart hlater := get?_run copyItem agree _ hlater
  original_apart {name target later} hne hlater := by
    have hcopied : name ∉ (Command.copy name target : Command α).written := by
      simpa [Command.written] using hne
    exact (get?_run copyItem agree _ hlater).trans (get?_performWith copyItem agree shelf hcopied)

theorem sequenced_params :
    (∀ a b : Param, decide (a = b) → decide (b = a)) ∧
      (∀ a : Param, decide (a.copy = a)) ∧
      Sequenced Param.copy (fun a b => decide (a = b))
        ⟨[("params", .link ⟨.int, "y"⟩ (.single ⟨.double, "x"⟩))]⟩ :=
  have hsymm : ∀ a b : Param, decide (a = b) → decide (b = a) := fun a b h => by
    simpa [eq_comm] using h
  have hcopy : ∀ a : Param, decide (a.copy = a) := fun _ => decide_eq_true rfl
  ⟨hsymm, hcopy, sequenced Param.copy _ _ hsymm hcopy⟩

end Shelf
end TokenScope
