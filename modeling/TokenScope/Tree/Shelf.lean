import TokenScope.Tree.Chain

/-!
A shelf keeps chains under names. A name that is not there stands for the empty
sequence: pushing starts a chain, and what only a chain can answer is answered by
nothing. How items are compared and copied is told from outside.
-/

namespace TokenScope

structure Shelf (α : Type) where
  entries : List (String × Chain α)

namespace Shelf

variable {α : Type}

def empty : Shelf α := ⟨[]⟩

def get? (shelf : Shelf α) (name : String) : Option (Chain α) :=
  shelf.entries.lookup name

def put (shelf : Shelf α) (name : String) (chain : Option (Chain α)) : Shelf α :=
  let others := shelf.entries.filter fun entry => entry.1 ≠ name
  match chain with
  | none => ⟨others⟩
  | some chain => ⟨(name, chain) :: others⟩

def pushCopies (item : α) : Nat → Option (Chain α) → Option (Chain α)
  | 0, chain => chain
  | n + 1, chain => pushCopies item n (some (Chain.push item chain))

def sizeOf (chain : Option (Chain α)) : Nat :=
  match chain with
  | none => 0
  | some chain => chain.size

/-- Two absent chains agree; an absent one agrees with no other. -/
def agreeAt (agree : α → α → Bool) : Option (Chain α) → Option (Chain α) → Bool
  | none, none => true
  | some a, some b => a.same agree b
  | _, _ => false

inductive Command (α : Type) where
  | push (name : String) (item : α)
  | pushMany (name : String) (count : Nat) (item : α)
  | drop (name : String)
  | agree (name other : String)
  | size (name : String)
  | newestFirst (name : String)
  | inOrder (name : String)
  | copies (name : String)
  | newest (name : String)
  | chain (name : String)
  | replaceNewest (name : String) (item : α)
  | copy (name target : String)
  /-- Cuts a chain down to its newest item and keeps the rest under the other name. -/
  | split (name target : String)

inductive Answer (α : Type) where
  | size (n : Nat)
  | extent (size : Nat) (isEmpty : Bool)
  | flag (value : Bool)
  | item (item : α)
  | items (items : List α)
  | chain (chain : Chain α)
  | missing

def ask (shelf : Shelf α) (name : String) (answer : Chain α → Answer α) : Answer α :=
  match shelf.get? name with
  | none => .missing
  | some chain => answer chain

def performWith (copyItem : α → α) (agree : α → α → Bool) (shelf : Shelf α) :
    Command α → Answer α × Shelf α
  | .push name item =>
      let chain := Chain.push item (shelf.get? name)
      (.size chain.size, shelf.put name (some chain))
  | .pushMany name count item =>
      let chain := pushCopies item count (shelf.get? name)
      (.size (sizeOf chain), shelf.put name chain)
  | .drop name => (.flag (shelf.get? name).isSome, shelf.put name none)
  | .agree name other => (.flag (agreeAt agree (shelf.get? name) (shelf.get? other)), shelf)
  | .size name => (shelf.ask name fun chain => .extent chain.size chain.isEmpty, shelf)
  | .newestFirst name => (shelf.ask name fun chain => .items chain.newestFirst, shelf)
  | .inOrder name => (shelf.ask name fun chain => .items chain.inOrder, shelf)
  | .copies name => (shelf.ask name fun chain => .items (chain.copies copyItem), shelf)
  | .newest name => (shelf.ask name fun chain => .item chain.newest, shelf)
  | .chain name => (shelf.ask name .chain, shelf)
  | .replaceNewest name item =>
      match shelf.get? name with
      | none => (.missing, shelf)
      | some chain => (.item item, shelf.put name (some (chain.replaceNewest item)))
  | .copy name target =>
      match shelf.get? name with
      | none => (.missing, shelf)
      | some chain =>
          let made := chain.copy copyItem
          (.size made.size, shelf.put target (some made))
  | .split name target =>
      match shelf.get? name with
      | none => (.missing, shelf)
      | some chain =>
          (.size (sizeOf chain.older?),
            (shelf.put name (some (.single chain.newest))).put target chain.older?)

/-- Items are values: each is its own copy. -/
def perform (agree : α → α → Bool) (shelf : Shelf α) : Command α → Answer α × Shelf α :=
  shelf.performWith id agree

def run (copyItem : α → α) (agree : α → α → Bool) (shelf : Shelf α) :
    List (Command α) → List (Answer α) × Shelf α
  | [] => ([], shelf)
  | command :: rest =>
      let (first, later) := shelf.performWith copyItem agree command
      let (answers, last) := later.run copyItem agree rest
      (first :: answers, last)

end Shelf
end TokenScope
