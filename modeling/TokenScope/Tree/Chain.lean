/-!
A nonempty sequence grown one item at a time, with the newest item at its head.
A reader of `a, b, c` pushes the items as they come, so that the head is `c`; the
order of the text is the order of growth. An absent chain is an empty sequence,
and is written `none`.
-/

namespace TokenScope

inductive Chain (α : Type) where
  | single (item : α)
  | link (item : α) (older : Chain α)

namespace Chain

variable {α : Type}

def push (item : α) : Option (Chain α) → Chain α
  | none => single item
  | some older => link item older

def newest : Chain α → α
  | single item | link item _ => item

/-- The chain before its newest item was pushed. -/
def older? : Chain α → Option (Chain α)
  | single _ => none
  | link _ older => some older

def replaceNewest (item : α) : Chain α → Chain α
  | single _ => single item
  | link _ older => link item older

/-- The items in the order they were pushed, before those of `later`. -/
def grown (later : List α) : Chain α → List α
  | single item => item :: later
  | link item older => older.grown (item :: later)

def inOrder (chain : Chain α) : List α := chain.grown []

/-- The items as the chain holds them, behind those of `before`. -/
def heldAfter (before : Array α) : Chain α → Array α
  | single item => before.push item
  | link item older => older.heldAfter (before.push item)

def newestFirst (chain : Chain α) : List α := (chain.heldAfter #[]).toList

def size (chain : Chain α) : Nat := chain.newestFirst.length

def isEmpty (_ : Chain α) : Bool := false

/-- The chain that grows from a list of items, none from an empty list. -/
def ofList? (items : List α) : Option (Chain α) :=
  items.foldl (fun chain item => some (push item chain)) none

def copies (copyItem : α → α) (chain : Chain α) : List α := chain.inOrder.map copyItem

/-- A chain of copies. What is older than the newest item is grown anew. -/
def copy (copyItem : α → α) : Chain α → Chain α
  | single item => single (copyItem item)
  | link item older => push (copyItem item) (ofList? (older.copies copyItem))

def same (agree : α → α → Bool) : Chain α → Chain α → Bool
  | single a, single b => agree a b
  | link a older, link b older' => if agree a b then older.same agree older' else false
  | _, _ => false

theorem grown_eq_append (chain : Chain α) (later : List α) :
    chain.grown later = chain.inOrder ++ later := by
  induction chain generalizing later with
  | single item => rfl
  | link item older ih => simp [inOrder, grown, ih (item :: later), ih [item]]

@[simp] theorem inOrder_single (item : α) : (single item).inOrder = [item] := rfl

@[simp] theorem inOrder_link (item : α) (older : Chain α) :
    (link item older).inOrder = older.inOrder ++ [item] :=
  grown_eq_append older [item]

theorem toList_heldAfter (before : Array α) (chain : Chain α) :
    (chain.heldAfter before).toList = before.toList ++ chain.inOrder.reverse := by
  induction chain generalizing before with
  | single item => simp [heldAfter]
  | link item older ih => simp [heldAfter, ih]

theorem newestFirst_eq (chain : Chain α) : chain.newestFirst = chain.inOrder.reverse := by
  simp [newestFirst, toList_heldAfter]

@[simp] theorem newestFirst_single (item : α) : (single item).newestFirst = [item] := rfl

@[simp] theorem newestFirst_link (item : α) (older : Chain α) :
    (link item older).newestFirst = item :: older.newestFirst := by
  simp [newestFirst_eq]

end Chain
end TokenScope
