import Mathlib.Data.List.Induction
import TokenScope.Tree.Chain

/-!
A chain as the sequence of its items in the order they were pushed. A chain grown from a list
holds the items of the list in order, and there is no other chain of the same sequence; what
is asked of a chain, and what is made of it, is told by its sequence.
-/

namespace TokenScope
namespace Chain

variable {α : Type}

/-- The items of a chain that may be absent, in the order they were pushed. -/
def sequence : Option (Chain α) → List α
  | none => []
  | some chain => chain.inOrder

@[simp] theorem sequence_none : sequence (none : Option (Chain α)) = [] := rfl

@[simp] theorem sequence_some (chain : Chain α) : sequence (some chain) = chain.inOrder := rfl

theorem sequence_push (item : α) (chain : Option (Chain α)) :
    sequence (some (push item chain)) = sequence chain ++ [item] := by
  cases chain with
  | none => rfl
  | some older => exact inOrder_link item older

theorem ofList?_append_singleton (items : List α) (item : α) :
    ofList? (items ++ [item]) = some (push item (ofList? items)) := by
  rw [ofList?, List.foldl_append]
  rfl

theorem sequence_ofList? (items : List α) : sequence (ofList? items) = items := by
  induction items using List.reverseRecOn with
  | nil => rfl
  | append_singleton items item ih => rw [ofList?_append_singleton, sequence_push, ih]

theorem ofList?_inOrder (chain : Chain α) : ofList? chain.inOrder = some chain := by
  induction chain with
  | single item => rfl
  | link item older ih =>
      rw [inOrder_link, ofList?_append_singleton, ih]
      rfl

theorem ofList?_sequence (chain : Option (Chain α)) : ofList? (sequence chain) = chain := by
  cases chain with
  | none => rfl
  | some chain => exact ofList?_inOrder chain

theorem inOrder_ne_nil (chain : Chain α) : chain.inOrder ≠ [] := by
  cases chain <;> simp

theorem isEmpty_sequence (chain : Option (Chain α)) :
    (sequence chain).isEmpty = chain.isNone := by
  cases chain with
  | none => rfl
  | some chain => simp [inOrder_ne_nil]

theorem size_eq (chain : Chain α) : chain.size = chain.inOrder.length := by
  rw [size, newestFirst_eq, List.length_reverse]

theorem getLast?_inOrder (chain : Chain α) : chain.inOrder.getLast? = some chain.newest := by
  cases chain <;> simp [newest]

theorem sequence_older? (chain : Chain α) : sequence chain.older? = chain.inOrder.dropLast := by
  cases chain <;> simp [older?]

theorem inOrder_replaceNewest (item : α) (chain : Chain α) :
    (chain.replaceNewest item).inOrder = chain.inOrder.dropLast ++ [item] := by
  cases chain <;> simp [replaceNewest]

theorem inOrder_copy (copyItem : α → α) (chain : Chain α) :
    (chain.copy copyItem).inOrder = chain.inOrder.map copyItem := by
  cases chain with
  | single item => rfl
  | link item older =>
      have hpush := sequence_push (copyItem item) (ofList? (older.copies copyItem))
      rw [sequence_ofList?] at hpush
      rw [inOrder_link, List.map_append]
      exact hpush

/-- The sequences are of one length and their items agree one by one. -/
def agreeThroughout (agree : α → α → Bool) (xs ys : List α) : Bool :=
  xs.length = ys.length && (xs.zip ys).all fun (a, b) => agree a b

theorem agreeThroughout_concat (agree : α → α → Bool) (xs ys : List α) (a b : α) :
    agreeThroughout agree (xs ++ [a]) (ys ++ [b]) =
      (agree a b && agreeThroughout agree xs ys) := by
  by_cases h : xs.length = ys.length
  · simp [agreeThroughout, h, List.zip_append h, Bool.and_comm]
  · simp [agreeThroughout, h]

theorem agreeThroughout_of_length_ne (agree : α → α → Bool) {xs ys : List α}
    (h : xs.length ≠ ys.length) : agreeThroughout agree xs ys = false := by
  simp [agreeThroughout, h]

/-- The walk along two chains from the newest items on finds the sequences to agree or not. -/
theorem same_eq (agree : α → α → Bool) (chain other : Chain α) :
    chain.same agree other = agreeThroughout agree chain.inOrder other.inOrder := by
  induction chain generalizing other with
  | single a =>
      cases other with
      | single b => simp [same, agreeThroughout]
      | link b older =>
          exact (agreeThroughout_of_length_ne agree (by simp [inOrder_ne_nil])).symm
  | link a older ih =>
      cases other with
      | single b =>
          exact (agreeThroughout_of_length_ne agree (by simp [inOrder_ne_nil])).symm
      | link b older' =>
          rw [inOrder_link, inOrder_link, agreeThroughout_concat, ← ih, same]
          cases agree a b <;> rfl

theorem same_of_map {agree : α → α → Bool} {f g : α → α} (h : ∀ a, agree (f a) (g a))
    {chain other : Chain α} {items : List α} (hchain : chain.inOrder = items.map f)
    (hother : other.inOrder = items.map g) : chain.same agree other := by
  simp [same_eq, hchain, hother, agreeThroughout, List.zip_map', h]

end Chain
end TokenScope
