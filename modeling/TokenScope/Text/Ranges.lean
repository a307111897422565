/-!
Classes of characters given as ascending ranges of code points. Because a table
ascends, looking a character up stops at the first range that begins after it.
-/

namespace TokenScope

/-- A range of code points, both ends included. -/
abbrev CodeRange := Nat × Nat

def inRanges (table : List CodeRange) (c : Char) : Bool :=
  match table with
  | [] => false
  | (first, last) :: rest => first ≤ c.toNat && (c.toNat ≤ last || inRanges rest c)

end TokenScope
