namespace Dataflow.Text

/-- A set of characters: the code points of finitely many closed ranges, listed in increasing order. -/
structure CharSet where
  ranges : List (Nat × Nat)

namespace CharSet

/-- Whether one of the ranges covers `n`. Ranges are in increasing order, so the search ends at
the first one that starts above `n`. -/
def covers : List (Nat × Nat) → Nat → Bool
  | [], _ => false
  | (lo, hi) :: rest, n => if n < lo then false else if n ≤ hi then true else covers rest n

def contains (s : CharSet) (c : Char) : Bool := covers s.ranges c.toNat

end CharSet

end Dataflow.Text
