/-!
# Powers and sums of natural numbers
-/

namespace CallFlow

/-- A power of two. -/
def twoTo (n : Nat) : Nat := Nat.pow 2 n

/-- A power of ten. -/
def tenTo (n : Nat) : Nat := Nat.pow 10 n

/-- The sum of a list. -/
def total : List Nat → Nat
  | [] => 0
  | n :: ns => n + total ns

end CallFlow
