set_option autoImplicit false

namespace SqlReader

-- With both ends included, in increasing order.
abbrev Ranges := List (Nat × Nat)

def Ranges.holds : Ranges → Nat → Bool
  | [], _ => false
  | (low, high) :: rest, n => decide (low ≤ n) && (decide (n ≤ high) || Ranges.holds rest n)

end SqlReader
