set_option autoImplicit false

namespace Conform.Unicode

-- The tables of ranges are those of version 14.0 of the character database.
def inRanges : List (Nat × Nat) → Nat → Bool
  | [], _ => false
  | (low, high) :: rest, code =>
      if code < low then false else if code ≤ high then true else inRanges rest code

def offset? : List (Nat × Nat) → Nat → Option Nat
  | [], _ => none
  | (low, high) :: rest, code =>
      if code < low then none else if code ≤ high then some (code - low) else offset? rest code

end Conform.Unicode
