/-! Sets of code points, written as ascending closed ranges. -/

namespace LiteralEnum.Text

/-- Closed ranges of code points, in ascending order and without overlap. -/
abbrev Ranges := List (Nat × Nat)

/-- Membership. The search ends at the first range that begins above the code point. -/
def Ranges.contains : Ranges → Nat → Bool
  | [], _ => false
  | (low, high) :: rest, code =>
      if code < low then false else if code ≤ high then true else Ranges.contains rest code

end LiteralEnum.Text
