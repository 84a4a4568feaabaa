/-!
# Sets of code points

A Unicode property is kept as closed ranges of code points in ascending order. Membership stops at
the first range that starts behind the code point, so a low code point costs little in a long table.
-/

namespace MemberSpec.Text

/-- Closed ranges of code points, in ascending order and disjoint. -/
abbrev CodeRanges := List (Nat × Nat)

/-- Whether a code point lies in one of the ranges. -/
def CodeRanges.has : CodeRanges → Nat → Bool
  | [], _ => false
  | (lo, hi) :: rest, n => if n < lo then false else n ≤ hi || CodeRanges.has rest n

end MemberSpec.Text
