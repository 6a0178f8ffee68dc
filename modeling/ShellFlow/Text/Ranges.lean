/-!
# Ranges of code points

A property of characters is given as a list of closed ranges of code points, in increasing order.
-/

namespace ShellFlow.Text

/-- Closed ranges of code points. -/
abbrev Ranges := List (Nat × Nat)

/-- True if the code point of `c` lies in one of the ranges. -/
def Ranges.has (ranges : Ranges) (c : Char) : Bool :=
  ranges.any fun r => r.1 ≤ c.toNat && c.toNat ≤ r.2

end ShellFlow.Text
