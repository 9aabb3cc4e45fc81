/-!
# Ranges of code points

A property of characters is held as a list of ranges, ends included.
-/

namespace DefaultCredentials.Text

/-- Whether a code point lies in one of the ranges, ends included. -/
def inRanges (ranges : List (Nat × Nat)) (n : Nat) : Bool :=
  ranges.any fun r => r.1 ≤ n && n ≤ r.2

end DefaultCredentials.Text
