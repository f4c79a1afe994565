/-!
# Ranges of code points

A property of characters is listed as the closed ranges of the code points that
have it, in ascending order.

## Main definitions

* `inRanges` — whether one of the ranges holds a code point.
-/

namespace Retrograde.Text

/-- Whether one of the ranges holds the code point. -/
def inRanges (ranges : List (Nat × Nat)) (n : Nat) : Bool :=
  ranges.any fun r => Nat.ble r.1 n && Nat.ble n r.2

end Retrograde.Text
