/-!
# Ranges — sets of characters as closed ranges of code points

A property of characters that a standard lists as ranges is data: an ascending list of closed
ranges, and one look-up.
-/

namespace UiSurface.Text

/-- Closed ranges of code points, ascending and apart. -/
abbrev Ranges := List (Nat × Nat)

namespace Ranges

def holds (ranges : Ranges) (n : Nat) : Bool := ranges.any (fun r => r.1 ≤ n && n ≤ r.2)

end Ranges

end UiSurface.Text
