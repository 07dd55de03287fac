/-!
# Classes of characters as ranges

A class of characters is written down as the list of the ranges of code points that make it up.

## Main definitions

* `Ranges` — a list of closed ranges of code points
* `Ranges.contains` — membership of a character
-/

namespace Lookup.Text

/-- A class of characters: closed ranges of code points. -/
abbrev Ranges := List (Nat × Nat)

/-- Whether a character lies in one of the ranges. -/
def Ranges.contains (ranges : Ranges) (c : Char) : Bool :=
  ranges.any fun r => r.1 ≤ c.toNat && c.toNat ≤ r.2

end Lookup.Text
