/-!
# Tables of code points

A class of characters is written as an increasing list of bounds `lo₁, hi₁, lo₂, hi₂, …`, standing
for the half-open ranges `[lo₁, hi₁)`, `[lo₂, hi₂)` and so on.
-/

namespace DocHarvest.Text

/-- Bounds of half-open ranges of code points, in increasing order. -/
abbrev Bounds := List Nat

/-- Whether one of the ranges holds a code point. -/
def Bounds.covers : Bounds → Nat → Bool
  | lower :: upper :: rest, code =>
      if code < lower then false
      else code < upper || Bounds.covers rest code
  | _, _ => false

end DocHarvest.Text
