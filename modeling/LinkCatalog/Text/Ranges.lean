/-!
# Ranges of code points

Properties of characters are given as tables of ranges.

## Main definitions

- `Text.inRanges` — membership in a table
-/

namespace LinkCatalog.Text

/-- Whether a code point lies in one of the ranges, each given by its first and last member. -/
def inRanges (ranges : List (Nat × Nat)) (n : Nat) : Bool :=
  ranges.any fun range => range.1 ≤ n && n ≤ range.2

end LinkCatalog.Text
