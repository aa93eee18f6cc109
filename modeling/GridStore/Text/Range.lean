/-!
# Tables of characters

A property of characters is given by the ascending list of the ranges of code points that have it.

## Main definitions

* `inRanges`: whether a code point lies in one of the ranges.
-/

namespace GridStore

/-- Whether a code point lies in one of the ranges of an ascending list; both ends belong to a
range. -/
def inRanges (code : Nat) : List (Nat × Nat) → Bool
  | [] => false
  | (first, last) :: rest => if code < first then false else code ≤ last || inRanges code rest

end GridStore
