/-!
Sets of code points as lists of ranges in ascending order.
-/

namespace Keystroke.Text

/-- Whether a code point lies in one of the ranges, ends included. The ranges ascend, so the search
stops at the first one that begins past the code point. -/
def inRanges (n : Nat) : List (Nat × Nat) → Bool
  | [] => false
  | (first, last) :: rest =>
      if n < first then false
      else if n ≤ last then true
      else inRanges n rest

end Keystroke.Text
