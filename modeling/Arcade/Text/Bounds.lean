/-!
# Sets of code points by their boundaries

A set of numbers is given by a strictly increasing list of boundaries: the first number inside,
the first one outside after it, and so on. A number is inside when an odd number of boundaries
lie at or below it.
-/

namespace Arcade.Text

/-- Whether `n` lies inside the set with these boundaries. -/
def withinBounds : List Nat → Nat → Bool
  | [], _ => false
  | b :: rest, n => if n < b then false else !withinBounds rest n

end Arcade.Text
