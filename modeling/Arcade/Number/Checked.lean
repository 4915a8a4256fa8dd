import Arcade.Number.Words
/-!
# Sums that are checked

Sums of words wrap around where the exact result does not fit. A build that checks its sums does not go on
there: it stops, and the call under way has no answer. An operation with a check has a result exactly if the
exact result is a word, and it is that word then; where it has none, the program stops.

Signed words go through `word?` and `word64?`, the words of exact integers; counters go by `next32?` and
`next64?`.
-/

namespace Arcade.Checked

/-- Whether a 32-bit word with a sign can hold an integer. -/
def Fits (n : Int) : Prop := -2147483648 ≤ n ∧ n < 2147483648

instance (n : Int) : Decidable (Fits n) := inferInstanceAs (Decidable (_ ∧ _))

/-- The word of an exact integer, if there is one. -/
def word? (n : Int) : Option Int32 :=
  if Fits n then some (Int32.ofInt n) else none

def plus? (a b : Int32) : Option Int32 := word? (a.toInt + b.toInt)

def minus? (a b : Int32) : Option Int32 := word? (a.toInt - b.toInt)

def negated? (a : Int32) : Option Int32 := word? (-a.toInt)

def times? (a b : Int32) : Option Int32 := word? (a.toInt * b.toInt)

/-! ### Words of 64 bits -/

/-- Whether a 64-bit word with a sign can hold an integer. -/
def Fits64 (n : Int) : Prop := Words.minInt64 ≤ n ∧ n ≤ Words.maxInt64

instance (n : Int) : Decidable (Fits64 n) := inferInstanceAs (Decidable (_ ∧ _))

/-- The 64-bit word of an exact integer, if there is one. -/
def word64? (n : Int) : Option Int64 :=
  if Fits64 n then some (Int64.ofInt n) else none

def plus64? (a b : Int64) : Option Int64 := word64? (a.toInt + b.toInt)

/-! ### Counters -/

/-- The next number of a counter of 32 bits, if there is one. -/
def next32? (n : UInt32) : Option UInt32 :=
  if n.toNat + 1 < UInt32.size then some (n + 1) else none

/-- The next number of a counter of 64 bits, if there is one. -/
def next64? (n : UInt64) : Option UInt64 :=
  if n.toNat + 1 < UInt64.size then some (n + 1) else none

end Arcade.Checked
