/-!
# Ranges of words

The bounds of the integers that fit machine words, as plain integers. Whoever turns a number into a
word names the bound that it must keep.
-/

namespace Arcade.Words

/-- The largest word of 32 bits. -/
def max32 : Nat := 4294967295

/-- The largest word of 64 bits. -/
def max64 : Nat := 18446744073709551615

/-- The least integer of 32 bits with a sign. -/
def minInt32 : Int := -2147483648

/-- The largest integer of 32 bits with a sign. -/
def maxInt32 : Int := 2147483647

/-- The least integer of 64 bits with a sign. -/
def minInt64 : Int := -9223372036854775808

/-- The largest integer of 64 bits with a sign. -/
def maxInt64 : Int := 9223372036854775807

end Arcade.Words
