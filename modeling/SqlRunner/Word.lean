/-!
# Words — the whole numbers that fit into a machine word

Whole numbers are unbounded here. A few places hand a number on to something that counts in signed
words of sixty-four bits, and treat a number beyond those apart.
-/

set_option autoImplicit false

namespace SqlRunner.Word

/-- One more than the greatest number of a word; the least is as far below zero. -/
def bound : Int := 9223372036854775808

/-- Whether a number fits into a word. -/
def fits (n : Int) : Bool := -bound ≤ n && n < bound

end SqlRunner.Word
