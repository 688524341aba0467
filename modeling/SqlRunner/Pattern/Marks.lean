/-!
# Marks — where the groups of a pattern began and ended

Every group owns two marks, one for the place it began at and one for the place it ended at. Marks
are written as matching goes along, so while it goes along they may say of a group that it began
and not yet that it ended, or that it began anew behind its earlier end; such a group counts as
unmatched.

When a choice fails, the marks go back to what they were at the choice. Inside a repetition they go
back entirely. Elsewhere only their number goes back: marks that were first made after the choice
are gone, while a mark that was there at the choice and has been overwritten since stays as it is.
-/

set_option autoImplicit false

namespace SqlRunner.Pattern

/-- The marks made so far: the beginning and the end of the first group, then of the second, and so
    on up to the latest one that counts. -/
abbrev Marks := List (Option Nat)

namespace Marks

/-- The marks with one of them set to a place. Marks passed over are empty. -/
def put (marks : Marks) (index place : Nat) : Marks :=
  if index < marks.length then List.set marks index (some place)
  else marks ++ List.replicate (index - marks.length) none ++ [some place]

/-- The marks with the beginning of a group set. -/
def enter (marks : Marks) (number place : Nat) : Marks := put marks (2 * number - 2) place

/-- The marks with the end of a group set. -/
def leave (marks : Marks) (number place : Nat) : Marks := put marks (2 * number - 1) place

/-- Where a group began and ended last, when it has both marks. -/
def span? (marks : Marks) (number : Nat) : Option (Nat × Nat) :=
  match marks[2 * number - 2]?, marks[2 * number - 1]? with
  | some (some start), some (some stop) => some (start, stop)
  | _, _ => none

/-- What a group matched, if it did. -/
def group? (marks : Marks) (number : Nat) : Option (Nat × Nat) :=
  (span? marks number).filter fun (start, stop) => start ≤ stop

/-- The marks after a choice has failed that was made with the marks `saved`. -/
def backTo (marks saved : Marks) (inside : Bool) : Marks :=
  if inside then saved else List.take saved.length marks

end Marks

end SqlRunner.Pattern
