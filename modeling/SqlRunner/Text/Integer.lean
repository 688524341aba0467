import SqlRunner.Text.Blank
import SqlRunner.Text.Letter

/-!
# Integers as text — what counts as a written whole number

A whole number is a sign (or none) and decimal digits of any script, with single underscores
allowed between digits and blanks allowed around it all. Texts of very many digits are refused.
-/

set_option autoImplicit false

namespace SqlRunner.Text

/-- The greatest number of digits that is read. -/
def integerDigits : Nat := 4300

/-- Why a number of so many digits is refused. -/
def longIntegerMessage (digits : Nat) : String :=
  "Exceeds the limit (" ++ toString integerDigits ++
    " digits) for integer string conversion: value has " ++ toString digits ++
    " digits; use sys.set_int_max_str_digits() to increase the limit"

/-- The blanks that may stand around a whole number: all but the information separators. -/
def isIntegerBlank (c : Char) : Bool := isBlank c && !(28 ≤ c.toNat && c.toNat ≤ 31)

/-- Digits with single underscores between them, as digits alone. -/
def dropSeparators? : List Char → Option (List Char)
  | [] => none
  | [c] => if isDecimal c then some [c] else none
  | c :: '_' :: rest => if isDecimal c then (dropSeparators? rest).map (c :: ·) else none
  | c :: rest => if isDecimal c then (dropSeparators? rest).map (c :: ·) else none

/-- The whole number that a text writes. -/
def readInteger? (s : List Char) : Option Int :=
  let natural? (digits : List Char) : Option Nat := do
    let digits ← dropSeparators? digits
    guard (digits.length ≤ integerDigits)
    readDigits? digits
  match ((s.dropWhile isIntegerBlank).reverse.dropWhile isIntegerBlank).reverse with
  | '-' :: digits => (natural? digits).map fun n => -(n : Int)
  | '+' :: digits => (natural? digits).map Int.ofNat
  | digits => (natural? digits).map Int.ofNat

end SqlRunner.Text
