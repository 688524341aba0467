/-!
# Decimal numbers — a number with a fraction, by its digits

Numbers with a fraction pass through this library and are never computed with, so they are kept as
what is written: a sign, the significant digits, and the place of the point. Beside them stand the
two infinities and what is no number. Writing one is a matter of layout alone: positional notation
while the point stays between four places before the digits and sixteen places behind the first,
scientific notation beyond.
-/

set_option autoImplicit false

namespace SqlRunner

/-- A number with a fraction, or what such numbers have instead of one. -/
inductive Decimal where
  /-- The number `±0.d₁d₂… · 10^point`. Of a number other than zero the first and the last digit are
      not zero; zero has no digits, and may be negative. -/
  | finite (negative : Bool) (digits : List Char) (point : Int)
  | infinite (negative : Bool)
  | notNumber
deriving DecidableEq, Repr

namespace Decimal

/-- The number with the zeros at both ends of its digits dropped. -/
def normalize (negative : Bool) (digits : List Char) (point : Int) : Decimal :=
  let significant := digits.dropWhile (· == '0')
  let dropped := digits.length - significant.length
  let kept := (significant.reverse.dropWhile (· == '0')).reverse
  if kept.isEmpty then .finite negative [] 1 else .finite negative kept (point - dropped)

/-- The whole number that digits write; anything but a digit counts as zero. -/
def natOfDigits (digits : List Char) : Nat :=
  digits.foldl (fun acc c => 10 * acc + (if c.isDigit then c.toNat - 48 else 0)) 0

/-- The number that is written without its sign: digits, then a point and further digits, then an
    exponent, the last two of which may be missing. -/
def ofUnsigned (negative : Bool) (s : List Char) : Decimal :=
  let whole := s.takeWhile Char.isDigit
  let rest := s.drop whole.length
  let fraction :=
    match rest with
    | '.' :: more => more.takeWhile Char.isDigit
    | _ => []
  let exponent : Int :=
    match s.dropWhile fun c => c != 'e' && c != 'E' with
    | _ :: '-' :: digits => -(natOfDigits digits : Int)
    | _ :: '+' :: digits => natOfDigits digits
    | _ :: digits => natOfDigits digits
    | [] => 0
  normalize negative (whole ++ fraction) (whole.length + exponent)

/-- The number that a text writes; a text that writes none counts as zero. -/
def ofText (text : String) : Decimal :=
  match text with
  | "NaN" => .notNumber
  | "Infinity" => .infinite false
  | "-Infinity" => .infinite true
  | _ =>
    match text.toList with
    | '-' :: rest => ofUnsigned true rest
    | s => ofUnsigned false s

/-- Digits with the point among them, at least one digit on each side. -/
def positional (digits : List Char) (point : Int) : List Char :=
  let count := digits.length
  if point ≤ 0 then '0' :: '.' :: List.replicate (-point).toNat '0' ++ digits
  else if count ≤ point.toNat then digits ++ List.replicate (point.toNat - count) '0' ++ ['.', '0']
  else digits.take point.toNat ++ '.' :: digits.drop point.toNat

/-- Digits with the point after the first, and a signed exponent of at least two digits. -/
def scientific (digits : List Char) (point : Int) : List Char :=
  let exponent := point - 1
  let written := (toString exponent.natAbs).toList
  let padded := List.replicate (2 - written.length) '0' ++ written
  let mantissa :=
    match digits with
    | [] => []
    | [d] => [d]
    | d :: rest => d :: '.' :: rest
  mantissa ++ 'e' :: (if exponent < 0 then '-' else '+') :: padded

/-- The written form. -/
def toText : Decimal → String
  | finite negative digits point =>
    let body :=
      if digits.isEmpty then ['0', '.', '0']
      else if -4 < point && point ≤ 16 then positional digits point
      else scientific digits point
    String.ofList (if negative then '-' :: body else body)
  | infinite negative => if negative then "-inf" else "inf"
  | notNumber => "nan"

/-- The whole number that the number is, if it is one. -/
def asInteger? : Decimal → Option Int
  | finite negative digits point =>
    if digits.isEmpty then some 0
    else if digits.length ≤ point then
      let value : Int := natOfDigits digits * Nat.pow 10 (point.toNat - digits.length)
      some (if negative then -value else value)
    else none
  | infinite _ | notNumber => none

end Decimal

end SqlRunner
