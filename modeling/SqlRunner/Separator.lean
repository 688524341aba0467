import SqlRunner.Fault
import SqlRunner.Pattern
import SqlRunner.Text.Blank
import SqlRunner.Text.Caseless

/-!
# Separators — the line between two batches, and what is done about too many of it

Two places clean up the end of a text. Rendering mends a doubled separator: of two separators at the
end, with nothing but blanks between and behind them, one is left (`mendDoubled`). Writing drops the
separator that a text ends in, because the writer adds its own (`dropTrailing`); a separator that
ends in a letter or a numeral only counts when it is alone on the last line.

The separator that mending leaves is read as a template of a replacement. A separator without a
backslash is its own text.
-/

set_option autoImplicit false

namespace SqlRunner.Separator

open Text

/-- Whether `holds` of the text behind some of the leading blanks. -/
def afterBlanks (holds : List Char → Bool) : List Char → Bool
  | [] => holds []
  | c :: rest => holds (c :: rest) || (isBlank c && afterBlanks holds rest)

/-- Whether the rest is the separator and blanks. -/
def isLast (separator s : List Char) : Bool :=
  separator.isPrefixOf s && isAllBlank (s.drop separator.length)

/-- Whether the rest is two separators with blanks between and behind them. -/
def isDoubled (separator s : List Char) : Bool :=
  separator.isPrefixOf s && afterBlanks (isLast separator) (s.drop separator.length)

/-- The text before the first place from which on it is two separators. -/
def beforeDoubled? (separator : List Char) : List Char → Option (List Char)
  | [] => if isDoubled separator [] then some [] else none
  | c :: rest =>
    if isDoubled separator (c :: rest) then some []
    else (beforeDoubled? separator rest).map (c :: ·)

/-- The text that a separator stands for where it is put back. -/
def replacement (separator : String) (doubled : List Char) :
    Except Pattern.Refusal (List Char) := do
  if separator.toList.contains '\\' then
    let pieces ← Pattern.readTemplate 0 [] separator
    return Pattern.expandPieces (fun number => if number = 0 then some doubled else none) pieces
  else return separator.toList

/-- The text with one of two separators at its end removed. -/
def mendDoubled (sql separator : String) : Except Fault String :=
  match replacement separator [] with
  | .error refusal => .error (.pattern refusal)
  | .ok _ =>
    match beforeDoubled? separator.toList sql.toList with
    | none => .ok sql
    | some kept =>
      match replacement separator (sql.toList.drop kept.length) with
      | .error refusal => .error (.pattern refusal)
      | .ok left => .ok (String.ofList (kept ++ left))

/-- Whether a separator has to be alone on its line to count. -/
def isWord (separator : List Char) : Bool :=
  match separator.getLast? with
  | some c => isAlphanumeric c
  | none => false

/-- The blanks that may stand before a separator on its line. -/
def isIndent (c : Char) : Bool := c == ' ' || c == '\t'

/-- The text before a last line of which only indentation is left, with its line end removed. -/
def beforeIndent? (reversed : List Char) : Option (List Char) :=
  match reversed.dropWhile isIndent with
  | [] => some []
  | c :: before => if c == '\n' then some before.reverse else none

/-- A text without trailing blanks, and without the separator that it ends in. -/
def dropTrailing (separator text : List Char) : List Char :=
  let bodyLength := text.length - separator.length
  let body := text.take bodyLength
  let tail := text.drop bodyLength
  if isWord separator then
    if sameText separator tail then (beforeIndent? body.reverse).getD text else text
  else if separator == tail then body
  else text

end SqlRunner.Separator
