import SqlRunner.Text.Blank
import SqlRunner.Text.Caseless

/-!
# Splitting — a script cut into statements at its delimiter

The delimiter ends a statement where it closes a line, that is where nothing but blanks stands
between it and the end of the line. A delimiter that ends in a letter, a numeral or an underscore
is a word and has to be alone on its line, so that `CARGO` is never cut at `GO`. Letters are
compared without case.

The blanks behind a delimiter are taken with it as far as they go, over line ends too: all of them
when only blanks are left, and otherwise all up to the last line end among them. `closingBlanks`
is that rule. `cutLength` adds the two shapes of a cut, and `fragmentsFrom` walks the text,
collecting the characters between cuts.
-/

set_option autoImplicit false

namespace SqlRunner.Split

open Text

/-- The length of a text up to and without its last line end. -/
def lengthToLastLineEnd? : List Char → Option Nat
  | [] => none
  | c :: rest =>
    match lengthToLastLineEnd? rest with
    | some n => some (n + 1)
    | none => if c == '\n' then some 0 else none

/-- How many blanks belong to the end of a line that starts here; `none` when something other than
    blanks comes before the line ends. -/
def closingBlanks (s : List Char) : Option Nat :=
  let run := leadingBlanks s
  if (dropBlanks s).isEmpty then some run.length else lengthToLastLineEnd? run

/-- The length of a delimiter here together with the blanks that close its line. -/
def closingDelimiter (delimiter s : List Char) : Option Nat :=
  if startsCaseless delimiter s then
    (closingBlanks (s.drop delimiter.length)).map (delimiter.length + ·)
  else none

/-- The same with any number of blanks before the delimiter, the longest run first. -/
def indentedDelimiter (delimiter : List Char) : List Char → Option Nat
  | [] => closingDelimiter delimiter []
  | c :: rest =>
    let here := closingDelimiter delimiter (c :: rest)
    if isBlank c then ((indentedDelimiter delimiter rest).map (· + 1)).orElse fun _ => here
    else here

/-- Whether a delimiter is a word and so has to be alone on its line. -/
def isWord (delimiter : List Char) : Bool :=
  match delimiter.getLast? with
  | some c => isWordChar c
  | none => false

/-- The length of a cut that starts here. -/
def cutLength (delimiter : List Char) (lineStart : Bool) (s : List Char) : Option Nat :=
  let alone := if lineStart then indentedDelimiter delimiter s else none
  if isWord delimiter then alone
  else (closingDelimiter delimiter s).orElse fun _ => alone

/-- The character put in front of the first fragment. -/
def consFirst (c : Char) : List (List Char) → List (List Char)
  | [] => [[c]]
  | first :: rest => (c :: first) :: rest

/-- The fragments of a text. `skip` characters still belong to the last cut, and `lineStart` says
    that a line starts here. A cut that takes no characters ends the fragment all the same. -/
def fragmentsFrom (delimiter : List Char) : Nat → Bool → List Char → List (List Char)
  | _, lineStart, [] =>
    match cutLength delimiter lineStart [] with
    | some _ => [[], []]
    | none => [[]]
  | skip + 1, _, c :: rest => fragmentsFrom delimiter skip (c == '\n') rest
  | 0, lineStart, c :: rest =>
    match cutLength delimiter lineStart (c :: rest) with
    | some 0 => [] :: consFirst c (fragmentsFrom delimiter 0 (c == '\n') rest)
    | some (n + 1) => [] :: fragmentsFrom delimiter n (c == '\n') rest
    | none => consFirst c (fragmentsFrom delimiter 0 (c == '\n') rest)

/-- The statements of a script: its fragments, trimmed, without those that are blank. -/
def statements (script delimiter : String) : List String :=
  (((fragmentsFrom delimiter.toList 0 true script.toList).map trim).filter
    fun fragment => !fragment.isEmpty).map String.ofList

/-- The statements of a text that is cut only if it is meant to be. -/
def parts (sql delimiter : String) (split : Bool) : List String :=
  if split then statements sql delimiter else [sql]

end SqlRunner.Split
