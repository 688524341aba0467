import SqlRunner.Text.Blank
import SqlRunner.Text.Caseless

/-!
# Call targets — calls that a driver can take by procedure name

Some drivers call a procedure by name instead of running the text of the call. That is only the same
thing when the arguments in the text are nothing but markers, one for each parameter. The grammar:

    [ { ] [ ? = ] call NAME [ ( [ ? { , ? } ] ) ] [ } ] [ ; ]

with blanks anywhere between, at least one behind the word `call`, and a name made of word
characters, dots, dollar signs and double quotes. The two braces are independent of each other.
-/

set_option autoImplicit false

namespace SqlRunner.CallTarget

open Text

/-- The text behind one optional character and the blanks that follow it. -/
def skipOptional (c : Char) : List Char → List Char
  | [] => []
  | d :: rest => if d == c then dropBlanks rest else d :: rest

/-- The text behind an optional marker with an equals sign. A marker without the sign is not
    skipped. -/
def skipResult (s : List Char) : List Char :=
  match s with
  | '?' :: rest =>
    match dropBlanks rest with
    | '=' :: rest => dropBlanks rest
    | _ => s
  | _ => s

/-- The characters of procedure names. -/
def isNameChar (c : Char) : Bool := isWordChar c || c == '.' || c == '$' || c == '"'

/-- Whether only what may close a call is left. -/
def isClosing (s : List Char) : Bool :=
  (skipOptional ';' (skipOptional '}' (dropBlanks s))).isEmpty

/-- A text cut at its last closing parenthesis. -/
def splitAtLastClose? : List Char → Option (List Char × List Char)
  | [] => none
  | c :: rest =>
    match splitAtLastClose? rest with
    | some (before, after) => some (c :: before, after)
    | none => if c == ')' then some ([], rest) else none

/-- The arguments between parentheses, or none at all, with the call closed behind them. -/
def arguments? (s : List Char) : Option (List Char) :=
  match s with
  | '(' :: rest =>
    match splitAtLastClose? rest with
    | some (inner, after) => if isClosing after then some inner else none
    | none => none
  | _ => if isClosing s then some [] else none

/-- The markers behind the first, each after a comma. -/
def countMore : List Char → Option Nat
  | [] => some 0
  | c :: rest =>
    if isBlank c then countMore rest
    else if c == ',' then countAfterComma rest
    else none
where
  /-- The markers from one that has to come next. -/
  countAfterComma : List Char → Option Nat
    | [] => none
    | c :: rest =>
      if isBlank c then countAfterComma rest
      else if c == '?' then (countMore rest).map (· + 1)
      else none

/-- The number of markers in a list of markers; `none` when it is no such list. -/
def markerCount? (arguments : List Char) : Option Nat :=
  match dropBlanks arguments with
  | [] => some 0
  | '?' :: rest => (countMore rest).map (· + 1)
  | _ => none

/-- The name and the arguments of a call. -/
def parts? (s : List Char) : Option (List Char × List Char) :=
  let opened := skipResult (skipOptional '\x7b' (dropBlanks s))
  if startsCaseless "call".toList opened then
    let behind := opened.drop 4
    let named := dropBlanks behind
    let name := named.takeWhile isNameChar
    if (leadingBlanks behind).isEmpty || name.isEmpty then none
    else (arguments? (dropBlanks (named.dropWhile isNameChar))).map fun inner => (name, inner)
  else none

/-- The procedure that a call with so many parameters may be made by name. -/
def target? (sql : String) (parameterCount : Nat) : Option String :=
  match parts? sql.toList with
  | none => none
  | some (name, inner) =>
    if markerCount? inner == some parameterCount then some (String.ofList name) else none

end SqlRunner.CallTarget
