import SqlRunner.Pattern.Reader

/-!
# Templates — what a match is replaced with

A template is text with references to groups: `\\1` by number, `\\g<name>` by name or number, with
zero for the whole match. The escapes for control characters and octal numbers are those of
patterns; an escaped character that means nothing keeps its backslash, unless it is a letter.
-/

set_option autoImplicit false

namespace SqlRunner.Pattern

/-- A part of a template. -/
inductive Piece where
  | text (chars : List Char)
  | group (number : Nat)
deriving DecidableEq, Repr

/-- Whether a part refers to a group. -/
def Piece.isGroup : Piece → Bool
  | .text _ => false
  | .group _ => true

/-- A reference to a group that the pattern must have; `back` as for flaws. -/
def groupPiece (groups number back : Nat) : ScanM Piece := do
  if number > groups then Scan.fail (.invalidGroup number) back
  return .group number

/-- A reference in angle brackets. -/
def readNamedPiece (groups : Nat) (names : List (String × Nat)) : ScanM Piece := do
  if !(← Scan.accept '<') then Scan.fail (.missing "<") 0
  let name ← Scan.takeName '>' "group name"
  let back := name.length + 1
  if Text.isName name then
    match names.lookup (String.ofList name) with
    | some number => groupPiece groups number back
    | none => throw (.unknownTemplateGroup (String.ofList name))
  else
    match Text.readInteger? name with
    | some (.ofNat number) =>
      if number ≥ groupNumberLimit then Scan.fail (.invalidGroup number) back
      groupPiece groups number back
    | _ => Scan.fail (.badGroupName (String.ofList name)) back

/-- A reference or an octal escape that starts with a digit other than zero. -/
def readDigitPiece (groups : Nat) (c : Char) : ScanM Piece := do
  let second ← Scan.takeWhile Char.isDigit 1
  if isOctal c && !second.isEmpty && second.all isOctal then
    let third ← Scan.takeWhile isOctal 1
    if !third.isEmpty then
      let digits := c :: second ++ third
      let point := readBase 8 digits
      if point > octalLimit then Scan.fail (.octalTooLarge (String.ofList ('\\' :: digits))) 4
      return .text [Char.ofNat point]
  let digits := c :: second
  groupPiece groups (readBase 10 digits) digits.length

/-- The part that an escape stands for. -/
def readEscapedPiece (groups : Nat) (names : List (String × Nat)) (c : Char) : ScanM Piece := do
  if c == 'g' then readNamedPiece groups names
  else if c == '0' then
    let digits ← Scan.takeWhile isOctal 2
    return .text [Char.ofNat (readBase 8 digits % 256)]
  else if c.isDigit then readDigitPiece groups c
  else
    match controlEscape? c with
    | some point => return .text [Char.ofNat point]
    | none =>
      if isAsciiLetter c then Scan.fail (.badEscape (String.ofList ['\\', c])) 2
      else return .text ['\\', c]

/-- The parts up to the end. -/
def readPieces (groups : Nat) (names : List (String × Nat)) : Nat → ScanM (List Piece)
  | 0 => return []
  | fuel + 1 => do
    match ← Scan.next? with
    | none => return []
    | some (.plain c) => return .text [c] :: (← readPieces groups names fuel)
    | some (.escaped c) =>
      let piece ← readEscapedPiece groups names c
      return piece :: (← readPieces groups names fuel)

/-- The parts of a template for a pattern with so many groups under such names. -/
def readTemplate (groups : Nat) (names : List (String × Nat)) (text : String) :
    Except Refusal (List Piece) := do
  let whole : ScanM (List Piece) := do
    Scan.checkDangling
    readPieces groups names ((← get).tokens.length + 1)
  let (pieces, _) ← whole.run (Scan.start text)
  return pieces

/-- A template filled in: a group that took no part in the match is empty. -/
def expandPieces (group? : Nat → Option (List Char)) (pieces : List Piece) : List Char :=
  pieces.flatMap fun
    | .text chars => chars
    | .group number => (group? number).getD []

end SqlRunner.Pattern
