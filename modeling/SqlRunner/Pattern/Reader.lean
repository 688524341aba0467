import SqlRunner.Pattern.Node
import SqlRunner.Pattern.Scan
import SqlRunner.Text.CharacterName
import SqlRunner.Text.Integer
import SqlRunner.Text.Name

/-!
# Reading a pattern — from its text to its tree

One pass, left to right, without going back except at a brace that turns out to be an ordinary
character. The reader keeps the flags in force, the groups seen so far with the width of those that
are closed, and their names. Everything a pattern may refer to stands before the reference, with
the exception of conditions on a group by number, which are checked when the pattern is read to its
end.

The recursion runs on a fuel of three units per token: a call either passes a token or is one of the
two calls (alternatives, then a sequence) that stand between two tokens.
-/

set_option autoImplicit false

namespace SqlRunner.Pattern

/-- The flags of a pattern. `ascii` and `unicode` name the two kinds of character classes; with
    neither, classes are those of Unicode. -/
structure Flags where
  ignoreCase : Bool := false
  multiline : Bool := false
  dotAll : Bool := false
  verbose : Bool := false
  ascii : Bool := false
  unicode : Bool := false
  template : Bool := false
deriving DecidableEq, Repr

namespace Flags

/-- All flags of either. -/
def union (a b : Flags) : Flags :=
  ⟨a.ignoreCase || b.ignoreCase, a.multiline || b.multiline, a.dotAll || b.dotAll,
    a.verbose || b.verbose, a.ascii || b.ascii, a.unicode || b.unicode, a.template || b.template⟩

/-- The flags that both have. -/
def inter (a b : Flags) : Flags :=
  ⟨a.ignoreCase && b.ignoreCase, a.multiline && b.multiline, a.dotAll && b.dotAll,
    a.verbose && b.verbose, a.ascii && b.ascii, a.unicode && b.unicode, a.template && b.template⟩

/-- The flags of `a` that `b` lacks. -/
def minus (a b : Flags) : Flags :=
  ⟨a.ignoreCase && !b.ignoreCase, a.multiline && !b.multiline, a.dotAll && !b.dotAll,
    a.verbose && !b.verbose, a.ascii && !b.ascii, a.unicode && !b.unicode,
    a.template && !b.template⟩

/-- The flag a letter stands for. -/
def ofLetter? : Char → Option Flags
  | 'i' => some { ignoreCase := true }
  | 'm' => some { multiline := true }
  | 's' => some { dotAll := true }
  | 'x' => some { verbose := true }
  | 'a' => some { ascii := true }
  | 'u' => some { unicode := true }
  | 't' => some { template := true }
  | 'L' => some {}
  | _ => none

/-- Whether a letter chooses the kind of character classes. -/
def isKindLetter (c : Char) : Bool := c == 'a' || c == 'u' || c == 'L'

/-- The flags inside a group that turns some on and some off. Naming a kind of classes replaces the
    kind in force. -/
def within (outer on off : Flags) : Flags :=
  let base :=
    if on.ascii || on.unicode then { outer with ascii := false, unicode := false } else outer
  (base.union on).minus off

/-- How characters are classed and compared under the flags. -/
def mode (f : Flags) : Mode := ⟨f.ignoreCase, f.ascii⟩

end Flags

/-- What the reader knows of the pattern so far. -/
structure Reading where
  /-- The flags that hold for the whole pattern. -/
  global : Flags
  /-- The flags in force where the reader stands. -/
  scope : Flags
  /-- For each group in order of its opening, its width once it is closed. -/
  widths : List (Option Width)
  names : List (String × Nat)
  /-- Inside a look behind, the number of groups (and one) at its start. -/
  lookbehindLimit : Option Nat
  /-- Groups that conditions name by number, and where they do so first. -/
  conditions : List (Nat × Nat)

/-- Reading with that knowledge. -/
abbrev ReadM := StateT Reading ScanM

namespace Reading

/-- One more than the number of groups opened. -/
def groupLimit (r : Reading) : Nat := r.widths.length + 1

/-- The width of a closed group. -/
def width? (r : Reading) (number : Nat) : Option Width :=
  match number with
  | 0 => none
  | n + 1 => r.widths[n]?.join

end Reading

/-- A flaw some characters before the next token. -/
def readFail {α : Type} (flaw : Flaw) (back : Nat) : ReadM α :=
  (Scan.fail flaw back : ScanM α)

/-- A flaw at a place. -/
def readFailAt {α : Type} (flaw : Flaw) (place : Nat) : ReadM α :=
  (Scan.failAt flaw place : ScanM α)

/-- Refuses a reference, from inside a look behind, to a group that is open or belongs to it. -/
def checkLookbehind (number : Nat) : ReadM Unit := do
  let r ← get
  match r.lookbehindLimit with
  | none => return ()
  | some limit =>
    if (r.width? number).isNone then readFail .openGroup 0
    if number ≥ limit then readFail .groupOfLookbehind 0

/-- The value of a hexadecimal digit. -/
def hexValue? (c : Char) : Option Nat :=
  if c.isDigit then some (c.toNat - 48)
  else if 'a' ≤ c && c ≤ 'f' then some (c.toNat - 87)
  else if 'A' ≤ c && c ≤ 'F' then some (c.toNat - 55)
  else none

/-- Whether the character is an octal digit. -/
def isOctal (c : Char) : Bool := '0' ≤ c && c ≤ '7'

/-- The number that digits of a base write. -/
def readBase (base : Nat) (digits : List Char) : Nat :=
  digits.foldl (fun acc c => base * acc + (hexValue? c).getD 0) 0

/-- The greatest value of an octal escape. -/
def octalLimit : Nat := 0o377

/-- The control character that a letter escapes. -/
def controlEscape? : Char → Option Nat
  | 'a' => some 7
  | 'b' => some 8
  | 'f' => some 12
  | 'n' => some 10
  | 'r' => some 13
  | 't' => some 9
  | 'v' => some 11
  | '\\' => some 92
  | _ => none

/-- The class that a letter escapes, and whether it is meant in the negative. -/
def categoryEscape? : Char → Option (Category × Bool)
  | 'd' => some (.digit, false)
  | 'D' => some (.digit, true)
  | 's' => some (.blank, false)
  | 'S' => some (.blank, true)
  | 'w' => some (.word, false)
  | 'W' => some (.word, true)
  | _ => none

/-- Whether the character is a letter of ASCII; an escaped one must have a meaning. -/
def isAsciiLetter (c : Char) : Bool := c.isAlpha

/-- A hexadecimal escape with a fixed number of digits; `c` is the letter that announces it. -/
def readHexEscape (c : Char) (count : Nat) : ScanM Nat := do
  let digits ← Scan.takeWhile (fun d => (hexValue? d).isSome) count
  let written := '\\' :: c :: digits
  if digits.length != count then
    Scan.fail (.incompleteEscape (String.ofList written)) written.length
  let point := readBase 16 digits
  if point > 0x10FFFF then Scan.fail (.badEscape (String.ofList written)) written.length
  return point

/-- An escape by character name. -/
def readNamedEscape : ScanM Nat := do
  if !(← Scan.accept '\x7b') then Scan.fail .missingBrace 0
  let name := String.ofList (← Scan.takeName '\x7d' "character name")
  match Text.characterNamed? name with
  | some point => return point
  | none => Scan.fail (.undefinedCharacter name) (name.length + 4)

/-- The escapes that mean one character, the same inside and outside of sets; `none` for the
    others. -/
def readPointEscape? (c : Char) : ScanM (Option Nat) := do
  if c == 'x' then return some (← readHexEscape c 2)
  else if c == 'u' then return some (← readHexEscape c 4)
  else if c == 'U' then return some (← readHexEscape c 8)
  else if c == 'N' then return some (← readNamedEscape)
  else return none

/-- An escape that is a character standing for itself. -/
def readPlainEscape (c : Char) : ScanM Nat := do
  if isAsciiLetter c || c.isDigit then Scan.fail (.badEscape (String.ofList ['\\', c])) 2
  else return c.toNat

/-- An escape inside a set. -/
def readMemberEscape (c : Char) : ScanM Member := do
  if let some point := controlEscape? c then return .one point
  if let some (category, negated) := categoryEscape? c then return .category category negated
  if let some point ← readPointEscape? c then return .one point
  if isOctal c then
    let digits := c :: (← Scan.takeWhile isOctal 2)
    let point := readBase 8 digits
    if point > octalLimit then
      Scan.fail (.octalTooLarge (String.ofList ('\\' :: digits))) (digits.length + 1)
    return .one point
  return .one (← readPlainEscape c)

/-- A member as its first token was written. -/
def tokenString (t : Token) : String := String.ofList t.text

/-- The members of a set up to its closing bracket; `here` is where the set begins. -/
def readMembers (here : Nat) : Nat → List Member → ScanM (List Member)
  | 0, _ => Scan.failAt .unterminatedSet here
  | fuel + 1, members => do
    let some this ← Scan.next? | Scan.failAt .unterminatedSet here
    if this == .plain ']' && !members.isEmpty then return members.reverse
    let first ← readMember this
    if ← Scan.accept '-' then
      let some that ← Scan.next? | Scan.failAt .unterminatedSet here
      if that == .plain ']' then return (Member.one '-'.toNat :: first :: members).reverse
      let second ← readMember that
      let flaw := Flaw.badRange (tokenString this) (tokenString that)
      let back := this.length + 1 + that.length
      match first, second with
      | .one low, .one high =>
        if high < low then Scan.fail flaw back
        readMembers here fuel (.range low high :: members)
      | _, _ => Scan.fail flaw back
    else readMembers here fuel (first :: members)
where
  /-- One member, whose first token is already passed. -/
  readMember : Token → ScanM Member
    | .plain c => return .one c.toNat
    | .escaped c => readMemberEscape c

/-- A character set, after its opening bracket. -/
def readSet (here : Nat) : ScanM CharTest := do
  let negated ← Scan.accept '^'
  let members := (← readMembers here ((← get).tokens.length + 1) []).eraseDups
  match members with
  | [.one point] => return .one point negated
  | _ => return .set members negated

/-- What a tree is, as far as a repetition sign behind it wants to know. -/
inductive ItemKind where
  | anchor
  | repetition
  | other
deriving DecidableEq

/-- What is read in one go as a part of a sequence. It adds any number of nodes to the sequence: a
    group that neither captures nor sets flags adds what it holds. -/
structure Item where
  parts : List Node
  kind : ItemKind

/-- A part that is one node. -/
def Item.ofNode (node : Node) : Item := ⟨[node], .other⟩

/-- A part that is an anchor. -/
def Item.ofAnchor (anchor : Anchor) : Item := ⟨[.anchor anchor], .anchor⟩

/-- A test of one character, in the mode in force. -/
def charItem (test : CharTest) : ReadM Item := do
  return .ofNode (.char test ((← get).scope.mode.settled test))

/-- A reference to what a closed group matched. -/
def readAgain (number : Nat) (back : Nat) : ReadM Item := do
  match (← get).width? number with
  | none => readFail .openGroup back
  | some width =>
    checkLookbehind number
    return .ofNode (.again number width (← get).scope.mode)

/-- An escape that starts with a digit other than zero: three octal digits are a character, one or
    two digits otherwise are the number of a group. -/
def readDigitEscape (c : Char) : ReadM Item := do
  let second ← (Scan.takeWhile Char.isDigit 1 : ScanM (List Char))
  if isOctal c && !second.isEmpty && second.all isOctal then
    let third ← (Scan.takeWhile isOctal 1 : ScanM (List Char))
    if !third.isEmpty then
      let digits := c :: second ++ third
      let point := readBase 8 digits
      if point > octalLimit then
        readFail (.octalTooLarge (String.ofList ('\\' :: digits))) 4
      return ← charItem (.one point false)
  let digits := c :: second
  let number := readBase 10 digits
  if number < (← get).groupLimit then readAgain number (digits.length + 1)
  else readFail (.invalidGroup number) digits.length

/-- An escape outside of sets. -/
def readEscape (c : Char) : ReadM Item := do
  let ascii := (← get).scope.ascii
  match c with
  | 'A' => return .ofAnchor .textStart
  | 'Z' => return .ofAnchor .textEnd
  | 'b' => return .ofAnchor (.wordEdge ascii)
  | 'B' => return .ofAnchor (.notWordEdge ascii)
  | _ =>
    if let some (category, negated) := categoryEscape? c then
      return ← charItem (.set [.category category negated] false)
    if let some point := controlEscape? c then return ← charItem (.one point false)
    if let some point ← (readPointEscape? c : ScanM (Option Nat)) then
      return ← charItem (.one point false)
    if c == '0' then
      let digits ← (Scan.takeWhile isOctal 2 : ScanM (List Char))
      return ← charItem (.one (readBase 8 digits) false)
    if c.isDigit then return ← readDigitEscape c
    charItem (.one (← readPlainEscape c) false)

/-- The bound from which on a repetition count is refused. -/
def repeatLimit : Nat := 4294967295

/-- The number that digits write as a bound of a repetition. -/
def readBound (digits : List Char) : ScanM Nat := do
  if digits.length > Text.integerDigits then throw (.longNumber digits.length)
  let bound := readBase 10 digits
  if bound ≥ repeatLimit then throw .endlessRepeat
  return bound

/-- The bounds between braces; `none`, with nothing passed, when the brace is an ordinary
    character. -/
def readBounds? : ScanM (Option (Nat × Option Nat)) := do
  let saved ← get
  if saved.tokens.head? == some (.plain '\x7d') then return none
  let fuel := saved.tokens.length
  let low ← Scan.takeWhile Char.isDigit fuel
  let high ← if ← Scan.accept ',' then Scan.takeWhile Char.isDigit fuel else pure low
  if !(← Scan.accept '\x7d') then
    set saved
    return none
  let least ← readBound low
  if high.isEmpty then return some (least, none)
  let most ← readBound high
  if most < least then Scan.failAt .repeatBounds saved.offset
  return some (least, some most)

/-- The bounds that a repetition sign stands for; `none` for a brace that is an ordinary
    character. -/
def readRepeat? (sign : Char) : ScanM (Option (Nat × Option Nat)) :=
  match sign with
  | '?' => return some (0, some 1)
  | '*' => return some (0, none)
  | '+' => return some (1, none)
  | _ => readBounds?

/-- The item before a repetition sign, repeated. `place` is where the sign stands. -/
def repeatItem (place least : Nat) (most : Option Nat) : List Item → ScanM (List Item)
  | [] => Scan.failAt .nothingToRepeat place
  | item :: items => do
    match item.kind with
    | .anchor => Scan.failAt .nothingToRepeat place
    | .repetition => Scan.failAt .multipleRepeat place
    | .other =>
      let greed : Greed ←
        if ← Scan.accept '?' then pure .lazy
        else if ← Scan.accept '+' then pure .possessive
        else pure .greedy
      let body := Node.ofSequence item.parts
      return ⟨[.repeated greed least most body], .repetition⟩ :: items

/-- A letter where a flag is expected but none is known by it, or no letter at all. -/
def failFlag {α : Type} (t : Token) (otherwise : Flaw) : ScanM α :=
  let flaw :=
    match t with
    | .plain c => if Text.isLetter c then Flaw.unknownFlag else otherwise
    | .escaped _ => otherwise
  Scan.fail flaw t.length

/-- The flags turned on, and the character that ends them; `c` is the letter just passed. -/
def readFlagsOn : Nat → Flags → Char → ScanM (Flags × Char)
  | 0, _, _ => Scan.fail .missingFlagEnd 0
  | fuel + 1, on, c => do
    if c == 'L' then Scan.fail .localeFlag 0
    let on := on.union ((Flags.ofLetter? c).getD {})
    if Flags.isKindLetter c && on.ascii && on.unicode then Scan.fail .clashingKinds 0
    let some t ← Scan.next? | Scan.fail .missingFlagEnd 0
    match t with
    | .plain d =>
      if d == ')' || d == '-' || d == ':' then return (on, d)
      else if (Flags.ofLetter? d).isSome then readFlagsOn fuel on d
      else failFlag t .missingFlagEnd
    | .escaped _ => failFlag t .missingFlagEnd

/-- The flags turned off, up to the colon; `c` is the letter just passed. -/
def readFlagsOff : Nat → Flags → Char → ScanM Flags
  | 0, _, _ => Scan.fail .missingFlagColon 0
  | fuel + 1, off, c => do
    if Flags.isKindLetter c then Scan.fail .kindTurnedOff 0
    let off := off.union ((Flags.ofLetter? c).getD {})
    let some t ← Scan.next? | Scan.fail .missingFlagColon 0
    match t with
    | .plain d =>
      if d == ':' then return off
      else if (Flags.ofLetter? d).isSome then readFlagsOff fuel off d
      else failFlag t .missingFlagColon
    | .escaped _ => failFlag t .missingFlagColon

/-- What the flags at the start of a group mean: for the whole pattern, or for the group. -/
inductive FlagGroup where
  | whole (on : Flags)
  | inside (on off : Flags)

/-- The flags of a group, from the first letter or the minus sign on. -/
def readFlags (c : Char) : ScanM FlagGroup := do
  let fuel := (← get).tokens.length + 1
  let (on, closer) ← if c == '-' then pure ({}, '-') else readFlagsOn fuel {} c
  if closer == ')' then return .whole on
  if on.template then Scan.fail .globalTurnedOn 1
  if closer == ':' then return .inside on {}
  let some t ← Scan.next? | Scan.fail .missingFlag 0
  let off ←
    match t with
    | .plain d =>
      if (Flags.ofLetter? d).isSome then readFlagsOff fuel {} d else failFlag t .missingFlag
    | .escaped _ => failFlag t .missingFlag
  if off.template then Scan.fail .globalTurnedOff 1
  if on.inter off != {} then Scan.fail .flagOnAndOff 1
  return .inside on off

/-- Refuses a name that is none; `back` more characters have been passed since. -/
def checkName (name : List Char) (back : Nat) : ScanM Unit := do
  if !Text.isName name then
    Scan.fail (.badGroupName (String.ofList name)) (name.length + back)

/-- Opens a group and gives its number. -/
def openGroup (name : Option (List Char)) : ReadM Nat := do
  let r ← get
  let number := r.groupLimit
  match name with
  | none => set { r with widths := r.widths ++ [none] }
  | some chars =>
    let written := String.ofList chars
    if let some earlier := r.names.lookup written then
      readFail (.redefinedGroup written number earlier) (chars.length + 1)
    set { r with widths := r.widths ++ [none], names := r.names ++ [(written, number)] }
  return number

/-- Closes a group, whose width is known from now on. -/
def closeGroup (number : Nat) (body : Node) : ReadM Unit :=
  modify fun r => { r with widths := r.widths.set (number - 1) (some body.width) }

/-- The greatest group number that may be named. -/
def groupNumberLimit : Nat := 1073741823

/-- The group that a condition asks for, by name or by number. -/
def readConditionGroup : ReadM Nat := do
  let name ← (Scan.takeName ')' "group name" : ScanM (List Char))
  let written := String.ofList name
  let back := name.length + 1
  if Text.isName name then
    match (← get).names.lookup written with
    | some number => return number
    | none => readFail (.unknownGroup written) back
  else
    match Text.readInteger? name with
    | some (.ofNat 0) => readFail .badGroupNumber back
    | some (.ofNat number) =>
      if number ≥ groupNumberLimit then readFail (.invalidGroup number) back
      let place := (← (Scan.place : ScanM Nat)) - back
      modify fun r =>
        if (r.conditions.lookup number).isSome then r
        else { r with conditions := r.conditions ++ [(number, place)] }
      return number
    | _ => readFail (.badGroupName written) back

/-- Passes a comment up to its closing parenthesis; `start` is where it begins. -/
def skipComment (start : Nat) : ScanM Unit := do
  let s ← get
  let skipped := s.tokens.takeWhile (· != .plain ')')
  match s.tokens.drop skipped.length with
  | [] =>
    if s.dangling then Scan.failAt .danglingBackslash (s.text.length - 1)
    Scan.failAt .unterminatedComment start
  | _ :: rest =>
    set { s with tokens := rest, offset := s.offset + (tokensText skipped).length + 1 }
    Scan.checkDangling

/-- Passes the rest of a line. -/
def skipLine : ScanM Unit := do
  let s ← get
  let skipped := s.tokens.takeWhile (· != .plain '\n')
  let rest := s.tokens.drop skipped.length
  set { s with
    tokens := rest.drop 1
    offset := s.offset + (tokensText skipped).length + min 1 rest.length }
  Scan.checkDangling

/-- The blanks that a verbose pattern may be laid out with. -/
def isLayout (c : Char) : Bool :=
  c == ' ' || c == '\t' || c == '\n' || c == '\r' || c == '\x0b' || c == '\x0c'

/-- What the opening of a group announces. -/
inductive Opening where
  /-- Nothing that matches: a comment, or flags for the whole pattern. -/
  | nothing
  /-- A finished part. -/
  | item (item : Item)
  /-- A group whose content follows. -/
  | content (name : Option (List Char)) (capture atomic : Bool) (on off : Flags)
  | look (behind negated : Bool)
  | condition (number : Nat)

/-- The opening of a group that extends the plain one, after the question mark. `start` is where
    the group begins, and `first` says that nothing stands before it in the pattern. -/
def readExtension (start : Nat) (first : Bool) : ReadM Opening := do
  let some t ← (Scan.next? : ScanM (Option Token)) | readFail .unexpectedEnd 0
  match t with
  | .plain 'P' =>
    if ← (Scan.accept '<' : ScanM Bool) then
      let name ← (Scan.takeName '>' "group name" : ScanM (List Char))
      checkName name 1
      return .content (some name) true false {} {}
    else if ← (Scan.accept '=' : ScanM Bool) then
      let name ← (Scan.takeName ')' "group name" : ScanM (List Char))
      checkName name 1
      match (← get).names.lookup (String.ofList name) with
      | none => readFail (.unknownGroup (String.ofList name)) (name.length + 1)
      | some number => return .item (← readAgain number (name.length + 1))
    else
      let some u ← (Scan.next? : ScanM (Option Token)) | readFail .unexpectedEnd 0
      readFail (.unknownExtension ("P" ++ tokenString u)) (u.length + 2)
  | .plain ':' => return .content none false false {} {}
  | .plain '#' =>
    skipComment start
    return .nothing
  | .plain '=' => return .look false false
  | .plain '!' => return .look false true
  | .plain '<' =>
    let some u ← (Scan.next? : ScanM (Option Token)) | readFail .unexpectedEnd 0
    match u with
    | .plain '=' => return .look true false
    | .plain '!' => return .look true true
    | _ => readFail (.unknownExtension ("<" ++ tokenString u)) (u.length + 2)
  | .plain '(' => return .condition (← readConditionGroup)
  | .plain '>' => return .content none false true {} {}
  | .plain c =>
    if (Flags.ofLetter? c).isSome || c == '-' then
      match ← (readFlags c : ScanM FlagGroup) with
      | .whole on =>
        modify fun r => { r with global := r.global.union on, scope := r.scope.union on }
        if !first then readFailAt .lateFlags start
        return .nothing
      | .inside on off => return .content none false false on off
    else readFail (.unknownExtension (tokenString t)) (t.length + 1)
  | .escaped _ => readFail (.unknownExtension (tokenString t)) (t.length + 1)

/-- Passes the closing parenthesis of a group that begins at `start`. -/
def readClose (start : Nat) : ReadM Unit := do
  if !(← (Scan.accept ')' : ScanM Bool)) then readFailAt .unterminatedGroup start

/-- Whether two nodes are the same leaf. Nodes with a body are never the same. -/
def Node.isSameLeaf : Node → Node → Bool
  | .char t m, .char t' m' => t == t' && m == m'
  | .anchor a, .anchor a' => a == a'
  | .again number _ _, .again number' _ _ => number == number'
  | _, _ => false

/-- A sequence without its first node, when that is the given leaf. -/
def dropLeaf? (leaf : Node) : List Node → Option (List Node)
  | [] => none
  | n :: rest => if leaf.isSameLeaf n then some rest else none

/-- The leaves that sequences have in common at their front, and what is left of each sequence. The
    first sequence is given apart from the others. -/
def splitShared : List Node → List (List Node) → List Node × List (List Node)
  | [], others => ([], [] :: others)
  | n :: rest, others =>
    match others.mapM (dropLeaf? n) with
    | some left =>
      let (shared, left) := splitShared rest left
      (n :: shared, left)
    | none => ([], (n :: rest) :: others)

/-- The members that a sequence adds to a set, when it is a single test that asks for one. -/
def setMembers? : List Node → Option (List Member)
  | [.char (.one point false) _] => some [.one point]
  | [.char (.set members false) _] => some members
  | _ => none

/-- Alternatives, at least one, as a sequence. Leaves that all of them begin with are taken out in
    front, and alternatives that are single characters then make up a set. -/
def joinAlternatives (mode : Mode) : List (List Node) → List Node
  | [] => []
  | [sequence] => sequence
  | sequence :: others =>
    let (shared, left) := splitShared sequence others
    match left.mapM setMembers? with
    | some members =>
      let test := CharTest.set members.flatten.eraseDups false
      shared ++ [.char test (mode.settled test)]
    | none => shared ++ [Node.ofAlternatives (left.map Node.ofSequence)]

mutual

/-- Alternatives; `top` says that they are the whole pattern, and `done` are those read so far, the
    latest first. -/
def readAlternatives : Nat → Bool → List (List Node) → ReadM (List Node)
  | 0, _, _ => readFail .unexpectedEnd 0
  | fuel + 1, top, done => do
    let sequence ← readSequence fuel (top && done.isEmpty) []
    if ← (Scan.accept '|' : ScanM Bool) then readAlternatives fuel top (sequence :: done)
    else return joinAlternatives (← get).scope.mode (sequence :: done).reverse

/-- A sequence; `first` says that it opens the pattern, and `done` are the items read so far, the
    latest first. -/
def readSequence : Nat → Bool → List Item → ReadM (List Node)
  | 0, _, _ => readFail .unexpectedEnd 0
  | fuel + 1, first, done => do
    let place ← (Scan.place : ScanM Nat)
    match ← (Scan.peek? : ScanM (Option Token)) with
    | none | some (.plain '|') | some (.plain ')') =>
      return done.reverse.flatMap (·.parts)
    | some (.escaped c) =>
      let _ ← (Scan.next? : ScanM (Option Token))
      readSequence fuel first ((← readEscape c) :: done)
    | some (.plain c) =>
      let _ ← (Scan.next? : ScanM (Option Token))
      let scope := (← get).scope
      if scope.verbose && isLayout c then readSequence fuel first done
      else if scope.verbose && c == '#' then
        skipLine
        readSequence fuel first done
      else
        match c with
        | '[' =>
          let test ← (readSet place : ScanM CharTest)
          readSequence fuel first ((← charItem test) :: done)
        | '.' =>
          let test := if scope.dotAll then CharTest.any else CharTest.anyInLine
          readSequence fuel first ((← charItem test) :: done)
        | '^' =>
          let anchor := if scope.multiline then Anchor.lineStart else Anchor.textStart
          readSequence fuel first (.ofAnchor anchor :: done)
        | '$' =>
          let anchor := if scope.multiline then Anchor.lineEnd else Anchor.finish
          readSequence fuel first (.ofAnchor anchor :: done)
        | '(' =>
          match ← readGroup fuel place (first && done.isEmpty) with
          | none => readSequence fuel first done
          | some item => readSequence fuel first (item :: done)
        | _ =>
          if c == '?' || c == '*' || c == '+' || c == '\x7b' then
            match ← (readRepeat? c : ScanM (Option (Nat × Option Nat))) with
            | some (least, most) =>
              readSequence fuel first (← (repeatItem place least most done : ScanM (List Item)))
            | none => readSequence fuel first ((← charItem (.one c.toNat false)) :: done)
          else readSequence fuel first ((← charItem (.one c.toNat false)) :: done)

/-- A group, after its opening parenthesis, which stands at `start`. -/
def readGroup : Nat → Nat → Bool → ReadM (Option Item)
  | 0, _, _ => readFail .unexpectedEnd 0
  | fuel + 1, start, first => do
    let opening ←
      if ← (Scan.accept '?' : ScanM Bool) then readExtension start first
      else pure (Opening.content none true false {} {})
    match opening with
    | .nothing => return none
    | .item item => return some item
    | .look behind negated =>
      let outer := (← get).lookbehindLimit
      if behind && outer.isNone then
        modify fun r => { r with lookbehindLimit := some r.groupLimit }
      let body := Node.ofSequence (← readAlternatives fuel false [])
      modify fun r => { r with lookbehindLimit := outer }
      readClose start
      let direction := if behind then Direction.behind body.width else Direction.ahead
      return some (.ofNode (.look direction negated body))
    | .condition number =>
      checkLookbehind number
      let present ← readSequence fuel false []
      let absent ←
        if ← (Scan.accept '|' : ScanM Bool) then
          let absent ← readSequence fuel false []
          if (← (Scan.peek? : ScanM (Option Token))) == some (.plain '|') then
            readFail .threeBranches 0
          pure absent
        else pure []
      readClose start
      return some (.ofNode
        (.ifGroup number (Node.ofSequence present) (Node.ofSequence absent)))
    | .content name capture atomic on off =>
      let number? ← if capture then some <$> openGroup name else pure none
      let outer := (← get).scope
      modify fun r => { r with scope := outer.within on off }
      let parts ← readAlternatives fuel false []
      let body := Node.ofSequence parts
      modify fun r => { r with scope := outer }
      readClose start
      match number? with
      | some number =>
        closeGroup number body
        return some (.ofNode (.group number body))
      | none =>
        if atomic then return some (.ofNode (.atomic body))
        else if on == {} && off == {} then return some ⟨parts, .other⟩
        else return some (.ofNode (.scoped body))

end

/-- What makes a tree that reads well impossible to match: a look behind of no fixed width, or,
    where repetition is switched off, a repetition. -/
def Node.flaw? (repeatsRefused : Bool) : Node → Option Flaw
  | .empty | .char _ _ | .anchor _ | .again _ _ _ => none
  | .seq a b | .alt a b | .ifGroup _ a b =>
    (a.flaw? repeatsRefused).orElse fun _ => b.flaw? repeatsRefused
  | .repeated greed _ _ body =>
    if repeatsRefused then
      some (.unsupportedRepeat
        (match greed with
        | .greedy => "MAX_REPEAT"
        | .lazy => "MIN_REPEAT"
        | .possessive => "POSSESSIVE_REPEAT"))
    else body.flaw? repeatsRefused
  | .group _ body | .scoped body | .atomic body => body.flaw? repeatsRefused
  | .look .ahead _ body => body.flaw? repeatsRefused
  | .look (.behind width) _ body =>
    if width.isFixed then body.flaw? repeatsRefused else some .variableLookbehind

/-- The width from which on a look behind is refused. -/
def lookbehindBound : Nat := 2147483648

/-- Whether a tree holds a look behind too wide to be moved back over. -/
def Node.looksTooFar : Node → Bool
  | .empty | .char _ _ | .anchor _ | .again _ _ _ => false
  | .seq a b | .alt a b | .ifGroup _ a b => a.looksTooFar || b.looksTooFar
  | .repeated _ _ _ body | .group _ body | .scoped body | .atomic body | .look .ahead _ body =>
    body.looksTooFar
  | .look (.behind width) _ body => width.least ≥ lookbehindBound || body.looksTooFar

/-- The whole pattern: alternatives up to the end of the text. -/
def readWhole : ReadM Node := do
  let node := Node.ofSequence (← readAlternatives (3 * (← getThe Scan).tokens.length + 4) true [])
  let r ← get
  if r.global.ascii && r.global.unicode then throw .clashingFlags
  if (← (Scan.peek? : ScanM (Option Token))).isSome then readFail .unbalanced 0
  if let some (number, place) := r.conditions.find? fun e => e.1 ≥ r.groupLimit then
    readFailAt (.invalidGroup number) place
  if let some flaw := node.flaw? r.global.template then
    throw (.flawed flaw (← getThe Scan).text none)
  if node.looksTooFar then throw .distantLookbehind
  return node

/-- A pattern's tree, and what else was found out about the pattern. -/
def read (text : String) : Except Refusal (Node × Reading) := do
  let start : ScanM (Node × Reading) := do
    Scan.checkDangling
    readWhole.run ⟨{}, {}, [], [], none, []⟩
  let (answer, _) ← start.run (Scan.start text)
  return answer

end SqlRunner.Pattern
