import SqlRunner.Text.Blank
import SqlRunner.Text.Caseless

/-!
# Nodes of a pattern — what a pattern asks of a text

A pattern is a tree. Its leaves test one character, or a place between two; the inner nodes put
trees one after another, offer alternatives, repeat, remember what they matched, or look ahead and
behind without moving. Flags such as "ignore case" are settled while the pattern is read, so a node
carries all it needs.

`Node.width` bounds how many characters a tree can take. A look behind moves back by the width of
its tree before matching, which is why only trees of one width are admitted there.

Two kinds of leaves get a treatment of their own. A repetition of a single test (`Node.charTest?`)
is matched by counting, and a match of a tree that opens with a set (`Node.openingSet?`) is only
tried where the first character is in the set — in the set as the flags of the whole pattern
understand its classes, which need not be the flags that the set was read under.
-/

set_option autoImplicit false

namespace SqlRunner.Pattern

/-- How characters are classed and compared. -/
structure Mode where
  ignoreCase : Bool := false
  ascii : Bool := false
deriving DecidableEq, Repr

/-- The three named classes of characters. -/
inductive Category where
  | digit
  | blank
  | word
deriving DecidableEq, Repr

/-- Whether a character belongs to a class. -/
def Category.holds (ascii : Bool) : Category → Char → Bool
  | .digit, c => if ascii then c.isDigit else Text.isDecimal c
  | .blank, c => if ascii then Text.isAsciiBlank c else Text.isBlank c
  | .word, c => if ascii then Text.isAsciiWordChar c else Text.isWordChar c

/-- A member of a character set. Code points that are no characters may be written and never
    match. -/
inductive Member where
  | one (point : Nat)
  | range (first last : Nat)
  | category (category : Category) (negated : Bool)
deriving DecidableEq, Repr

/-- A test of one character. -/
inductive CharTest where
  | any
  | anyInLine
  | one (point : Nat) (negated : Bool)
  | set (members : List Member) (negated : Bool)
deriving DecidableEq, Repr

/-- The lower case that a mode compares by. -/
def Mode.lower (mode : Mode) (point : Nat) : Nat :=
  if mode.ascii then if 65 ≤ point && point ≤ 90 then point + 32 else point
  else Text.lowerPoint point

/-- Whether a mode knows another case of the code point. -/
def Mode.hasCase (mode : Mode) (point : Nat) : Bool :=
  if mode.ascii then (65 ≤ point && point ≤ 90) || (97 ≤ point && point ≤ 122)
  else Text.hasCase point

/-- The lower-case points that are the same letter as a lower-case point. -/
def Mode.kin (mode : Mode) (low : Nat) : List Nat :=
  if mode.ascii then [low] else Text.letterClass low

/-- Whether some character of the range has a case. -/
def Mode.rangeHasCase (mode : Mode) (first last : Nat) : Bool :=
  if mode.ascii then (first ≤ 90 && 65 ≤ last) || (first ≤ 122 && 97 ≤ last)
  else Text.rangeHasCase first last

/-- The code points, of either case, that are the same letter as a lower-case point. -/
def Mode.sameLetters (mode : Mode) (low : Nat) : List Nat :=
  if mode.ascii then if 97 ≤ low && low ≤ 122 then [low, low - 32] else [low]
  else (Text.letterClass low).flatMap Text.lowerSources

/-- The last code point of the basic plane. A set that ignores case treats what lies beyond it by
    comparison instead of by case mapping. -/
def lastBasicPoint : Nat := 0xFFFF

/-- Whether a member makes its set compare in lower case. -/
def Member.hasCase (mode : Mode) : Member → Bool
  | .one p => mode.lower p > lastBasicPoint || mode.hasCase p
  | .range first last => last > lastBasicPoint || mode.rangeHasCase first last
  | .category _ _ => false

/-- Whether a test differs between comparing characters as they are and in lower case. -/
def CharTest.hasCase (mode : Mode) : CharTest → Bool
  | .any | .anyInLine => false
  | .one p _ => mode.hasCase p
  | .set members _ => members.any (·.hasCase mode)

/-- The mode of a single test: case is ignored only where that makes a difference. -/
def Mode.settled (mode : Mode) (test : CharTest) : Mode :=
  { mode with ignoreCase := mode.ignoreCase && test.hasCase mode }

/-- Whether a code point of the range, in lower case, is the same letter as `low`. -/
def Mode.rangeHolds (mode : Mode) (first last low : Nat) : Bool :=
  (mode.sameLetters low).any fun p => first ≤ p && p ≤ min last lastBasicPoint

/-- Membership of a character, compared as it is. -/
def Member.holds (mode : Mode) (t : Char) : Member → Bool
  | .one p => p == t.toNat
  | .range first last => first ≤ t.toNat && t.toNat ≤ last
  | .category c negated => c.holds mode.ascii t != negated

/-- Membership of a character whose lower case is `low`, compared without case. -/
def Member.holdsCaseless (mode : Mode) (low : Nat) : Member → Bool
  | .one p =>
    if mode.lower p > lastBasicPoint then p == low
    else (mode.kin (mode.lower p)).contains low
  | .range first last =>
    mode.rangeHolds first last low ||
      (last > lastBasicPoint &&
        ((first ≤ low && low ≤ last) ||
          (first ≤ Text.upperPoint low && Text.upperPoint low ≤ last)))
  | .category c negated => c.holds mode.ascii (Char.ofNat low) != negated

/-- Whether a character passes the test, in a mode settled for it. -/
def CharTest.holds (mode : Mode) (t : Char) : CharTest → Bool
  | .any => true
  | .anyInLine => t != '\n'
  | .one p negated =>
    (if mode.ignoreCase then (mode.kin (mode.lower p)).contains (mode.lower t.toNat)
    else p == t.toNat) != negated
  | .set members negated =>
    (if mode.ignoreCase then
      let low := mode.lower t.toNat
      members.any (·.holdsCaseless mode low)
    else members.any (·.holds mode t)) != negated

/-- A test of a place between two characters. -/
inductive Anchor where
  | textStart
  | lineStart
  | textEnd
  /-- The end of the text, or the place before a line end that closes it. -/
  | finish
  | lineEnd
  | wordEdge (ascii : Bool)
  | notWordEdge (ascii : Bool)
deriving DecidableEq, Repr

/-- How a repetition chooses its count. -/
inductive Greed where
  | greedy
  | lazy
  | possessive
deriving DecidableEq, Repr

/-- The least and the greatest number of characters something can take. -/
structure Width where
  least : Nat
  most : Nat
deriving DecidableEq, Repr

/-- The greatest number that widths are counted to; a repetition without bound counts as so many
    rounds. -/
def Width.limit : Nat := 4294967295

/-- The width cut to the limit. The least width stays below it, so a width without bound is never
    a fixed one. -/
def Width.clip (w : Width) : Width := ⟨min w.least (limit - 1), min w.most limit⟩

/-- Whether everything of that width takes the same number of characters. -/
def Width.isFixed (w : Width) : Bool := w.least == w.most

/-- Which way a node looks without moving. -/
inductive Direction where
  | ahead
  /-- Back by the width of what is looked for. -/
  | behind (width : Width)
deriving DecidableEq, Repr

/-- A pattern. The body of a `scoped` node was read under flags of its own; they are settled in its
    leaves, and what is left of the scope is that the body is no part of the sequence around it. -/
inductive Node where
  | empty
  | char (test : CharTest) (mode : Mode)
  | anchor (anchor : Anchor)
  | seq (first second : Node)
  | alt (first second : Node)
  | repeated (greed : Greed) (least : Nat) (most : Option Nat) (body : Node)
  | group (number : Nat) (body : Node)
  | scoped (body : Node)
  /-- What a group matched, again; `width` is the width of that group. -/
  | again (number : Nat) (width : Width) (mode : Mode)
  | look (direction : Direction) (negated : Bool) (body : Node)
  | ifGroup (number : Nat) (present absent : Node)
  | atomic (body : Node)
deriving Repr

/-- The width of a node. -/
def Node.width : Node → Width
  | .empty | .anchor _ | .look _ _ _ => ⟨0, 0⟩
  | .char _ _ => ⟨1, 1⟩
  | .seq a b => Width.clip ⟨a.width.least + b.width.least, a.width.most + b.width.most⟩
  | .alt a b => ⟨min a.width.least b.width.least, max a.width.most b.width.most⟩
  | .repeated _ least most body =>
    Width.clip ⟨body.width.least * least, body.width.most * most.getD Width.limit⟩
  | .group _ body | .scoped body | .atomic body => body.width
  | .again _ w _ => w
  | .ifGroup _ present absent =>
    ⟨min present.width.least absent.width.least, max present.width.most absent.width.most⟩

/-- Nodes one after another. -/
def Node.ofSequence : List Node → Node
  | [] => .empty
  | [n] => n
  | n :: rest => .seq n (ofSequence rest)

/-- Nodes as alternatives, the first preferred. -/
def Node.ofAlternatives : List Node → Node
  | [] => .empty
  | [n] => n
  | n :: rest => .alt n (ofAlternatives rest)

/-- The test of a node that takes exactly one character by a test. -/
def Node.charTest? : Node → Option (CharTest × Mode)
  | .char test mode => some (test, mode)
  | .scoped body => body.charTest?
  | _ => none

/-- Whether the member, in its mode, stands for characters of more than one case. -/
def Member.spansCase (mode : Mode) : Member → Bool
  | .one p => mode.hasCase p
  | .range first last => last > lastBasicPoint || mode.rangeHasCase first last
  | .category _ _ => false

/-- The set that the first character of a match is looked for with before matching begins. Only a
    set right at the opening serves, also inside groups, and only one that is blind to case. -/
def Node.openingSet? : Node → Option CharTest
  | .char (.set members negated) mode =>
    if mode.ignoreCase && members.any (·.spansCase mode) then none
    else some (.set members negated)
  | .seq first _ => first.openingSet?
  | .group _ body | .scoped body => body.openingSet?
  | _ => none

end SqlRunner.Pattern
