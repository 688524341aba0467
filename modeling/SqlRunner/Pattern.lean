import SqlRunner.Pattern.Matcher
import SqlRunner.Pattern.Template

/-!
# Patterns — regular expressions and replacement by them

A pattern is built once from its text, which may be refused, and then applied to any number of
texts. Replacement goes from left to right over matches that do not overlap. A match may be empty;
where one has just been replaced, the next has to take at least one character or to begin further
on, so every place is considered and the pass ends.
-/

set_option autoImplicit false

namespace SqlRunner

/-- A pattern that has been read. -/
structure Pattern where
  source : String
  root : Pattern.Node
  /-- The fewest characters that a match takes. -/
  least : Nat
  /-- The set that the first character of a match is looked for with. Its classes are those that
      the flags of the whole pattern ask for. -/
  opening? : Option (Pattern.CharTest × Pattern.Mode)
  groupCount : Nat
  names : List (String × Nat)
deriving Repr

namespace Pattern

/-- The pattern that a text writes. -/
def ofText (text : String) : Except Refusal Pattern := do
  let (root, r) ← read text
  let least := root.width.least
  let opening? := if least = 0 then none else root.openingSet?
  return {
    source := text
    root := root
    least := least
    opening? := opening?.map fun test => (test, ⟨false, r.global.ascii⟩)
    groupCount := r.widths.length
    names := r.names }

/-- Whether a match may begin at a place. -/
def mayBegin (pattern : Pattern) (text : Array Char) (p : Nat) : Bool :=
  match pattern.opening? with
  | none => true
  | some (test, mode) => holdsAt text test mode p

/-- The first match that begins at `p` or at one of so many places behind it; `moving` concerns `p`
    alone. -/
def findWithin (root : Node) (mayBegin : Nat → Bool) (text : Array Char) :
    Nat → Nat → Bool → Option Match
  | 0, p, moving => if mayBegin p then root.matchAt text moving p else none
  | more + 1, p, moving =>
    match if mayBegin p then root.matchAt text moving p else none with
    | some found => some found
    | none => findWithin root mayBegin text more (p + 1) false

/-- The first match that begins at `p` or behind it. With `moving`, a match at `p` has to take a
    character. -/
def find? (pattern : Pattern) (text : Array Char) (moving : Bool) (p : Nat) : Option Match :=
  if text.size - p < pattern.least then none
  else
    findWithin pattern.root (pattern.mayBegin text) text (text.size - (pattern.least - 1) - p) p
      moving

/-- What a match is replaced with. A template that refers to groups asks of all groups that they
    end where they begin or behind it. -/
def Match.expand (pattern : Pattern) (pieces : List Piece) (text : Array Char) (found : Match) :
    Except Refusal (List Char) := do
  let tangled (number : Nat) : Bool :=
    match found.marks.span? number with
    | some (start, stop) => stop < start
    | none => false
  if pieces.any Piece.isGroup && (List.range' 1 pattern.groupCount).any tangled then
    throw .tangledGroup
  let group? (number : Nat) : Option (List Char) :=
    let span? := if number = 0 then some (found.start, found.stop) else found.marks.group? number
    span?.map fun (start, stop) => (text.extract start stop).toList
  return expandPieces group? pieces

/-- Replacement from a place on; `done` is the text so far, the latest character first. `moving`
    asks the next match here to take a character. -/
def replaceFrom (pattern : Pattern) (pieces : List Piece) (text : Array Char) :
    Nat → Nat → Bool → List Char → Except Refusal (List Char)
  | 0, _, _, done => return done.reverse
  | fuel + 1, p, moving, done => do
    match pattern.find? text moving p with
    | none => return done.reverse ++ (text.extract p text.size).toList
    | some found =>
      let kept := (text.extract p found.start).toList
      let new ← found.expand pattern pieces text
      replaceFrom pattern pieces text fuel found.stop (found.stop == found.start)
        (new.reverse ++ (kept.reverse ++ done))

/-- The text with every match replaced by the template. The template is read first, so a template
    that cannot be read is refused even where nothing matches. -/
def replace (pattern : Pattern) (template text : String) : Except Refusal String := do
  let pieces ← readTemplate pattern.groupCount pattern.names template
  let fuel := 2 * text.length + 2
  return String.ofList (← replaceFrom pattern pieces text.toList.toArray fuel 0 false [])

end Pattern

end SqlRunner
