import SqlRunner.Pattern.Marks
import SqlRunner.Pattern.Node

/-!
# Matching — where in a text a pattern holds

A node is matched in continuation style: `Node.run n k` tries the ways in which `n` can match from
a place, in order of preference, and hands each place it reaches to `k` until one is accepted. So
preference and backtracking are the order of evaluation. The marks of the groups travel along, into
a failure too: what a failed attempt leaves of them is seen by the next one (see `Marks`), and so
can decide whether a condition on a group holds.

Repetition counts down a fuel that is never used up: past the required count a round is only begun
at a place other than where the round before began, places only move to the right, and so there are
at most as many further rounds as characters left, and one.
-/

set_option autoImplicit false

namespace SqlRunner.Pattern

/-- How an attempt ended: at a place, or nowhere; either way with marks. -/
inductive Outcome where
  | found (place : Nat) (marks : Marks)
  | lost (marks : Marks)

/-- What is done with a place once it is reached. -/
abbrev Continuation := Nat → Marks → Outcome

/-- The ways of matching something, each handed to the continuation. -/
abbrev Step := Continuation → Continuation

/-- The character before a place. -/
def charBefore? (text : Array Char) (p : Nat) : Option Char :=
  if p = 0 then none else text[p - 1]?

/-- Whether a word starts or ends at a place. -/
def atWordEdge (text : Array Char) (p : Nat) (ascii : Bool) : Bool :=
  let isWord (c : Option Char) := (c.map (Category.holds ascii .word)).getD false
  isWord (charBefore? text p) != isWord text[p]?

/-- Whether an anchor holds at a place. A text without characters has no word edges and no places
    between either. -/
def Anchor.holds (text : Array Char) (p : Nat) : Anchor → Bool
  | .textStart => p == 0
  | .lineStart => p == 0 || charBefore? text p == some '\n'
  | .textEnd => p == text.size
  | .finish => p == text.size || (p + 1 == text.size && text[p]? == some '\n')
  | .lineEnd => p == text.size || text[p]? == some '\n'
  | .wordEdge ascii => !text.isEmpty && atWordEdge text p ascii
  | .notWordEdge ascii => !text.isEmpty && !atWordEdge text p ascii

/-- Whether the character at a place passes the test. -/
def holdsAt (text : Array Char) (test : CharTest) (mode : Mode) (p : Nat) : Bool :=
  match text[p]? with
  | some t => test.holds mode t
  | none => false

/-- Whether another round is allowed after `count` rounds. -/
def mayRepeat (most : Option Nat) (count : Nat) : Bool :=
  match most with
  | none => true
  | some n => count < n

/-- As many rounds as possible first. `last` is where the latest optional round began. -/
def runGreedy (body : Step) (least : Nat) (most : Option Nat) :
    Nat → Nat → Option Nat → Step
  | 0, _, _, _, _, m => .lost m
  | fuel + 1, count, last, k, p, m =>
    if count < least then body (runGreedy body least most fuel (count + 1) last k) p m
    else if mayRepeat most count && last != some p then
      match body (runGreedy body least most fuel (count + 1) (some p) k) p m with
      | .found q n => .found q n
      | .lost _ => k p m
    else k p m

/-- As few rounds as possible first. `inside` says that the repetition is part of another one. -/
def runLazy (body : Step) (inside : Bool) (least : Nat) (most : Option Nat) :
    Nat → Nat → Option Nat → Step
  | 0, _, _, _, _, m => .lost m
  | fuel + 1, count, last, k, p, m =>
    if count < least then body (runLazy body inside least most fuel (count + 1) last k) p m
    else
      match k p m with
      | .found q n => .found q n
      | .lost n =>
        let n := n.backTo m inside
        if mayRepeat most count && last != some p then
          body (runLazy body inside least most fuel (count + 1) (some p) k) p n
        else .lost n

/-- As many rounds as possible, each in its preferred way, and no going back. -/
def runPossessive (body : Step) (least : Nat) (most : Option Nat) :
    Nat → Nat → Option Nat → Continuation
  | 0, _, _, p, m => .found p m
  | fuel + 1, count, last, p, m =>
    if count < least then
      match body .found p m with
      | .found q n => runPossessive body least most fuel (count + 1) last q n
      | .lost n => .lost n
    else if mayRepeat most count && last != some p then
      match body .found p m with
      | .found q n => runPossessive body least most fuel (count + 1) (some p) q n
      | .lost _ => .found p m
    else .found p m

/-- How many characters from a place on pass a test, at most `most`. -/
def countHolding (holds : Nat → Bool) (most : Nat) (p : Nat) : Nat :=
  match most with
  | 0 => 0
  | most + 1 => if holds p then countHolding holds most (p + 1) + 1 else 0

/-- Hands the places `extra`, …, one and none behind `p` to the continuation, the farthest first. -/
def tryBackward (k : Continuation) (restore : Marks → Marks) (p : Nat) : Nat → Marks → Outcome
  | 0, m =>
    match k p m with
    | .found q n => .found q n
    | .lost n => .lost (restore n)
  | extra + 1, m =>
    match k (p + (extra + 1)) m with
    | .found q n => .found q n
    | .lost n => tryBackward k restore p extra (restore n)

/-- Hands `p` and the places behind it to the continuation, the nearest first, as long as the
    characters between pass the test, and at most `extra` of them. -/
def tryForward (k : Continuation) (restore : Marks → Marks) (holds : Nat → Bool) :
    Nat → Nat → Marks → Outcome
  | 0, p, m =>
    match k p m with
    | .found q n => .found q n
    | .lost n => .lost (restore n)
  | extra + 1, p, m =>
    match k p m with
    | .found q n => .found q n
    | .lost n =>
      if holds p then tryForward k restore holds extra (p + 1) (restore n) else .lost (restore n)

/-- A repetition of a single test. -/
def runCounted (size : Nat) (holds : Nat → Bool) (inside : Bool) (greed : Greed) (least : Nat)
    (most : Option Nat) : Step := fun k p m =>
  if size - p < least then .lost m
  else
    let restore (n : Marks) := n.backTo m inside
    let upTo := min (most.getD (size - p)) (size - p)
    match greed with
    | .greedy =>
      let count := countHolding holds upTo p
      if count < least then .lost m else tryBackward k restore (p + least) (count - least) m
    | .lazy =>
      if countHolding holds least p < least then .lost m
      else tryForward k restore holds (upTo - least) (p + least) m
    | .possessive =>
      let count := countHolding holds upTo p
      if count < least then .lost m else k (p + count) m

/-- The place behind the text from `start` to `stop`, when it stands at `p` again. -/
def passAgain? (text : Array Char) (mode : Mode) (start stop p : Nat) : Option Nat :=
  let length := stop - start
  let same (i : Nat) : Bool :=
    match text[start + i]?, text[p + i]? with
    | some c, some t =>
      if mode.ignoreCase then mode.lower c.toNat == mode.lower t.toNat else c == t
    | _, _ => false
  if (List.range length).all same then some (p + length) else none

/-- Enough fuel for a repetition begun at a place. -/
def repeatFuel (least : Nat) (text : Array Char) (p : Nat) : Nat := least + (text.size - p) + 2

/-- The ways in which a node matches, in order of preference. `inside` says that the node is part
    of a repetition that is matched round by round and can be gone back into. -/
def Node.run (text : Array Char) : Node → Bool → Step
  | .empty, _, k, p, m => k p m
  | .char test mode, _, k, p, m => if holdsAt text test mode p then k (p + 1) m else .lost m
  | .anchor a, _, k, p, m => if a.holds text p then k p m else .lost m
  | .seq a b, inside, k, p, m => a.run text inside (b.run text inside k) p m
  | .alt a b, inside, k, p, m =>
    match a.run text inside k p m with
    | .found q n => .found q n
    | .lost n =>
      match b.run text inside k p (n.backTo m inside) with
      | .found q n => .found q n
      | .lost n => .lost (n.backTo m inside)
  | .repeated greed least most body, inside, k, p, m =>
    match body.charTest?, greed with
    | some (test, mode), _ =>
      runCounted text.size (holdsAt text test mode) inside greed least most k p m
    | none, .greedy =>
      runGreedy (body.run text true) least most (repeatFuel least text p) 0 none k p m
    | none, .lazy =>
      runLazy (body.run text true) inside least most (repeatFuel least text p) 0 none k p m
    | none, .possessive =>
      match runPossessive (body.run text inside) least most (repeatFuel least text p) 0 none p m with
      | .found q n => k q n
      | .lost n => .lost n
  | .group number body, inside, k, p, m =>
    body.run text inside (fun q n => k q (n.leave number q)) p (m.enter number p)
  | .scoped body, inside, k, p, m => body.run text inside k p m
  | .again number _ mode, _, k, p, m =>
    match m.group? number with
    | none => .lost m
    | some (start, stop) =>
      match passAgain? text mode start stop p with
      | some q => k q m
      | none => .lost m
  | .look direction negated body, inside, k, p, m =>
    let start? :=
      match direction with
      | .ahead => some p
      | .behind width => if width.least ≤ p then some (p - width.least) else none
    match start? with
    | none => if negated then k p m else .lost m
    | some start =>
      match body.run text inside .found start m, negated with
      | .found _ n, false => k p n
      | .lost n, false => .lost n
      | .found _ n, true => .lost n
      | .lost n, true => k p (n.backTo m inside)
  | .ifGroup number present absent, inside, k, p, m =>
    if (m.group? number).isSome then present.run text inside k p m else absent.run text inside k p m
  | .atomic body, inside, k, p, m =>
    match body.run text inside .found p m with
    | .found q n => k q n
    | .lost n => .lost n

/-- A match: where it begins and ends, and the marks of its groups. -/
structure Match where
  start : Nat
  stop : Nat
  marks : Marks

/-- The preferred match that begins at a place. With `moving`, a match that ends where it begins
    does not count. -/
def Node.matchAt (n : Node) (text : Array Char) (moving : Bool) (p : Nat) : Option Match :=
  let accept : Continuation := fun q m => if moving && q == p then .lost m else .found q m
  match n.run text false accept p [] with
  | .found q marks => some ⟨p, q, marks⟩
  | .lost _ => none

end SqlRunner.Pattern
