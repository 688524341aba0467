import SqlRunner.Text.CaseMap

/-!
# Comparison without case — when two characters are the same letter

Delimiters, separators and patterns are compared without regard to case, one character against one
character. Two characters agree when their lower-case forms do, or when the two forms share an
upper-case form (`s` and the long `ſ`, the two lower-case sigmas). The first notion is computed from
the case maps, cut to their first character; the second is the table `caseKin`.

A character without case agrees with itself alone. That is a rule of its own and no consequence of
the lower-case rule: the comparison is asked of the character on the *pattern's* side.
-/

set_option autoImplicit false

namespace SqlRunner.Text

/-- For a lower-case code point, the other lower-case code points with the same upper case. -/
def caseKin : List (Nat × List Nat) := [
    (0x69, [0x131]), (0x73, [0x17F]), (0xB5, [0x3BC]), (0x131, [0x69]), (0x17F, [0x73]),
    (0x345, [0x3B9, 0x1FBE]), (0x390, [0x1FD3]), (0x3B0, [0x1FE3]), (0x3B2, [0x3D0]),
    (0x3B5, [0x3F5]), (0x3B8, [0x3D1]), (0x3B9, [0x345, 0x1FBE]), (0x3BA, [0x3F0]),
    (0x3BC, [0xB5]), (0x3C0, [0x3D6]), (0x3C1, [0x3F1]), (0x3C2, [0x3C3]), (0x3C3, [0x3C2]),
    (0x3C6, [0x3D5]), (0x3D0, [0x3B2]), (0x3D1, [0x3B8]), (0x3D5, [0x3C6]), (0x3D6, [0x3C0]),
    (0x3F0, [0x3BA]), (0x3F1, [0x3C1]), (0x3F5, [0x3B5]), (0x432, [0x1C80]), (0x434, [0x1C81]),
    (0x43E, [0x1C82]), (0x441, [0x1C83]), (0x442, [0x1C84, 0x1C85]), (0x44A, [0x1C86]),
    (0x463, [0x1C87]), (0x1C80, [0x432]), (0x1C81, [0x434]), (0x1C82, [0x43E]),
    (0x1C83, [0x441]), (0x1C84, [0x442, 0x1C85]), (0x1C85, [0x442, 0x1C84]), (0x1C86, [0x44A]),
    (0x1C87, [0x463]), (0x1C88, [0xA64B]), (0x1E61, [0x1E9B]), (0x1E9B, [0x1E61]),
    (0x1FBE, [0x345, 0x3B9]), (0x1FD3, [0x390]), (0x1FE3, [0x3B0]), (0xA64B, [0x1C88]),
    (0xFB05, [0xFB06]), (0xFB06, [0xFB05])]

/-- The first code point of the lower case; a number that is no character is its own. -/
def lowerPoint (n : Nat) : Nat :=
  if n.isValidChar then ((lowerChar (Char.ofNat n)).head?.map Char.toNat).getD n else n

/-- The first code point of the upper case; a number that is no character is its own. -/
def upperPoint (n : Nat) : Nat :=
  if n.isValidChar then ((upperChar (Char.ofNat n)).head?.map Char.toNat).getD n else n

/-- Whether the code point has a lower or an upper case other than itself. -/
def hasCase (n : Nat) : Bool := lowerPoint n != n || upperPoint n != n

/-- Whether some code point from `first` to `last` has a lower or an upper case other than
    itself. -/
def rangeHasCase (first last : Nat) : Bool :=
  let meets (low high : Nat) : Bool := first ≤ high && low ≤ last
  meets 0x41 0x5A || meets 0x61 0x7A || meets 0x130 0x130 ||
    lowerRuns.any (·.meets first last) || upperRuns.any (·.meets first last) ||
    upperSpecials.any fun e => meets e.1 e.1

/-- The code points whose lower case is `n`. -/
def lowerSources (n : Nat) : List Nat :=
  (if lowerPoint n == n then [n] else []) ++
    (if 0x61 ≤ n && n ≤ 0x7A then [n - 0x20] else []) ++
    (if n == 0x69 then [0x130] else []) ++ lowerRuns.filterMap (·.source? n)

/-- The lower-case code points that count as the same letter as `n`. -/
def letterClass (n : Nat) : List Nat :=
  let low := lowerPoint n
  low :: ((caseKin.find? fun e => e.1 == low).map (·.2)).getD []

/-- Whether `t` is the same letter as the code point `n` that a pattern asks for. -/
def samePoint (n : Nat) (t : Char) : Bool :=
  if hasCase n then (letterClass n).contains (lowerPoint t.toNat) else n == t.toNat

/-- Whether `t` is the same letter as `c`. -/
def sameLetter (c t : Char) : Bool := samePoint c.toNat t

/-- Whether `s` starts with `wanted`, letter by letter. -/
def startsCaseless : List Char → List Char → Bool
  | [], _ => true
  | _ :: _, [] => false
  | c :: wanted, t :: s => sameLetter c t && startsCaseless wanted s

/-- Whether the two texts agree letter by letter. -/
def sameText : List Char → List Char → Bool
  | [], [] => true
  | c :: wanted, t :: s => sameLetter c t && sameText wanted s
  | _, _ => false

end SqlRunner.Text
