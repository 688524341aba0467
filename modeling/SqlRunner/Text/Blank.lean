/-!
# Blank characters — the separators that text is trimmed of

Every reader of SQL text in this library skips the same twenty-nine characters: the ASCII
controls tab to carriage return, the four information separators, the space, and the spaces and
line ends that Unicode adds. Line *structure* is another matter: a line ends at `'\n'` alone, so a
carriage return is a blank inside a line.
-/

set_option autoImplicit false

namespace SqlRunner.Text

/-- The characters that count as blank. -/
def isBlank (c : Char) : Bool :=
  let n := c.toNat
  (9 ≤ n && n ≤ 13) || (28 ≤ n && n ≤ 32) || n == 0x85 || n == 0xA0 || n == 0x1680 ||
    (0x2000 ≤ n && n ≤ 0x200A) || n == 0x2028 || n == 0x2029 || n == 0x202F || n == 0x205F ||
    n == 0x3000

/-- The blanks of ASCII alone, without the information separators. -/
def isAsciiBlank (c : Char) : Bool :=
  let n := c.toNat
  (9 ≤ n && n ≤ 13) || n == 32

/-- The text without its leading blanks. -/
def dropBlanks (s : List Char) : List Char := s.dropWhile isBlank

/-- The blanks that the text starts with. -/
def leadingBlanks (s : List Char) : List Char := s.takeWhile isBlank

/-- The text without its trailing blanks. A blank is kept exactly when something that is no blank
    comes after it, so one pass from the right decides. -/
def trimEnd : List Char → List Char
  | [] => []
  | c :: rest =>
    match trimEnd rest with
    | [] => if isBlank c then [] else [c]
    | kept => c :: kept

/-- The text without the blanks at its two ends. -/
def trim (s : List Char) : List Char := trimEnd (dropBlanks s)

/-- Whether nothing but blanks is there. -/
def isAllBlank (s : List Char) : Bool := s.all isBlank

/-- A blank text trims to nothing. -/
theorem trimEnd_eq_nil {s : List Char} (h : isAllBlank s = true) : trimEnd s = [] := by
  induction s with
  | nil => rfl
  | cons c rest ih =>
    simp only [isAllBlank, List.all_cons, Bool.and_eq_true] at h
    simp [trimEnd, ih h.2, h.1]

end SqlRunner.Text
