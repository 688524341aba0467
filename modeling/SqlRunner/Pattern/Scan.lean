import SqlRunner.Pattern.Flaw

/-!
# Scanning — a pattern or a template as a row of tokens

A token is a character, or a backslash with the character it escapes. A lone backslash at the end
is no token: it is a flaw, found as soon as the reader steps up to it, and so before any flaw that
the reader would find later.
-/

set_option autoImplicit false

namespace SqlRunner.Pattern

/-- A character, or an escaped one. -/
inductive Token where
  | plain (c : Char)
  | escaped (c : Char)
deriving DecidableEq, Repr

namespace Token

/-- The token as written. -/
def text : Token → List Char
  | plain c => [c]
  | escaped c => ['\\', c]

/-- How many characters the token takes. -/
def length : Token → Nat
  | plain _ => 1
  | escaped _ => 2

/-- The tokens of a text, and whether a lone backslash is left. -/
def ofText : List Char → List Token × Bool
  | [] => ([], false)
  | ['\\'] => ([], true)
  | '\\' :: c :: rest => let (tokens, dangling) := ofText rest; (escaped c :: tokens, dangling)
  | c :: rest => let (tokens, dangling) := ofText rest; (plain c :: tokens, dangling)

end Token

/-- The characters of a row of tokens. -/
def tokensText (tokens : List Token) : List Char := tokens.flatMap Token.text

/-- A reader's stand: the tokens ahead, and the place of the first of them. -/
structure Scan where
  text : String
  tokens : List Token
  dangling : Bool
  offset : Nat

/-- Reading that moves along the tokens and may be refused. -/
abbrev ScanM := StateT Scan (Except Refusal)

namespace Scan

/-- A flaw at a place. -/
def failAt {α : Type} (flaw : Flaw) (place : Nat) : ScanM α := do
  throw (.flawed flaw (← get).text (some place))

/-- A flaw some characters before the next token. -/
def fail {α : Type} (flaw : Flaw) (back : Nat) : ScanM α := do
  failAt flaw ((← get).offset - back)

/-- Refuses a stand whose next token would be a lone backslash. -/
def checkDangling : ScanM Unit := do
  let s ← get
  if s.tokens.isEmpty && s.dangling then failAt .danglingBackslash (s.text.length - 1)

/-- The stand at the start of a text. -/
def start (text : String) : Scan :=
  let (tokens, dangling) := Token.ofText text.toList
  ⟨text, tokens, dangling, 0⟩

/-- The next token, which stays. -/
def peek? : ScanM (Option Token) := do return (← get).tokens.head?

/-- The place of the next token. -/
def place : ScanM Nat := do return (← get).offset

/-- The next token, which is passed. -/
def next? : ScanM (Option Token) := do
  let s ← get
  match s.tokens with
  | [] => return none
  | t :: rest =>
    set { s with tokens := rest, offset := s.offset + t.length }
    checkDangling
    return some t

/-- Passes the next token when it is the character `c`. -/
def accept (c : Char) : ScanM Bool := do
  if (← peek?) == some (.plain c) then
    let _ ← next?
    return true
  else return false

/-- Passes at most `count` tokens while they are characters of a class. -/
def takeWhile (holds : Char → Bool) : Nat → ScanM (List Char)
  | 0 => return []
  | count + 1 => do
    match ← peek? with
    | some (.plain c) =>
      if holds c then
        let _ ← next?
        return c :: (← takeWhile holds count)
      else return []
    | _ => return []

/-- Passes the tokens up to `closer` and `closer` itself; what lies before it is a name and may not
    be empty. -/
def takeName (closer : Char) (what : String) : ScanM (List Char) := do
  let s ← get
  let name := s.tokens.takeWhile (· != .plain closer)
  let written := tokensText name
  match s.tokens.drop name.length with
  | [] =>
    set { s with tokens := [], offset := s.offset + written.length }
    checkDangling
    if written.isEmpty then fail (.missing what) 0
    else fail (.unterminatedName (String.singleton closer)) written.length
  | _ :: rest =>
    set { s with tokens := rest, offset := s.offset + written.length + 1 }
    checkDangling
    if written.isEmpty then fail (.missing what) 1 else return written

end Scan

end SqlRunner.Pattern
