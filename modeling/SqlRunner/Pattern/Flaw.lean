import SqlRunner.Text.Integer
import SqlRunner.Text.Quoted

/-!
# Flaws of a pattern — why a pattern or its template cannot be read

A pattern that cannot be read is refused when it is built; a template when it is first used. Either
way the flaw says what is wrong and, for most, at which character. The place is counted from zero
and is given as line and column too when the text has more than one line.
-/

set_option autoImplicit false

namespace SqlRunner.Pattern

/-- What is wrong with a pattern or a template. -/
inductive Flaw where
  | danglingBackslash
  | badEscape (written : String)
  | incompleteEscape (written : String)
  | octalTooLarge (written : String)
  | missingBrace
  | undefinedCharacter (name : String)
  | missing (what : String)
  | unterminatedName (closer : String)
  | badGroupName (name : String)
  | unknownGroup (name : String)
  | badGroupNumber
  | invalidGroup (number : Nat)
  | openGroup
  | groupOfLookbehind
  | redefinedGroup (name : String) (group earlier : Nat)
  | unexpectedEnd
  | unknownExtension (written : String)
  | unterminatedComment
  | unterminatedGroup
  | unterminatedSet
  | badRange (first last : String)
  | nothingToRepeat
  | multipleRepeat
  | repeatBounds
  | threeBranches
  | unbalanced
  | lateFlags
  | localeFlag
  | clashingKinds
  | unknownFlag
  | missingFlagEnd
  | missingFlag
  | missingFlagColon
  | kindTurnedOff
  | globalTurnedOn
  | globalTurnedOff
  | flagOnAndOff
  | variableLookbehind
  | unsupportedRepeat (name : String)

/-- The flaw in words. -/
def Flaw.message : Flaw → String
  | danglingBackslash => "bad escape (end of pattern)"
  | badEscape s => "bad escape " ++ s
  | incompleteEscape s => "incomplete escape " ++ s
  | octalTooLarge s => "octal escape value " ++ s ++ " outside of range 0-0o377"
  | missingBrace => "missing \x7b"
  | undefinedCharacter s => "undefined character name " ++ Text.quoted s
  | missing what => "missing " ++ what
  | unterminatedName closer => "missing " ++ closer ++ ", unterminated name"
  | badGroupName s => "bad character in group name " ++ Text.quoted s
  | unknownGroup s => "unknown group name " ++ Text.quoted s
  | badGroupNumber => "bad group number"
  | invalidGroup n => "invalid group reference " ++ toString n
  | openGroup => "cannot refer to an open group"
  | groupOfLookbehind => "cannot refer to group defined in the same lookbehind subpattern"
  | redefinedGroup s group earlier =>
    "redefinition of group name " ++ Text.quoted s ++ " as group " ++ toString group ++
      "; was group " ++ toString earlier
  | unexpectedEnd => "unexpected end of pattern"
  | unknownExtension s => "unknown extension ?" ++ s
  | unterminatedComment => "missing ), unterminated comment"
  | unterminatedGroup => "missing ), unterminated subpattern"
  | unterminatedSet => "unterminated character set"
  | badRange first last => "bad character range " ++ first ++ "-" ++ last
  | nothingToRepeat => "nothing to repeat"
  | multipleRepeat => "multiple repeat"
  | repeatBounds => "min repeat greater than max repeat"
  | threeBranches => "conditional backref with more than two branches"
  | unbalanced => "unbalanced parenthesis"
  | lateFlags => "global flags not at the start of the expression"
  | localeFlag => "bad inline flags: cannot use 'L' flag with a str pattern"
  | clashingKinds => "bad inline flags: flags 'a', 'u' and 'L' are incompatible"
  | unknownFlag => "unknown flag"
  | missingFlagEnd => "missing -, : or )"
  | missingFlag => "missing flag"
  | missingFlagColon => "missing :"
  | kindTurnedOff => "bad inline flags: cannot turn off flags 'a', 'u' and 'L'"
  | globalTurnedOn => "bad inline flags: cannot turn on global flag"
  | globalTurnedOff => "bad inline flags: cannot turn off global flag"
  | flagOnAndOff => "bad inline flags: flag turned on and off"
  | variableLookbehind => "look-behind requires fixed-width pattern"
  | unsupportedRepeat name => "internal: unsupported template operator " ++ name

/-- Why a pattern or a template was refused. -/
inductive Refusal where
  /-- A flaw, and the character it was found at. -/
  | flawed (flaw : Flaw) (text : String) (place : Option Nat)
  /-- A repetition count beyond what the matcher counts to. -/
  | endlessRepeat
  /-- A repetition count written with more digits than are read. -/
  | longNumber (digits : Nat)
  /-- A look behind by more than can be moved back over. -/
  | distantLookbehind
  /-- A match in which a group ends before it begins. -/
  | tangledGroup
  /-- Both kinds of character classes asked for at once. -/
  | clashingFlags
  /-- A template that names a group the pattern does not have. -/
  | unknownTemplateGroup (name : String)

/-- The line, counted from one, and the column of a place in a text. -/
def lineAndColumn (text : List Char) (place : Nat) : Nat × Nat :=
  let before := text.take place
  let line := before.count '\n' + 1
  let column := (before.reverse.takeWhile (· != '\n')).length + 1
  (line, column)

/-- The refusal in words. -/
def Refusal.message : Refusal → String
  | flawed flaw _ none => flaw.message
  | flawed flaw text (some place) =>
    let located := flaw.message ++ " at position " ++ toString place
    if text.toList.contains '\n' then
      let (line, column) := lineAndColumn text.toList place
      located ++ " (line " ++ toString line ++ ", column " ++ toString column ++ ")"
    else located
  | endlessRepeat => "the repetition number is too large"
  | longNumber digits => Text.longIntegerMessage digits
  | distantLookbehind => "invalid SRE code"
  | tangledGroup =>
    "The span of capturing group is wrong, please report a bug for the re module."
  | clashingFlags => "ASCII and UNICODE flags are incompatible"
  | unknownTemplateGroup name => "unknown group name " ++ Text.quoted name

end SqlRunner.Pattern
