import SqlRunner.Entries
import SqlRunner.Text.Blank

/-!
# Environment files — variables written down in a file

A file is a sequence of bindings, one a line: a name, and a value behind an equals sign. The word
`export` may stand in front, a comment behind, and names and values may be quoted:

* between single quotes a backslash stands before a backslash or a single quote;
* between double quotes it also writes the double quote and the control characters;
* without quotes the value ends with the line, or before blanks and a number sign.

A quoted value may go over several lines. A backslash in it keeps the character behind it from
ending the value, and may not end a line. A line that is no binding is passed over. A name without
an equals sign is bound to nothing, which hides an earlier value but gives none.

Once all bindings are read, the values are expanded one after another: `$` and a name between braces
stands for the variable of that name, with what follows `:-` in its place when there is none. The
file's own bindings come before those of the environment.
-/

set_option autoImplicit false

namespace SqlRunner.EnvFile

open Text

/-- The text with every line end written as a line feed. -/
def normalizeLineEnds : List Char → List Char
  | [] => []
  | '\r' :: '\n' :: rest => '\n' :: normalizeLineEnds rest
  | '\r' :: rest => '\n' :: normalizeLineEnds rest
  | c :: rest => c :: normalizeLineEnds rest

/-- The blanks that do not end a line. -/
def isInline (c : Char) : Bool := isBlank c && c != '\n'

/-- The text behind the inline blanks that it starts with. -/
def dropInline (s : List Char) : List Char := s.dropWhile isInline

/-- The text behind the end of its first line. -/
def dropLine (s : List Char) : List Char := (s.dropWhile (· != '\n')).drop 1

/-- The text behind the word `export`, where blanks follow it. -/
def dropExport (s : List Char) : List Char :=
  let word := "export".toList
  if word.isPrefixOf s && ((s.drop word.length).head?.map isInline).getD false then
    dropInline (s.drop word.length)
  else s

/-- The characters of names without quotes. -/
def isNameChar (c : Char) : Bool := !isBlank c && c != '=' && c != '#'

/-- The name that a binding starts with; none in front of a comment. -/
def readName? (s : List Char) : Option (Option (List Char) × List Char) :=
  match s with
  | '#' :: _ => some (none, s)
  | '\'' :: rest =>
    match rest.takeWhile (· != '\''), rest.dropWhile (· != '\'') with
    | c :: name, _ :: after => some (some (c :: name), after)
    | _, _ => none
  | _ =>
    match s.takeWhile isNameChar with
    | [] => none
    | name => some (some name, s.dropWhile isNameChar)

/-- The text up to the quote that ends it, with what follows the quote. -/
def readQuoted? (quote : Char) : List Char → Option (List Char × List Char)
  | [] => none
  | [c] => if c == quote then some ([], []) else none
  | c :: d :: rest =>
    if c == quote then some ([], d :: rest)
    else if c == '\\' then
      if d == '\n' then none
      else (readQuoted? quote rest).map fun (text, after) => (c :: d :: text, after)
    else (readQuoted? quote (d :: rest)).map fun (text, after) => (c :: text, after)

/-- What a letter behind a backslash writes between double quotes. -/
def doubleEscape? (c : Char) : Option Char :=
  match c with
  | '\\' | '\'' | '"' => some c
  | 'a' => some '\x07'
  | 'b' => some '\x08'
  | 'f' => some '\x0c'
  | 'n' => some '\n'
  | 'r' => some '\r'
  | 't' => some '\t'
  | 'v' => some '\x0b'
  | _ => none

/-- What a character behind a backslash writes between single quotes. -/
def singleEscape? (c : Char) : Option Char := if c == '\\' || c == '\'' then some c else none

/-- The text with its escapes resolved; a backslash before anything else stays. -/
def unescape (escape? : Char → Option Char) : List Char → List Char
  | [] => []
  | [c] => [c]
  | c :: d :: rest =>
    if c == '\\' then
      match escape? d with
      | some e => e :: unescape escape? rest
      | none => c :: unescape escape? (d :: rest)
    else c :: unescape escape? (d :: rest)

/-- The text before the first blanks that a number sign follows. -/
def beforeComment : List Char → List Char
  | [] => []
  | c :: rest =>
    if isBlank c && (dropBlanks (c :: rest)).head? == some '#' then [] else c :: beforeComment rest

/-- The value of a binding, from behind the equals sign. -/
def readValue? (s : List Char) : Option (List Char × List Char) :=
  match dropInline s with
  | '\'' :: rest =>
    (readQuoted? '\'' rest).map fun (text, after) => (unescape singleEscape? text, after)
  | '"' :: rest =>
    (readQuoted? '"' rest).map fun (text, after) => (unescape doubleEscape? text, after)
  | _ => some (trim (beforeComment (s.takeWhile (· != '\n'))), s.dropWhile (· != '\n'))

/-- The text behind a comment. -/
def dropComment (s : List Char) : List Char :=
  match dropInline s with
  | '#' :: rest => rest.dropWhile (· != '\n')
  | _ => s

/-- The text behind the end of a line on which nothing is left. -/
def endLine? (s : List Char) : Option (List Char) :=
  match dropInline s with
  | [] => some []
  | c :: rest => if c == '\n' then some rest else none

/-- A name and the value it is bound to, if to any. -/
abbrev Binding := String × Option String

/-- What stands on a line: a binding or none, with the text behind it. A line that cannot be read is
    passed over from the place where it stops making sense. -/
def readLine (s : List Char) : Option Binding × List Char :=
  let start := dropExport (dropBlanks s)
  match readName? start with
  | none => (none, dropLine start)
  | some (name, afterName) =>
    let atSign := dropInline afterName
    let valued :=
      match atSign with
      | '=' :: rest =>
        match readValue? rest with
        | some (value, after) => (some (some (String.ofList value)), after)
        | none => (none, rest)
      | _ => (some none, atSign)
    match valued with
    | (none, after) => (none, dropLine after)
    | (some value, after) =>
      let behind := dropComment after
      match endLine? behind with
      | none => (none, dropLine behind)
      | some rest => (name.map fun n => (String.ofList n, value), rest)

/-- The bindings of a text. Every line takes at least one character of it. -/
def readLines : Nat → List Char → List Binding
  | 0, _ => []
  | fuel + 1, s =>
    if (dropBlanks s).isEmpty then []
    else
      match readLine s with
      | (some binding, rest) => binding :: readLines fuel rest
      | (none, rest) => readLines fuel rest

/-- The bindings of a file, as they are written. -/
def bindings (text : String) : List Binding :=
  let s := normalizeLineEnds text.toList
  readLines s.length s

/-- A reference to a variable, from behind the brace: its name and what stands in for it, and the
    length of it all. -/
def readReference? (s : List Char) : Option (List Char × List Char × Nat) :=
  let name := s.takeWhile fun c => c != '\x7d' && c != ':'
  match s.dropWhile fun c => c != '\x7d' && c != ':' with
  | ':' :: '-' :: rest =>
    let standIn := rest.takeWhile (· != '\x7d')
    match rest.dropWhile (· != '\x7d') with
    | [] => none
    | _ :: _ => some (name, standIn, name.length + 2 + standIn.length + 1)
  | '\x7d' :: _ => some (name, [], name.length + 1)
  | _ => none

/-- The text with references replaced; `skip` characters still belong to the last one. A variable
    bound to nothing is empty. -/
def expandFrom (known : Entries (Option String)) : Nat → List Char → List Char
  | _, [] => []
  | skip + 1, _ :: rest => expandFrom known skip rest
  | 0, '$' :: '\x7b' :: rest =>
    match readReference? rest with
    | some (name, standIn, length) =>
      let value :=
        match known.get? (String.ofList name) with
        | some bound => (bound.getD "").toList
        | none => standIn
      value ++ expandFrom known length rest
    | none => '$' :: '\x7b' :: expandFrom known 0 rest
  | 0, c :: rest => c :: expandFrom known 0 rest

/-- Bindings with their values expanded one after another. -/
def expandAll (environment : Entries (Option String)) (done : Entries (Option String)) :
    List Binding → Entries (Option String)
  | [] => done
  | (name, value) :: rest =>
    let known := environment.merge done
    let expanded := value.map fun v => String.ofList (expandFrom known 0 v.toList)
    expandAll environment (done.put name expanded) rest

/-- The variables of a file, read in an environment. -/
def bound (environment : Entries String) (text : String) : Entries (Option String) :=
  expandAll (environment.map fun (name, value) => (name, some value)) [] (bindings text)

end SqlRunner.EnvFile
