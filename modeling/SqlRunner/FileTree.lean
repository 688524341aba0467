import SqlRunner.Fault

/-!
# File trees — the directories and files that a database file is opened among

A path is read part by part from the working directory, which the tree calls its home, or from the
root. The parts that say nothing (`.` and empty ones) are dropped when a path is read; `..` is
followed when it is walked, so the part before it has to be a directory or is made one.

Opening a file makes the directories on the way to it. A file in place of a directory is a fault,
and so is a directory in place of the file. Names and paths are bounded, in octets: the system
refuses to make a directory beyond its bounds, and the database refuses a file beyond its own.
-/

set_option autoImplicit false

namespace SqlRunner

/-- What a name stands for in a directory. -/
inductive FileKind where
  | directory
  | file
deriving DecidableEq, Repr

/-- A place in a file tree, by the names on the way to it from the home or from the root. -/
structure Location where
  atHome : Bool
  parts : List String
deriving DecidableEq, Repr

/-- The step from a directory to one of its names, or back. -/
def Location.step (l : Location) (part : String) : Location :=
  { l with parts := if part == ".." then l.parts.dropLast else l.parts ++ [part] }

/-- The directory of a place. -/
def Location.parent (l : Location) : Location := l.step ".."

/-- Parts with a slash before each. -/
def joinParts (parts : List String) : String := String.join (parts.map ("/" ++ ·))

/-- The most octets of a name. -/
def nameLimit : Nat := 255

/-- The most octets of a path to a directory that is to be made. -/
def directoryPathLimit : Nat := 4095

/-- The most octets of an absolute path to a database file. -/
def databasePathLimit : Nat := 504

/-- Whether a name has the character zero in it. -/
def hasZero (name : String) : Bool := name.toList.contains '\x00'

/-- A path as it is written: from the working directory without naming it, from its home by name,
    or from the root. -/
inductive WrittenPath where
  | here (parts : List String)
  | home (parts : List String)
  | root (parts : List String)

namespace WrittenPath

/-- The parts of a path. -/
def parts : WrittenPath → List String
  | here parts | home parts | root parts => parts

/-- Where a path starts. -/
def start : WrittenPath → Location
  | here _ | home _ => ⟨true, []⟩
  | root _ => ⟨false, []⟩

/-- The path to the directory that holds what a path names. -/
def parent : WrittenPath → WrittenPath
  | here parts => here parts.dropLast
  | home parts => home parts.dropLast
  | root parts => root parts.dropLast

end WrittenPath

/-- The directories and files there are. -/
structure FileTree where
  /-- The path of the working directory, as it is shown. -/
  homePath : String
  /-- The octets of that path in full. -/
  homeSize : Nat := homePath.utf8ByteSize
  entries : List (Location × FileKind) := []

namespace FileTree

/-- A text cut at its slashes. -/
def cutAtSlashes : List Char → List (List Char)
  | [] => [[]]
  | c :: rest =>
    match cutAtSlashes rest with
    | [] => [[c]]
    | first :: others => if c == '/' then [] :: first :: others else (c :: first) :: others

/-- The parts of a path that say something. -/
def partsOf (path : List Char) : List String :=
  ((cutAtSlashes path).map String.ofList).filter fun part => !part.isEmpty && part != "."

/-- The path that a text writes. -/
def read (tree : FileTree) (text : String) : WrittenPath :=
  let home := tree.homePath.toList
  let behindHome := text.toList.drop home.length
  if home.isPrefixOf text.toList && (behindHome.isEmpty || behindHome.head? == some '/') then
    .home (partsOf behindHome)
  else if text.toList.head? == some '/' then .root (partsOf text.toList)
  else .here (partsOf text.toList)

/-- The absolute path of a place. -/
def textOf (tree : FileTree) (l : Location) : String :=
  if l.atHome then tree.homePath ++ joinParts l.parts
  else if l.parts.isEmpty then "/"
  else joinParts l.parts

/-- A path with its first parts alone, as it was written. -/
def written (tree : FileTree) (path : WrittenPath) (count : Nat) : String :=
  match path with
  | .here parts => String.intercalate "/" (parts.take count)
  | .home parts => tree.homePath ++ joinParts (parts.take count)
  | .root parts => joinParts (parts.take count)

/-- The octets of a path as it is written. -/
def writtenSize (tree : FileTree) (path : WrittenPath) : Nat :=
  match path with
  | .here parts => (String.intercalate "/" parts).utf8ByteSize
  | .home parts => tree.homeSize + (joinParts parts).utf8ByteSize
  | .root parts => (joinParts parts).utf8ByteSize

/-- The octets of the absolute path of a place. -/
def sizeOf (tree : FileTree) (l : Location) : Nat :=
  (if l.atHome then tree.homeSize else 0) + (joinParts l.parts).utf8ByteSize

/-- What is at a place. The home and the root are always there. -/
def kind? (tree : FileTree) (l : Location) : Option FileKind :=
  if l.parts.isEmpty then some .directory else tree.entries.lookup l

/-- The tree with something at a place. -/
def add (tree : FileTree) (l : Location) (kind : FileKind) : FileTree :=
  { tree with entries := (l, kind) :: tree.entries }

/-- Why directories cannot be made. -/
inductive Obstacle where
  /-- A file where a directory is wanted, after so many parts. -/
  | inPlace (count : Nat)
  /-- A file on the way, before anything had to be made. -/
  | onTheWay
  /-- A name beyond the bound, after so many parts; all of them when nothing had to be made. -/
  | tooLong (count : Nat)
deriving DecidableEq, Repr

/-- The way along directories, made where they are missing. `count` parts are behind, and `making`
    says whether any of them was made. -/
def makeDirectories (tree : FileTree) (l : Location) (count : Nat) (making : Bool) :
    List String → Except Obstacle (FileTree × Location)
  | [] => .ok (tree, l)
  | part :: rest =>
    let next := l.step part
    match tree.kind? next with
    | some .directory => makeDirectories tree next (count + 1) making rest
    | some .file => .error (if making || rest.isEmpty then .inPlace (count + 1) else .onTheWay)
    | none =>
      if part.utf8ByteSize > nameLimit then
        .error (.tooLong (count + 1 + if making then 0 else rest.length))
      else makeDirectories (tree.add next .directory) next (count + 1) true rest

/-- The directory at a path, made where it is missing. -/
def enter (tree : FileTree) (path : WrittenPath) : Except Fault (FileTree × Location) := do
  if path.parts.any hasZero then throw .zeroInPath
  if tree.writtenSize path > directoryPathLimit then
    throw (.nameTooLong (tree.written path path.parts.length))
  match tree.makeDirectories path.start 0 false path.parts with
  | .ok found => .ok found
  | .error (.tooLong count) => .error (.nameTooLong (tree.written path count))
  | .error (.inPlace count) => .error (.fileInTheWay (tree.written path count))
  | .error .onTheWay => .error (.notADirectory (tree.written path path.parts.length))

/-- The place that the last part of a path names, from the directory that holds it. -/
def placeIn (directory : Location) (path : WrittenPath) : Location :=
  match path.parts.getLast? with
  | some name => directory.step name
  | none => directory

/-- Opens a file, made where it is missing, in directories that are made where they are missing. -/
def openFile (tree : FileTree) (text : String) : Except Fault (FileTree × Location) := do
  let path := tree.read text
  let (tree, directory) ← tree.enter path.parent
  let name := path.parts.getLast?.getD ""
  if hasZero name then throw .zeroInPath
  let place := placeIn directory path
  if name.utf8ByteSize > nameLimit || tree.sizeOf place > databasePathLimit then
    throw .databaseUnopenable
  match tree.kind? place with
  | some .directory => throw .databaseUnopenable
  | some .file => return (tree, place)
  | none => return (tree.add place .file, place)

/-- The tree with a file or directory at a path, and the directories on the way to it. -/
def plant (tree : FileTree) (text : String) (kind : FileKind) : FileTree :=
  let path := tree.read text
  match tree.enter path.parent with
  | .ok (tree, directory) => tree.add (placeIn directory path) kind
  | .error _ => tree

end FileTree

end SqlRunner
