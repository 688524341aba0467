import SqlRunner.Opening
import SqlRunner.Proofs.Registrations

/-!
# Addresses — what is opened as SQLite is also taken for it, and is found again

An address is read twice: by its beginning, in its exact spelling, when a database is opened, and by
its scheme, in any case, when a dialect is guessed. The two readings are written apart from each
other. They agree where it matters: whatever is opened without an engine either has no scheme or has
one that is spelled `sqlite`, and both mean the dialect that is registered as `sqlite`
(`Registry.forUrl_of_local`). There always is one, since registering replaces and never removes.

A connection to a file reports an address of its own making. It begins with the longer of the two
beginnings and goes on with an absolute path, so it reads back as that path.
-/

set_option autoImplicit false

namespace SqlRunner

/-! ## Marks in a text -/

namespace Text

/-- A text is split at a mark exactly if the mark stands in it. -/
theorem splitOnce?_eq_none_iff {mark s : List Char} :
    splitOnce? mark s = none ↔ occursIn mark s = false := by
  induction s with
  | nil => cases mark <;> simp [splitOnce?, occursIn]
  | cons c rest ih =>
    rw [splitOnce?, occursIn]
    cases mark.isPrefixOf (c :: rest) with
    | true => simp
    | false => simpa using ih

/-- A text is split at the first character that can begin the mark, if the mark is there. -/
theorem splitOnce?_append {m : Char} {mark before : List Char} (absent : m ∉ before)
    (after : List Char) :
    splitOnce? (m :: mark) (before ++ m :: mark ++ after) = some (before, after) := by
  induction before with
  | nil =>
    have here : (m :: mark).isPrefixOf (m :: mark ++ after) = true :=
      List.isPrefixOf_iff_prefix.mpr (List.prefix_append ..)
    rw [List.nil_append, List.cons_append, splitOnce?, ← List.cons_append, if_pos here,
      List.drop_left]
  | cons c rest ih =>
    rw [List.mem_cons, not_or] at absent
    have other : (m :: mark).isPrefixOf (c :: (rest ++ m :: mark ++ after)) = false := by
      rw [List.isPrefixOf, beq_false_of_ne absent.1, Bool.false_and]
    rw [List.cons_append, List.cons_append, splitOnce?, other, ih absent.2]
    rfl

end Text

/-! ## The two readings -/

namespace Address

open Text

theorem behind?_eq_some {beginnings : List String} {text path : String}
    (h : behind? beginnings text = some path) :
    ∃ b ∈ beginnings, text.toList = b.toList ++ path.toList := by
  obtain ⟨b, found, rfl⟩ := Option.map_eq_some_iff.mp h
  have begins := List.find?_some found
  refine ⟨b, List.mem_of_find?_eq_some found, ?_⟩
  rw [String.toList_ofList]
  exact (List.prefix_iff_eq_append.mp (List.isPrefixOf_iff_prefix.mp begins)).symm

/-- What begins like an address of a SQLite file has the scheme of one. -/
theorem scheme?_of_behind? {text path : String} (h : behind? sqliteBeginnings text = some path) :
    Registry.scheme? text = some "sqlite" := by
  obtain ⟨b, mem, split⟩ := behind?_eq_some h
  have mark : ∃ rest, text.toList = "sqlite".toList ++ ':' :: "//".toList ++ rest := by
    rw [split]
    rcases List.mem_cons.mp mem with rfl | mem
    · exact ⟨'/' :: path.toList, rfl⟩
    · cases List.mem_singleton.mp mem
      exact ⟨path.toList, rfl⟩
  obtain ⟨rest, split⟩ := mark
  rw [Registry.scheme?, split]
  show Option.map _ (splitOnce? (':' :: "//".toList) _) = _
  rw [splitOnce?_append (by decide)]
  rfl

/-- An address that needs no engine has no scheme, or that of SQLite. -/
theorem scheme?_of_local {text : String} (h : (ofText text).scheme ≠ "sqlalchemy") :
    Registry.scheme? text = none ∨ Registry.scheme? text = some "sqlite" := by
  rw [ofText] at h
  split at h
  case isTrue word =>
    have words : ∀ word ∈ memoryWords, Registry.scheme? word = none := by decide
    exact .inl (words text (List.contains_iff_mem.mp word))
  case isFalse =>
    split at h
    case h_1 path behind => exact .inr (scheme?_of_behind? behind)
    case h_2 =>
      split at h
      case isTrue => exact absurd rfl h
      case isFalse absent =>
        refine .inl (Option.map_eq_none_iff.mpr ?_)
        exact splitOnce?_eq_none_iff.mpr (by simpa using absent)

end Address

namespace Registry

/-- A built-in name never comes to mean no dialect. -/
theorem exists_latest {key : String} {builtIn : Dialect} (h : builtin.find? key = some builtIn)
    (registrations : List (String × Dialect)) : ∃ d, latest? registrations key = some d := by
  rw [latest?]
  split
  case h_1 e _ => exact ⟨e.2, rfl⟩
  case h_2 => exact ⟨builtIn, h⟩

/-- **What is opened without an engine means the dialect of SQLite.** -/
theorem forUrl_of_local {registry : Registry} {d : Dialect}
    (found : registry.find? "sqlite" = some d) {db : Option String}
    (h : (Address.ofText? db).scheme ≠ "sqlalchemy") : registry.forUrl db = .ok d := by
  have fallback : registry.fallback = d := by rw [fallback, found]; rfl
  cases db with
  | none => exact congrArg Except.ok fallback
  | some text =>
    rcases Address.scheme?_of_local h with none | sqlite
    · rw [forUrl, Option.bind_some, none]
      exact congrArg Except.ok fallback
    · refine forUrl_of_scheme sqlite ?_
      have name : nameOfScheme (Text.lower "sqlite") = "sqlite" := by decide +kernel
      rw [name, found]

end Registry

/-! ## Places in a file tree -/

/-- A path from the root. -/
def IsAbsolute (path : String) : Prop := path.toList.head? = some '/'

instance (path : String) : Decidable (IsAbsolute path) :=
  inferInstanceAs (Decidable (path.toList.head? = some '/'))

namespace FileTree

theorem homePath_of_makeDirectories {tree : FileTree} {l : Location} {count : Nat} {making : Bool}
    {parts : List String} {after : FileTree} {place : Location}
    (h : tree.makeDirectories l count making parts = .ok (after, place)) :
    after.homePath = tree.homePath := by
  induction parts generalizing tree l count making with
  | nil => cases h; rfl
  | cons part rest ih =>
    rw [makeDirectories] at h
    split at h
    case h_1 => exact ih h
    case h_2 => cases h
    case h_3 =>
      split at h
      case isTrue => cases h
      case isFalse => rw [ih h]; rfl

/-- What is entered are the directories on the way. -/
theorem of_enter {tree : FileTree} {path : WrittenPath} {found : FileTree × Location}
    (h : tree.enter path = .ok found) :
    tree.makeDirectories path.start 0 false path.parts = .ok found := by
  by_cases zero : path.parts.any hasZero = true
  · rw [enter, if_pos zero] at h
    cases h
  by_cases long : tree.writtenSize path > directoryPathLimit
  · rw [enter, if_neg zero, if_pos long] at h
    cases h
  rw [enter, if_neg zero, if_neg long] at h
  dsimp only at h
  split at h
  case h_1 made =>
    cases h
    exact made
  all_goals cases h

/-- A file is opened in the directory that is entered for it. -/
theorem of_openFile {tree : FileTree} {text : String} {after : FileTree} {place : Location}
    (h : tree.openFile text = .ok (after, place)) :
    ∃ entered directory, tree.enter (tree.read text).parent = .ok (entered, directory) ∧
      after.homePath = entered.homePath := by
  cases he : tree.enter (tree.read text).parent with
  | error fault => rw [openFile, he] at h; cases h
  | ok found =>
    obtain ⟨entered, directory⟩ := found
    refine ⟨entered, directory, rfl, ?_⟩
    rw [openFile, he] at h
    dsimp only [Bind.bind, Except.bind] at h
    split at h
    · cases h
    split at h
    · cases h
    -- the file may be there already, or it is made
    split at h
    · cases h
    · cases h
      rfl
    · cases h
      rfl

/-- **Opening a file does not move the home.** -/
theorem homePath_of_openFile {tree : FileTree} {text : String} {after : FileTree}
    {place : Location} (h : tree.openFile text = .ok (after, place)) :
    after.homePath = tree.homePath := by
  obtain ⟨entered, directory, he, same⟩ := of_openFile h
  rw [same, homePath_of_makeDirectories (of_enter he)]

theorem isAbsolute_joinParts {parts : List String} (nonempty : parts ≠ []) :
    IsAbsolute (joinParts parts) := by
  cases parts with
  | nil => exact absurd rfl nonempty
  | cons part rest =>
    rw [IsAbsolute, joinParts, List.map_cons, String.join_cons, String.toList_append,
      String.toList_append]
    rfl

/-- **Paths are shown from the root**, if the home is. -/
theorem isAbsolute_textOf {tree : FileTree} (home : IsAbsolute tree.homePath) (l : Location) :
    IsAbsolute (tree.textOf l) := by
  rw [textOf]
  split
  case isTrue =>
    rw [IsAbsolute, String.toList_append, List.head?_append, home]
    rfl
  case isFalse =>
    split
    case isTrue => decide
    case isFalse nonempty => exact isAbsolute_joinParts (by simpa using nonempty)

end FileTree

namespace Address

theorem behind?_sqliteUrl (path : String) :
    behind? sqliteBeginnings (sqliteUrl path) = some path := by
  have begins : "sqlite:///".toList.isPrefixOf (sqliteUrl path).toList = true := by
    rw [sqliteUrl, String.toList_append]
    exact List.isPrefixOf_iff_prefix.mpr (List.prefix_append ..)
  rw [behind?, sqliteBeginnings, List.find?_cons, begins, Option.map_some, sqliteUrl,
    String.toList_append, List.drop_left, String.ofList_toList]

theorem sqliteUrl_notMem_memoryWords (path : String) :
    memoryWords.contains (sqliteUrl path) = false := by
  have first : (sqliteUrl path).toList.head? = some 's' := by
    rw [sqliteUrl, String.toList_append]
    rfl
  rw [Bool.eq_false_iff, ne_eq, List.contains_iff_mem]
  intro mem
  have words : ∀ word ∈ memoryWords, word.toList.head? ≠ some 's' := by decide
  exact words _ mem first

/-- **The address of a file reads back as its path.** -/
theorem ofText_sqliteUrl {path : String} (absolute : IsAbsolute path) :
    ofText (sqliteUrl path) = database path := by
  have named : (path.isEmpty || path == inMemory) = false := by
    rw [Bool.or_eq_false_iff]
    constructor
    · refine Bool.eq_false_iff.mpr fun empty => ?_
      rw [String.isEmpty_iff.mp empty] at absolute
      cases absolute
    · refine beq_false_of_ne ?_
      rintro rfl
      exact absurd absolute (by decide)
  rw [ofText, sqliteUrl_notMem_memoryWords, if_neg (by decide), behind?_sqliteUrl]
  dsimp only
  rw [named]
  rfl

/-- A connection, opened among the files of a tree, reports an address that reads back as what it is
    connected to. The path of a file is absolute if that of the home is. -/
def ReadsBack (tree : FileTree) (opened : Opened) : Prop :=
  (opened.info.resolvedPath = none ∧ opened.connection.url = "sqlite:///:memory:" ∧
    ofText opened.connection.url = memory) ∨
  ∃ path, opened.info.resolvedPath = some path ∧ opened.connection.url = "sqlite:///" ++ path ∧
    (IsAbsolute path → ofText opened.connection.url = database path) ∧
    (IsAbsolute tree.homePath → IsAbsolute path)

theorem openMemory_readsBack (tree : FileTree) : ReadsBack tree (openMemory tree) :=
  .inl ⟨rfl, rfl, (by decide : ofText (sqliteUrl inMemory) = memory)⟩

theorem openFile_readsBack {tree : FileTree} {path : String} {opened : Opened}
    (h : openFile tree path = .ok opened) :
    opened.info.backend = "sqlite" ∧ ReadsBack tree opened := by
  rw [openFile] at h
  cases ho : tree.openFile path with
  | error fault => rw [ho] at h; cases h
  | ok found =>
    obtain ⟨after, place⟩ := found
    rw [ho] at h
    cases h
    refine ⟨rfl, .inr ⟨after.textOf place, rfl, rfl, ofText_sqliteUrl, fun home => ?_⟩⟩
    exact FileTree.isAbsolute_textOf (FileTree.homePath_of_openFile ho ▸ home) place

/-- **Opening and guessing agree.** Whatever was registered before, an address that is opened
    without an engine means the dialect that is registered as `sqlite`, and there is one. What is
    opened is SQLite, no engine is asked, and the address that the connection reports reads back as
    memory or as the path that was opened. So does every address made of an absolute path. -/
theorem forUrl_agrees (registrations : List (String × Dialect)) (db : Option String) :
    ((ofText? db).scheme ∈ ["memory", "sqlite", "file"] →
      (∃ d, Registry.latest? registrations "sqlite" = some d ∧
        (Registry.ofRegistrations registrations).get "sqlite" = .ok d ∧
        (Registry.ofRegistrations registrations).forUrl db = .ok d) ∧
      (ofText? db).engineUrls = [] ∧
      ∀ tree engine opened, (ofText? db).connect tree engine = .ok opened →
        opened.info.backend = "sqlite" ∧ ReadsBack tree opened) ∧
    ofText "sqlite:///:memory:" = memory ∧
    ∀ path, IsAbsolute path → ofText ("sqlite:///" ++ path) = database path := by
  refine ⟨fun kind => ?_, by decide, fun path absolute => ofText_sqliteUrl absolute⟩
  have isLocal : (ofText? db).scheme ≠ "sqlalchemy" := by
    intro engine
    rw [engine] at kind
    exact absurd kind (by decide)
  refine ⟨?_, ?_⟩
  · have builtIn : Registry.builtin.find? "sqlite" = some .sqlite := by decide
    obtain ⟨d, latest⟩ := Registry.exists_latest builtIn registrations
    have found := (Registry.find?_ofRegistrations registrations "sqlite").trans latest
    have lower : Text.lower "sqlite" = "sqlite" := by decide +kernel
    exact ⟨d, latest, Registry.get_eq_ok_iff.mpr (lower.symm ▸ found),
      Registry.forUrl_of_local found isLocal⟩
  · cases h : ofText? db with
    | engine url => exact absurd (congrArg scheme h) isLocal
    | memory =>
      refine ⟨rfl, fun tree engine opened ho => ?_⟩
      cases ho
      exact ⟨rfl, openMemory_readsBack tree⟩
    | database path => exact ⟨rfl, fun tree engine opened ho => openFile_readsBack ho⟩
    | file path => exact ⟨rfl, fun tree engine opened ho => openFile_readsBack ho⟩

/-- A file that is named by its path alone, with another dialect in the place of SQLite's. -/
theorem forUrl_agrees_relative :
    (ofText? (some "data/gate.db")).scheme ∈ ["memory", "sqlite", "file"] ∧
      (Registry.ofRegistrations [("SQLite", { name := "lite" })]).forUrl (some "data/gate.db") =
        .ok { name := "lite" } ∧
      IsAbsolute "/srv/data/gate.db" ∧
      ofText "sqlite:////srv/data/gate.db" = database "/srv/data/gate.db" := by
  have kind : (ofText? (some "data/gate.db")).scheme ∈ ["memory", "sqlite", "file"] := by decide
  have absolute : IsAbsolute "/srv/data/gate.db" := by decide
  obtain ⟨agree, -, reads⟩ := forUrl_agrees [("SQLite", { name := "lite" })] (some "data/gate.db")
  obtain ⟨d, latest, -, guessed⟩ := (agree kind).1
  have same : d = { name := "lite" } := Option.some.inj (latest.symm.trans (by decide +kernel))
  subst same
  exact ⟨kind, guessed, absolute, reads "/srv/data/gate.db" absolute⟩

end Address

end SqlRunner
