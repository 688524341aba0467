import SqlRunner.Proofs.Blanks
import SqlRunner.Statement.Split

/-!
# Lines — a script read line by line

There is a way to cut a script at its delimiter that looks at one line at a time and never back. A
line ends a fragment, or it does not, and which of the two depends on nothing but the line
(`ending?`). A delimiter that is a word has to be all that the line holds besides blanks; any other
has to be the last thing on it, and what comes before it still belongs to the fragment. So the
fragments of a script are its lines, parted behind each line that ends one (`lineFragments`), and
nothing is lost on the way: the delimiters apart, whatever stands on the lines stands in the
fragments, in the same order (`solid_fragments`).

A fragment in turn has no line that is ended, but for its last one (`unended_or_closed_of_mem`): what
is left of a line may end once more, where two delimiters that are no words stand side by side.

What is written here is about this reading alone. That scripts are cut in just this way is the
subject of `Proofs/Splitting`.
-/

set_option autoImplicit false

namespace SqlRunner.Split

open Text

/-- What can be looked for at the end of a line: something within a line that has no blanks at its
    ends. -/
structure Delimits (delimiter : List Char) : Prop where
  inLine : '\n' ∉ delimiter
  first : delimiter.head?.map isBlank = some false
  last : delimiter.getLast?.map isBlank = some false

/-- What a line leaves to the fragment that it ends; `none` if it does not end one. -/
def ending? (delimiter line : List Char) : Option (List Char) :=
  if isWord delimiter then
    if sameText delimiter (trim line) then some [] else none
  else
    let kept := trimEnd line
    let before := kept.length - delimiter.length
    if sameText delimiter (kept.drop before) then some (kept.take before) else none

/-- Lines parted into fragments, each of them the lines that it has. The last one has no end. -/
def lineFragments (delimiter : List Char) : List (List Char) → List (List (List Char))
  | [] => [[]]
  | line :: rest =>
    match ending? delimiter line with
    | some before => [before] :: lineFragments delimiter rest
    | none => (lineFragments delimiter rest).modifyHead (line :: ·)

/-- Lines as one text. -/
def joined (lines : List (List Char)) : List Char := ['\n'].intercalate lines

/-- The fragments of a text, read line by line. -/
def fragments (delimiter text : List Char) : List (List Char) :=
  (lineFragments delimiter (text.splitOn '\n')).map joined

/-- A text of which no line is ended. -/
def Unended (delimiter text : List Char) : Prop :=
  ∀ line ∈ text.splitOn '\n', ending? delimiter line = none

/-- A text without its blanks. -/
def solid (text : List Char) : List Char := text.filter fun c => !isBlank c

/-- Texts are gone through line by line: the last line has no end, and every other one is followed
    by the rest of the text. -/
@[elab_as_elim]
theorem byLines {motive : List Char → Prop} (last : ∀ line, '\n' ∉ line → motive line)
    (more : ∀ line rest, '\n' ∉ line → motive rest → motive (line ++ '\n' :: rest))
    (text : List Char) : motive text := by
  -- the line that we are in is gathered while we go through the characters
  suffices any : ∀ line, '\n' ∉ line → motive (line ++ text) from any [] List.not_mem_nil
  induction text with
  | nil => exact fun line inLine => by rw [List.append_nil]; exact last line inLine
  | cons c rest ih =>
    intro line inLine
    by_cases h : c = '\n'
    · rw [h]
      exact more line rest inLine (ih [] List.not_mem_nil)
    · rw [← List.singleton_append, ← List.append_assoc]
      exact ih (line ++ [c]) (by simp [inLine, Ne.symm h])

/-- A place where a line ends: the end of the text, or the place before a line end. -/
def AtLineEnd (tail : List Char) : Prop := tail = [] ∨ ∃ rest, tail = '\n' :: rest

/-- Every text starts with a line. -/
theorem exists_line (text : List Char) :
    ∃ line tail, text = line ++ tail ∧ '\n' ∉ line ∧ AtLineEnd tail := by
  induction text using byLines with
  | last line inLine => exact ⟨line, [], (List.append_nil line).symm, inLine, .inl rfl⟩
  | more line rest inLine => exact ⟨line, '\n' :: rest, rfl, inLine, .inr ⟨rest, rfl⟩⟩

/-! ## Delimiters -/

namespace Delimits

variable {delimiter : List Char}

theorem ne_nil (h : Delimits delimiter) : delimiter ≠ [] := by
  rintro rfl
  cases h.first

/-- What agrees with a delimiter could be one. -/
theorem of_sameText (h : Delimits delimiter) {text : List Char}
    (same : sameText delimiter text = true) : Delimits text := by
  have blanks := map_isBlank_of_sameText same
  refine ⟨fun mem => h.inLine (mem_newline_of_sameText same mem), ?_, ?_⟩
  · rw [← List.head?_map, blanks, List.head?_map, h.first]
  · rw [← List.getLast?_map, blanks, List.getLast?_map, h.last]

/-- Trimming stops at a delimiter from both sides. -/
theorem trimEnd_append (h : Delimits delimiter) (before : List Char) {blanks : List Char}
    (hb : isAllBlank blanks = true) :
    trimEnd (before ++ delimiter ++ blanks) = before ++ delimiter := by
  obtain ⟨c, last, solid⟩ := Option.map_eq_some_iff.mp h.last
  exact trimEnd_append_of_getLast? before last solid hb

theorem trim_append (h : Delimits delimiter) {before after : List Char}
    (hb : isAllBlank before = true) (ha : isAllBlank after = true) :
    trim (before ++ delimiter ++ after) = delimiter := by
  obtain ⟨c, first, solid⟩ := Option.map_eq_some_iff.mp h.first
  rw [trim_append_blanks _ ha, trim_blanks_append hb, trim, dropBlanks_of_head? first solid]
  have trimmed := h.trimEnd_append [] (show isAllBlank [] = true from rfl)
  rwa [List.nil_append, List.append_nil] at trimmed

end Delimits

/-! ## The end of a line -/

/-- A text with the blanks at its two ends told apart. -/
theorem exists_trim (text : List Char) :
    ∃ before after, isAllBlank before = true ∧ isAllBlank after = true ∧
      text = before ++ trim text ++ after := by
  obtain ⟨after, ha, split⟩ := exists_trimEnd (dropBlanks text)
  refine ⟨leadingBlanks text, after, ?_, ha, ?_⟩
  · exact List.all_eq_true.mpr fun c mem => List.mem_takeWhile_imp mem
  · rw [trim, List.append_assoc, ← split]
    exact List.takeWhile_append_dropWhile.symm

theorem trim_trim (text : List Char) : trim (trim text) = trim text := by
  obtain ⟨before, after, hb, ha, split⟩ := exists_trim text
  calc trim (trim text) = trim (before ++ trim text ++ after) := by
        rw [trim_append_blanks _ ha, trim_blanks_append hb]
    _ = trim text := by rw [← split]

/-- **When a line ends a fragment**: it closes with the delimiter, blanks behind it aside, and where
    the delimiter is a word it opens with it too. -/
theorem ending?_eq_some_iff {delimiter : List Char} (h : Delimits delimiter)
    {line before : List Char} :
    ending? delimiter line = some before ↔ ∃ opening found blanks,
      line = opening ++ found ++ blanks ∧ sameText delimiter found = true ∧
      isAllBlank blanks = true ∧
      if isWord delimiter then isAllBlank opening = true ∧ before = [] else before = opening := by
  constructor
  · intro ends
    rw [ending?] at ends
    split at ends
    case isTrue word =>
      split at ends
      case isFalse => cases ends
      case isTrue same =>
        cases ends
        obtain ⟨opening, blanks, ho, hb, split⟩ := exists_trim line
        exact ⟨opening, trim line, blanks, split, same, hb, by rw [if_pos word]; exact ⟨ho, rfl⟩⟩
    case isFalse sign =>
      dsimp only at ends
      split at ends
      case isFalse => cases ends
      case isTrue same =>
        cases ends
        obtain ⟨blanks, hb, split⟩ := exists_trimEnd line
        refine ⟨_, _, blanks, ?_, same, hb, by rw [if_neg sign]⟩
        rw [List.take_append_drop]
        exact split
  -- both ways to read the line trim it first, and trimming stops at what was found
  · rintro ⟨opening, found, blanks, rfl, same, hb, left⟩
    have delimits := h.of_sameText same
    rw [ending?]
    by_cases word : isWord delimiter = true
    · rw [if_pos word] at left ⊢
      rw [delimits.trim_append left.1 hb, if_pos same, left.2]
    · have length : (opening ++ found).length - delimiter.length = opening.length := by
        rw [List.length_append, length_eq_of_sameText same, Nat.add_sub_cancel]
      rw [if_neg word] at left ⊢
      simp only [delimits.trimEnd_append opening hb, length, List.drop_left, if_pos same,
        List.take_left, left]

/-- A blank line ends nothing. -/
theorem ending?_of_blank {delimiter : List Char} (h : Delimits delimiter) {line : List Char}
    (blank : isAllBlank line = true) : ending? delimiter line = none := by
  rw [Option.eq_none_iff_forall_ne_some]
  intro before ends
  obtain ⟨opening, found, blanks, rfl, same, -⟩ := (ending?_eq_some_iff h).mp ends
  obtain ⟨c, first, solid⟩ := Option.map_eq_some_iff.mp (h.of_sameText same).first
  have mem : c ∈ opening ++ found ++ blanks := by
    simp [List.mem_of_head? first]
  rw [List.all_eq_true.mp blank c mem] at solid
  cases solid

/-! ## The fragments of a text -/

theorem joined_nil : joined [] = [] := List.intercalate_nil

theorem joined_singleton (line : List Char) : joined [line] = line := List.intercalate_singleton

theorem joined_cons (line : List Char) {rest : List (List Char)} (h : rest ≠ []) :
    joined (line :: rest) = line ++ ['\n'] ++ joined rest := List.intercalate_cons_of_ne_nil h

/-- There is always a fragment, and where there are lines the first one has some. -/
theorem exists_lineFragments (delimiter : List Char) (lines : List (List Char)) :
    ∃ first others, lineFragments delimiter lines = first :: others ∧
      (lines ≠ [] → first ≠ []) := by
  induction lines with
  | nil => exact ⟨[], [], rfl, fun some => absurd rfl some⟩
  | cons line rest ih =>
    rw [lineFragments]
    cases ending? delimiter line with
    | some before => exact ⟨[before], _, rfl, fun _ => List.cons_ne_nil _ _⟩
    | none =>
      obtain ⟨first, others, parted, -⟩ := ih
      rw [parted]
      exact ⟨line :: first, others, rfl, fun _ => List.cons_ne_nil _ _⟩

theorem fragments_ne_nil (delimiter text : List Char) : fragments delimiter text ≠ [] := by
  obtain ⟨first, others, parted, -⟩ := exists_lineFragments delimiter (text.splitOn '\n')
  rw [fragments, parted]
  exact List.cons_ne_nil _ _

/-- The fragments of a single line. -/
theorem fragments_line (delimiter : List Char) {line : List Char} (h : '\n' ∉ line) :
    fragments delimiter line = (ending? delimiter line).elim [line] fun before => [before, []] := by
  rw [fragments, List.splitOn_eq_singleton h, lineFragments]
  cases ending? delimiter line with
  | some before => simp [lineFragments, joined_singleton, joined_nil]
  | none => simp [lineFragments, joined_singleton]

/-- The fragments of a line and what is below it. -/
theorem fragments_append (delimiter : List Char) {line : List Char} (h : '\n' ∉ line)
    (rest : List Char) :
    fragments delimiter (line ++ '\n' :: rest) =
      (ending? delimiter line).elim
        ((fragments delimiter rest).modifyHead (line ++ ['\n'] ++ ·))
        fun before => before :: fragments delimiter rest := by
  rw [fragments, List.splitOn_append_cons_self_of_not_mem h, lineFragments]
  cases ending? delimiter line with
  | some before =>
    rw [Option.elim_some, List.map_cons, joined_singleton]
    rfl
  | none =>
    obtain ⟨first, others, parted, lines⟩ :=
      exists_lineFragments delimiter (rest.splitOn '\n')
    rw [Option.elim_none, fragments, parted]
    simp [joined_cons line (lines (List.splitOn_ne_nil _ _))]

/-! ## What is kept -/

theorem solid_append (s t : List Char) : solid (s ++ t) = solid s ++ solid t := List.filter_append ..

theorem solid_eq_nil {s : List Char} (h : isAllBlank s = true) : solid s = [] := by
  rw [solid, List.filter_eq_nil_iff]
  intro c mem
  simp [List.all_eq_true.mp h c mem]

/-- Trimming takes nothing but blanks. -/
theorem solid_trim (s : List Char) : solid (trim s) = solid s := by
  obtain ⟨before, after, hb, ha, split⟩ := exists_trim s
  calc solid (trim s) = solid before ++ solid (trim s) ++ solid after := by
        rw [solid_eq_nil hb, solid_eq_nil ha, List.nil_append, List.append_nil]
    _ = solid (before ++ trim s ++ after) := by rw [solid_append, solid_append]
    _ = solid s := by rw [← split]

theorem solid_joined (lines : List (List Char)) : solid (joined lines) = lines.flatMap solid := by
  induction lines with
  | nil => rw [joined_nil]; rfl
  | cons line rest ih =>
    cases rest with
    | nil => simp [joined_singleton]
    | cons next rest =>
      rw [joined_cons line (List.cons_ne_nil next rest), solid_append, solid_append, ih,
        solid_eq_nil (show isAllBlank ['\n'] = true from rfl), List.append_nil]
      rfl

/-- **Nothing is lost between the lines**: what the fragments hold is what the lines leave to them,
    in the order of the lines. -/
theorem solid_fragments (delimiter text : List Char) :
    (fragments delimiter text).flatMap solid =
      (text.splitOn '\n').flatMap fun line => solid ((ending? delimiter line).getD line) := by
  have parted (lines : List (List Char)) :
      (lineFragments delimiter lines).flatMap (·.flatMap solid) =
        lines.flatMap fun line => solid ((ending? delimiter line).getD line) := by
    induction lines with
    | nil => rfl
    | cons line rest ih =>
      rw [lineFragments, List.flatMap_cons, ← ih]
      cases ending? delimiter line with
      | some before => simp
      | none =>
        obtain ⟨first, others, split, -⟩ := exists_lineFragments delimiter rest
        simp [split]
  rw [fragments, List.flatMap_map, ← parted]
  simp only [solid_joined]

/-! ## What a fragment looks like -/

variable {delimiter : List Char}

theorem unended_line {line : List Char} (h : '\n' ∉ line) :
    Unended delimiter line ↔ ending? delimiter line = none := by
  rw [Unended, List.splitOn_eq_singleton h, List.forall_mem_singleton]

theorem unended_append {line : List Char} (h : '\n' ∉ line) (rest : List Char) :
    Unended delimiter (line ++ '\n' :: rest) ↔
      ending? delimiter line = none ∧ Unended delimiter rest := by
  rw [Unended, List.splitOn_append_cons_self_of_not_mem h, List.forall_mem_cons, Unended]

theorem unended_of_blank_line (h : Delimits delimiter) {line : List Char} (inLine : '\n' ∉ line)
    (blank : isAllBlank line = true) : Unended delimiter line :=
  (unended_line inLine).mpr (ending?_of_blank h blank)

/-- A line and what is behind it. -/
theorem unended_tail (h : Delimits delimiter) {line tail : List Char} (inLine : '\n' ∉ line)
    (ended : AtLineEnd tail) : Unended delimiter (line ++ tail) ↔
      ending? delimiter line = none ∧ Unended delimiter tail.tail := by
  rcases ended with rfl | ⟨rest, rfl⟩
  · have none := unended_of_blank_line h List.not_mem_nil rfl
    rw [List.append_nil, unended_line inLine, List.tail_nil, and_iff_left none]
  · exact unended_append inLine rest

/-- A line that is not ended has no part that would be, blanks apart. -/
theorem ending?_of_blanks (h : Delimits delimiter) (before line after : List Char)
    (hb : isAllBlank before = true) (ha : isAllBlank after = true)
    (unended : ending? delimiter (before ++ line ++ after) = none) :
    ending? delimiter line = none := by
  rw [Option.eq_none_iff_forall_ne_some] at unended ⊢
  intro left ends
  obtain ⟨opening, found, blanks, rfl, same, blank, alone⟩ := (ending?_eq_some_iff h).mp ends
  refine unended (if isWord delimiter then [] else before ++ opening)
    ((ending?_eq_some_iff h).mpr ⟨before ++ opening, found, blanks ++ after, ?_, same, ?_, ?_⟩)
  · simp only [List.append_assoc]
  · rw [isAllBlank_append, blank, ha]
    rfl
  · split at alone
    case isTrue word => simp [word, isAllBlank_append, hb, alone.1]
    case isFalse sign => simp [sign]

namespace Unended

theorem of_blanks_append (h : Delimits delimiter) {blanks rest : List Char}
    (blank : isAllBlank blanks = true) (unended : Unended delimiter (blanks ++ rest)) :
    Unended delimiter rest := by
  induction blanks using byLines with
  | last line inLine =>
    obtain ⟨first, tail, rfl, inFirst, ended⟩ := exists_line rest
    rw [← List.append_assoc, unended_tail h (by simp [inLine, inFirst]) ended] at unended
    refine (unended_tail h inFirst ended).mpr ⟨?_, unended.2⟩
    exact ending?_of_blanks h line first [] blank rfl (by rw [List.append_nil]; exact unended.1)
  | more line later inLine ih =>
    rw [isAllBlank_append, isAllBlank_cons, Bool.and_eq_true, Bool.and_eq_true] at blank
    rw [List.append_assoc, List.cons_append, unended_append inLine] at unended
    exact ih blank.2.2 unended.2

theorem of_append_blanks (h : Delimits delimiter) {rest blanks : List Char}
    (blank : isAllBlank blanks = true) (unended : Unended delimiter (rest ++ blanks)) :
    Unended delimiter rest := by
  induction rest using byLines with
  | last line inLine =>
    obtain ⟨first, tail, rfl, inFirst, ended⟩ := exists_line blanks
    rw [isAllBlank_append, Bool.and_eq_true] at blank
    rw [← List.append_assoc, unended_tail h (by simp [inLine, inFirst]) ended] at unended
    exact (unended_line inLine).mpr (ending?_of_blanks h [] line first rfl blank.1 unended.1)
  | more line later inLine ih =>
    rw [List.append_assoc, List.cons_append, unended_append inLine] at unended
    exact (unended_append inLine later).mpr ⟨unended.1, ih unended.2⟩

/-- Trimming ends no line. -/
theorem trim (h : Delimits delimiter) {text : List Char} (unended : Unended delimiter text) :
    Unended delimiter (trim text) := by
  obtain ⟨before, after, hb, ha, split⟩ := exists_trim text
  rw [split, List.append_assoc] at unended
  exact of_append_blanks h ha (of_blanks_append h hb unended)

end Unended

/-- What closes with something that agrees with the delimiter. -/
def Closed (delimiter text : List Char) : Prop :=
  ∃ before found blanks, text = before ++ found ++ blanks ∧ sameText delimiter found = true ∧
    isAllBlank blanks = true

/-- Trimming leaves what the text closes with. -/
theorem Closed.exists_suffix (h : Delimits delimiter) {text : List Char}
    (closed : Closed delimiter text) :
    ∃ found, sameText delimiter found = true ∧ found <:+ trim text := by
  obtain ⟨before, found, blanks, rfl, same, blank⟩ := closed
  have delimits := h.of_sameText same
  obtain ⟨c, first, solid⟩ := Option.map_eq_some_iff.mp delimits.first
  obtain ⟨front, dropped⟩ : ∃ front, dropBlanks (before ++ found) = front ++ found := by
    rw [dropBlanks, List.dropWhile_append]
    split
    case isTrue => exact ⟨[], dropBlanks_of_head? first solid⟩
    case isFalse => exact ⟨dropBlanks before, rfl⟩
  have trimmed := delimits.trimEnd_append front (show isAllBlank [] = true from rfl)
  rw [List.append_nil, ← dropped, ← trim] at trimmed
  refine ⟨found, same, ?_⟩
  rw [trim_append_blanks _ blank, trimmed, dropped]
  exact List.suffix_append front found

/-- What a line leaves to the fragment that it ends. -/
theorem unended_or_closed_of_ending? (h : Delimits delimiter) {line before : List Char}
    (inLine : '\n' ∉ line) (ends : ending? delimiter line = some before) :
    Unended delimiter before ∨ isWord delimiter = false ∧ Closed delimiter before := by
  obtain ⟨opening, found, blanks, rfl, -, -, alone⟩ := (ending?_eq_some_iff h).mp ends
  rw [List.mem_append, List.mem_append, not_or, not_or] at inLine
  split at alone
  case isTrue =>
    rw [alone.2]
    exact .inl (unended_of_blank_line h List.not_mem_nil rfl)
  case isFalse sign =>
    rw [alone]
    cases again : ending? delimiter opening with
    | none => exact .inl ((unended_line inLine.1.1).mpr again)
    | some left =>
      obtain ⟨before, found, blanks, split, same, blank, -⟩ := (ending?_eq_some_iff h).mp again
      exact .inr ⟨Bool.eq_false_iff.mpr sign, before, found, blanks, split, same, blank⟩

/-- **What a fragment is made of**: lines that are not ended, and at its end one more of them or what
    a line leaves to the fragment that it ends. -/
theorem forall_mem_fragments (h : Delimits delimiter) {motive : List Char → Prop}
    (unended : ∀ line, '\n' ∉ line → ending? delimiter line = none → motive line)
    (ended : ∀ line before, '\n' ∉ line → ending? delimiter line = some before → motive before)
    (more : ∀ line rest, '\n' ∉ line → ending? delimiter line = none → motive rest →
      motive (line ++ '\n' :: rest))
    {text fragment : List Char} (mem : fragment ∈ fragments delimiter text) : motive fragment := by
  induction text using byLines generalizing fragment with
  | last line inLine =>
    rw [fragments_line delimiter inLine] at mem
    cases ends : ending? delimiter line with
    | none =>
      rw [ends, Option.elim_none, List.mem_singleton] at mem
      exact mem ▸ unended line inLine ends
    | some before =>
      rw [ends, Option.elim_some, List.mem_pair] at mem
      rcases mem with rfl | rfl
      · exact ended line fragment inLine ends
      · exact unended [] List.not_mem_nil (ending?_of_blank h rfl)
  | more line rest inLine ih =>
    rw [fragments_append delimiter inLine] at mem
    cases ends : ending? delimiter line with
    | some before =>
      rw [ends, Option.elim_some, List.mem_cons] at mem
      rcases mem with rfl | later
      · exact ended line fragment inLine ends
      · exact ih later
    | none =>
      -- the line becomes the start of the first fragment below it; the others stay as they are
      obtain ⟨first, others, split⟩ := List.exists_cons_of_ne_nil (fragments_ne_nil delimiter rest)
      rw [split] at ih
      rw [ends, Option.elim_none, split, List.modifyHead_cons, List.mem_cons] at mem
      rcases mem with rfl | later
      · rw [List.append_assoc, List.singleton_append]
        exact more line first inLine ends (ih List.mem_cons_self)
      · exact ih (List.mem_cons_of_mem first later)

/-- **A fragment has no line that is ended**, unless it closes with the delimiter itself. That
    happens where two of them meet, and the delimiter is no word. -/
theorem unended_or_closed_of_mem (h : Delimits delimiter) {text fragment : List Char}
    (mem : fragment ∈ fragments delimiter text) :
    Unended delimiter fragment ∨ isWord delimiter = false ∧ Closed delimiter fragment := by
  refine forall_mem_fragments h
    (motive := fun text => Unended delimiter text ∨ isWord delimiter = false ∧ Closed delimiter text)
    (fun line inLine ends => ?_) (fun line before inLine ends => ?_)
    (fun line rest inLine ends here => ?_) mem
  · exact .inl ((unended_line inLine).mpr ends)
  · exact unended_or_closed_of_ending? h inLine ends
  · rcases here with unended | ⟨sign, before, found, blanks, rfl, closed⟩
    · exact .inl ((unended_append inLine rest).mpr ⟨ends, unended⟩)
    · refine .inr ⟨sign, line ++ '\n' :: before, found, blanks, ?_, closed⟩
      simp only [List.append_assoc, List.cons_append]

end SqlRunner.Split
