import SqlRunner.Proofs.Splitting

/-!
# Rejoining — statements written as a script once more

The statements that a script was cut into can be written one after another, each with the delimiter
behind it, and the script that this makes has the same statements (`statements_rejoined`). It is
not the same script: blanks at the ends of statements are gone, and so are blank statements.

What carries this is what a statement looks like (`IsFragment`). No line of it is ended, for
otherwise the script had been cut there. There is one exception, and only where the delimiter is no
word: two of them may stand side by side, and then the second one is cut off and the first one stays
behind as the end of the statement (`;;` leaves `;`). But that is the last line of the statement,
which is the line that the delimiter is put behind, and of that line nothing counts but what it
closes with. So for such a delimiter it is enough to know the lines above the last one
(`UnendedAbove`). A word is put on a line of its own, and for it no line of a statement is ended at
all (`IsStatement`).

What is written for a statement is read as that statement, whatever is written behind it
(`ReadsAs`), so a script of them is read from its start to its end (`kept_blocks`).
-/

set_option autoImplicit false

namespace SqlRunner.Split

open Text

variable {delimiter : List Char}

/-! ## Texts put together -/

theorem unended_newline (a b : List Char) :
    Unended delimiter (a ++ '\n' :: b) ↔ Unended delimiter a ∧ Unended delimiter b := by
  induction a using byLines with
  | last line inLine => rw [unended_append inLine, unended_line inLine]
  | more line rest inLine ih =>
    rw [List.append_assoc, List.cons_append, unended_append inLine, unended_append inLine, ih,
      and_assoc]

/-- A text of which no line is ended goes in front of what is below it. -/
theorem fragments_of_unended_text {text : List Char} (unended : Unended delimiter text)
    (rest : List Char) : fragments delimiter (text ++ '\n' :: rest) =
      (fragments delimiter rest).modifyHead (text ++ ['\n'] ++ ·) := by
  induction text using byLines with
  | last line inLine =>
    rw [fragments_append delimiter inLine, (unended_line inLine).mp unended, Option.elim_none]
  | more line later inLine ih =>
    rw [unended_append inLine] at unended
    rw [List.append_assoc, List.cons_append, fragments_append delimiter inLine, unended.1,
      Option.elim_none, ih unended.2, List.modifyHead_modifyHead]
    simp [Function.comp_def]

/-- A delimiter alone on its line ends the text above it. -/
theorem fragments_of_closing_line (h : Delimits delimiter) {text : List Char}
    (unended : Unended delimiter text) (rest : List Char) :
    fragments delimiter (text ++ '\n' :: (delimiter ++ '\n' :: rest)) =
      (text ++ ['\n']) :: fragments delimiter rest := by
  have ends : ending? delimiter delimiter = some [] := by
    refine (ending?_eq_some_iff h).mpr ⟨[], delimiter, [], by simp, sameText_self delimiter, rfl, ?_⟩
    split
    case isTrue => exact ⟨rfl, rfl⟩
    case isFalse => rfl
  rw [fragments_of_unended_text unended, fragments_append delimiter h.inLine, ends,
    Option.elim_some, List.modifyHead_cons, List.append_nil]

/-! ## The lines above the last one -/

/-- A text of which no line but the last one is ended. -/
def UnendedAbove (delimiter text : List Char) : Prop :=
  ∀ line ∈ (text.splitOn '\n').dropLast, ending? delimiter line = none

theorem Unended.above {text : List Char} (unended : Unended delimiter text) :
    UnendedAbove delimiter text :=
  fun line mem => unended line ((List.dropLast_sublist _).subset mem)

theorem unendedAbove_line {line : List Char} (h : '\n' ∉ line) : UnendedAbove delimiter line := by
  rw [UnendedAbove, List.splitOn_eq_singleton h]
  exact List.forall_mem_nil _

theorem unendedAbove_append {line : List Char} (h : '\n' ∉ line) (rest : List Char) :
    UnendedAbove delimiter (line ++ '\n' :: rest) ↔
      ending? delimiter line = none ∧ UnendedAbove delimiter rest := by
  rw [UnendedAbove, List.splitOn_append_cons_self_of_not_mem h,
    List.dropLast_cons_of_ne_nil (List.splitOn_ne_nil _ _), List.forall_mem_cons, UnendedAbove]

namespace UnendedAbove

/-- The start of a text has no more lines above its last one. -/
theorem of_append {text more : List Char} (above : UnendedAbove delimiter (text ++ more)) :
    UnendedAbove delimiter text := by
  induction text using byLines with
  | last line inLine => exact unendedAbove_line inLine
  | more line rest inLine ih =>
    rw [List.append_assoc, List.cons_append, unendedAbove_append inLine] at above
    exact (unendedAbove_append inLine rest).mpr ⟨above.1, ih above.2⟩

theorem of_blanks_append (h : Delimits delimiter) {blanks rest : List Char}
    (blank : isAllBlank blanks = true) (above : UnendedAbove delimiter (blanks ++ rest)) :
    UnendedAbove delimiter rest := by
  induction blanks using byLines with
  | last line inLine =>
    obtain ⟨first, tail, rfl, inFirst, ended⟩ := exists_line rest
    rcases ended with rfl | ⟨later, rfl⟩
    · rw [List.append_nil]
      exact unendedAbove_line inFirst
    · rw [← List.append_assoc, unendedAbove_append (by simp [inLine, inFirst])] at above
      refine (unendedAbove_append inFirst later).mpr ⟨?_, above.2⟩
      exact ending?_of_blanks h line first [] blank rfl (by rw [List.append_nil]; exact above.1)
  | more line later inLine ih =>
    rw [isAllBlank_append, isAllBlank_cons, Bool.and_eq_true, Bool.and_eq_true] at blank
    rw [List.append_assoc, List.cons_append, unendedAbove_append inLine] at above
    exact ih blank.2.2 above.2

theorem trim (h : Delimits delimiter) {text : List Char} (above : UnendedAbove delimiter text) :
    UnendedAbove delimiter (trim text) := by
  obtain ⟨before, after, hb, -, split⟩ := exists_trim text
  rw [split, List.append_assoc] at above
  exact of_append (of_blanks_append h hb above)

end UnendedAbove

/-- What a line leaves to its fragment lies within the line. -/
theorem inLine_of_ending? (h : Delimits delimiter) {line before : List Char} (inLine : '\n' ∉ line)
    (ends : ending? delimiter line = some before) : '\n' ∉ before := by
  obtain ⟨opening, found, blanks, rfl, -, -, alone⟩ := (ending?_eq_some_iff h).mp ends
  rw [List.mem_append, List.mem_append, not_or, not_or] at inLine
  split at alone
  case isTrue =>
    rw [alone.2]
    exact List.not_mem_nil
  case isFalse =>
    rw [alone]
    exact inLine.1.1

/-- **No line of a fragment above its last one is ended**, whatever the delimiter is. -/
theorem unendedAbove_of_mem (h : Delimits delimiter) {text fragment : List Char}
    (mem : fragment ∈ fragments delimiter text) : UnendedAbove delimiter fragment := by
  refine forall_mem_fragments h (fun line inLine _ => unendedAbove_line inLine)
    (fun line before inLine ends => ?_) (fun line rest inLine ends here => ?_) mem
  · exact unendedAbove_line (inLine_of_ending? h inLine ends)
  · exact (unendedAbove_append inLine rest).mpr ⟨ends, here⟩

/-- A delimiter that is no word ends the text before it, even if that closes with it already. -/
theorem fragments_of_closing_sign (h : Delimits delimiter) (sign : isWord delimiter = false)
    {text : List Char} (above : UnendedAbove delimiter text) (rest : List Char) :
    fragments delimiter (text ++ (delimiter ++ '\n' :: rest)) =
      text :: fragments delimiter rest := by
  induction text using byLines with
  | last line inLine =>
    have ends : ending? delimiter (line ++ delimiter) = some line :=
      (ending?_eq_some_iff h).mpr ⟨line, delimiter, [], by simp, sameText_self delimiter, rfl,
        by rw [if_neg (Bool.eq_false_iff.mp sign)]⟩
    rw [← List.append_assoc, fragments_append delimiter (by simp [inLine, h.inLine]), ends]
    rfl
  | more line later inLine ih =>
    rw [unendedAbove_append inLine] at above
    rw [List.append_assoc, List.cons_append, fragments_append delimiter inLine, above.1,
      Option.elim_none, ih above.2, List.modifyHead_cons, List.append_assoc]
    rfl

/-- A character that the delimiter does not end in ends no line. -/
theorem Unended.append_char (h : Delimits delimiter) {c : Char} (solid : isBlank c = false)
    (other : ∀ d, delimiter.getLast? = some d → sameLetter d c = false) {text : List Char}
    (unended : Unended delimiter text) : Unended delimiter (text ++ [c]) := by
  have inLine' : '\n' ≠ c := by
    rintro rfl
    cases solid
  induction text using byLines with
  | last line inLine =>
    rw [unended_line (by simp [inLine, inLine']), Option.eq_none_iff_forall_ne_some]
    intro left ends
    obtain ⟨opening, found, blanks, split, same, blank, -⟩ := (ending?_eq_some_iff h).mp ends
    -- the character would be a blank behind the delimiter, or the last of what was found
    have last := congrArg List.getLast? split
    rw [List.getLast?_concat, List.getLast?_append, List.getLast?_append] at last
    cases behind : blanks.getLast? with
    | some b =>
      rw [behind, Option.some_or, Option.some_inj] at last
      rw [last, List.all_eq_true.mp blank b (List.mem_of_getLast? behind)] at solid
      cases solid
    | none =>
      obtain ⟨e, last', -⟩ := Option.map_eq_some_iff.mp (h.of_sameText same).last
      rw [behind, last', Option.none_or, Option.some_or, Option.some_inj] at last
      obtain ⟨d, closes, letter⟩ := sameLetter_of_getLast? same last'
      rw [← last, other d closes] at letter
      cases letter
  | more line later inLine ih =>
    rw [unended_append inLine] at unended
    rw [List.append_assoc, List.cons_append, unended_append inLine]
    exact ⟨unended.1, ih unended.2⟩

/-! ## Statements -/

/-- What a script can have for a statement: it is trimmed and not empty, and no line of it is ended.
    Of the last line that is only asked where the delimiter is a word. -/
structure IsFragment (delimiter : List Char) (statement : String) : Prop where
  trimmed : trim statement.toList = statement.toList
  nonempty : statement.toList ≠ []
  unended : if isWord delimiter then Unended delimiter statement.toList
    else UnendedAbove delimiter statement.toList

/-- What can stand as one statement of a script: it is trimmed, and no line of it is ended. -/
structure IsStatement (delimiter : List Char) (statement : String) : Prop where
  trimmed : trim statement.toList = statement.toList
  nonempty : statement.toList ≠ []
  unended : Unended delimiter statement.toList

theorem IsStatement.isFragment {statement : String} (is : IsStatement delimiter statement) :
    IsFragment delimiter statement := by
  refine ⟨is.trimmed, is.nonempty, ?_⟩
  split
  case isTrue => exact is.unended
  case isFalse => exact is.unended.above

/-- A statement is a fragment, trimmed. -/
theorem exists_fragment {script mark statement : String} (h : Delimits mark.toList)
    (mem : statement ∈ statements script mark) :
    ∃ fragment ∈ fragments mark.toList script.toList, statement.toList = trim fragment ∧
      statement.toList ≠ [] := by
  rw [statements_eq_kept h, kept] at mem
  obtain ⟨trimmed, filtered, rfl⟩ := List.mem_map.mp mem
  obtain ⟨mapped, some⟩ := List.mem_filter.mp filtered
  obtain ⟨fragment, hf, rfl⟩ := List.mem_map.mp mapped
  exact ⟨fragment, hf, String.toList_ofList, by simpa using some⟩

/-- **What a script has for a statement is one**, if the delimiter is a word or the statement does
    not close with it. -/
theorem isStatement_of_mem {script mark statement : String} (h : Delimits mark.toList)
    (mem : statement ∈ statements script mark)
    (apart : isWord mark.toList = true ∨ ∀ found, sameText mark.toList found = true →
      ¬ found <:+ statement.toList) : IsStatement mark.toList statement := by
  obtain ⟨fragment, hf, trimmed, some⟩ := exists_fragment h mem
  rw [trimmed] at apart
  refine ⟨by rw [trimmed, trim_trim], some, ?_⟩
  rw [trimmed]
  rcases unended_or_closed_of_mem h hf with unended | ⟨sign, closed⟩
  · exact unended.trim h
  -- a fragment that closes with the delimiter is what we have left out
  · obtain ⟨found, agrees, suffix⟩ := closed.exists_suffix h
    rcases apart with word | none
    · rw [sign] at word
      cases word
    · exact absurd suffix (none found agrees)

/-- Every statement of a script is what it can have for one. -/
theorem isFragment_of_mem {script mark statement : String} (h : Delimits mark.toList)
    (mem : statement ∈ statements script mark) : IsFragment mark.toList statement := by
  by_cases word : isWord mark.toList = true
  · exact (isStatement_of_mem h mem (.inl word)).isFragment
  · obtain ⟨fragment, hf, trimmed, some⟩ := exists_fragment h mem
    refine ⟨by rw [trimmed, trim_trim], some, ?_⟩
    rw [if_neg word, trimmed]
    exact (unendedAbove_of_mem h hf).trim h

/-- A statement is one still with a character behind it that the delimiter does not end in. -/
theorem IsStatement.append_char (h : Delimits delimiter) {statement : String}
    (is : IsStatement delimiter statement) {c : Char} (solid : isBlank c = false)
    (other : ∀ d, delimiter.getLast? = some d → sameLetter d c = false) :
    IsStatement delimiter (String.ofList (statement.toList ++ [c])) where
  trimmed := by
    rw [String.toList_ofList, trim, dropBlanks, List.dropWhile_append, ← dropBlanks,
      dropBlanks_of_trim is.trimmed, if_neg (by simpa using is.nonempty),
      trimEnd_of_getLast? List.getLast?_concat solid]
  nonempty := by simp
  unended := by
    rw [String.toList_ofList]
    exact is.unended.append_char h solid other

/-! ## Blocks, one after another -/

theorem kept_congr {first second : List (List Char)} (h : first.map trim = second.map trim) :
    kept first = kept second := by
  rw [kept, h, kept]

theorem kept_cons {fragment : List Char} {statement : String}
    (trimmed : trim fragment = statement.toList) (some : statement.toList ≠ [])
    (others : List (List Char)) : kept (fragment :: others) = statement :: kept others := by
  rw [kept, List.map_cons, List.filter_cons_of_pos (by simpa [trimmed] using some),
    List.map_cons, trimmed, String.ofList_toList]
  rfl

/-- A block that is read as one statement, whatever comes behind it. -/
def ReadsAs (delimiter block : List Char) (statement : String) : Prop :=
  ∀ rest, kept (fragments delimiter (block ++ rest)) = statement :: kept (fragments delimiter rest)

/-- An empty line behind a block is no part of what follows. -/
theorem ReadsAs.emptyLine (h : Delimits delimiter) {block : List Char} {statement : String}
    (reads : ReadsAs delimiter (block ++ ['\n']) statement) :
    ReadsAs delimiter (block ++ ['\n', '\n']) statement := by
  intro rest
  have text : block ++ ['\n', '\n'] ++ rest = block ++ ['\n'] ++ '\n' :: rest := by
    simp only [List.append_assoc, List.cons_append, List.nil_append]
  rw [text, reads, kept_congr (fragments_newline h rest)]

theorem kept_blocks (h : Delimits delimiter) {strings : List String} {block : String → List Char}
    {read : String → String} (reads : ∀ sql ∈ strings, ReadsAs delimiter (block sql) (read sql)) :
    kept (fragments delimiter (strings.flatMap block)) = strings.map read := by
  induction strings with
  | nil =>
    rw [List.flatMap_nil, fragments_nil h]
    rfl
  | cons sql rest ih =>
    rw [List.flatMap_cons, reads sql List.mem_cons_self, List.map_cons,
      ih fun other mem => reads other (List.mem_cons_of_mem sql mem)]

/-- A statement and the delimiter behind it. -/
theorem IsFragment.readsAs_sign (h : Delimits delimiter) (sign : isWord delimiter = false)
    {statement : String} (is : IsFragment delimiter statement) :
    ReadsAs delimiter (statement.toList ++ delimiter ++ ['\n']) statement := by
  have above := is.unended
  rw [if_neg (Bool.eq_false_iff.mp sign)] at above
  intro rest
  have text : statement.toList ++ delimiter ++ ['\n'] ++ rest =
      statement.toList ++ (delimiter ++ '\n' :: rest) := by
    simp only [List.append_assoc, List.cons_append, List.nil_append]
  rw [text, fragments_of_closing_sign h sign above, kept_cons is.trimmed is.nonempty]

/-- A statement and the delimiter on a line of its own. -/
theorem IsStatement.readsAs_line (h : Delimits delimiter) {statement : String}
    (is : IsStatement delimiter statement) :
    ReadsAs delimiter (statement.toList ++ '\n' :: delimiter ++ ['\n']) statement := by
  intro rest
  have text : statement.toList ++ '\n' :: delimiter ++ ['\n'] ++ rest =
      statement.toList ++ '\n' :: (delimiter ++ '\n' :: rest) := by
    simp only [List.append_assoc, List.cons_append, List.nil_append]
  have front : trim (statement.toList ++ ['\n']) = statement.toList := by
    rw [trim_append_blanks _ (by decide), is.trimmed]
  rw [text, fragments_of_closing_line h is.unended, kept_cons front is.nonempty]

/-! ## Scripts -/

/-- What closes a statement in a script: the delimiter at the end of its last line, or on a line of
    its own where it is a word. -/
def closer (delimiter : String) : String :=
  if isWord delimiter.toList then "\n" ++ delimiter ++ "\n" else delimiter ++ "\n"

/-- Statements as a script. -/
def rejoined (statements : List String) (delimiter : String) : String :=
  String.join (statements.map fun statement => statement ++ closer delimiter)

theorem toList_rejoined (statements : List String) (delimiter : String) :
    (rejoined statements delimiter).toList =
      statements.flatMap fun statement => statement.toList ++ (closer delimiter).toList := by
  rw [rejoined, String.toList_join, List.flatMap_map]
  simp only [String.toList_append]

/-- A statement with its closer is read as that statement. -/
theorem IsFragment.readsAs_closer {delimiter statement : String} (h : Delimits delimiter.toList)
    (is : IsFragment delimiter.toList statement) :
    ReadsAs delimiter.toList (statement.toList ++ (closer delimiter).toList) statement := by
  rw [closer]
  split
  case isTrue word =>
    have unended := is.unended
    rw [if_pos word] at unended
    have reads := IsStatement.readsAs_line h ⟨is.trimmed, is.nonempty, unended⟩
    rwa [String.toList_append, String.toList_append, ← List.append_assoc]
  case isFalse sign =>
    have reads := is.readsAs_sign h (Bool.eq_false_iff.mpr sign)
    rwa [String.toList_append, ← List.append_assoc]

/-- Whatever a script can have for statements, one has. -/
theorem statements_rejoined_of_fragments {delimiter : String} (h : Delimits delimiter.toList)
    {strings : List String} (are : ∀ string ∈ strings, IsFragment delimiter.toList string) :
    statements (rejoined strings delimiter) delimiter = strings := by
  rw [statements_eq_kept h, toList_rejoined,
    kept_blocks h fun string mem => (are string mem).readsAs_closer h, List.map_id']

/-- **Splitting undoes joining.** A script is cut into statements, and these are written as a script
    again, each with the delimiter behind it. What is written is cut into the same statements, in
    the same order, whatever they end in and however the delimiter meets itself. And the statements
    that come from scripts are known: they are all the strings that are trimmed and not empty and
    have no line that is ended. -/
theorem statements_rejoined (script delimiter : String) (h : Delimits delimiter.toList) :
    statements (rejoined (statements script delimiter) delimiter) delimiter =
      statements script delimiter ∧
    ∀ strings, (∃ other, statements other delimiter = strings) ↔
      ∀ string ∈ strings, IsFragment delimiter.toList string := by
  refine ⟨statements_rejoined_of_fragments h fun _ mem => isFragment_of_mem h mem,
    fun strings => ⟨?_, fun are => ?_⟩⟩
  · rintro ⟨other, rfl⟩ string mem
    exact isFragment_of_mem h mem
  · exact ⟨rejoined strings delimiter, statements_rejoined_of_fragments h are⟩

/-- Delimiters side by side and one alone on an indented line, and a word in another case. -/
theorem statements_rejoined_scripts :
    rejoined (statements "select 1 ;;;\n\t;\n  drop a\n b" ";") ";" =
        "select 1 ;;;\ndrop a\n b;\n" ∧
      statements "select 1 ;;;\ndrop a\n b;\n" ";" = ["select 1 ;;", "drop a\n b"] ∧
      rejoined (statements "select 1\r\n go \r\ndrop CARGO" "GO") "GO" =
        "select 1\nGO\ndrop CARGO\nGO\n" ∧
      statements "select 1\nGO\ndrop CARGO\nGO\n" "GO" = ["select 1", "drop CARGO"] := by
  have sign : rejoined (statements "select 1 ;;;\n\t;\n  drop a\n b" ";") ";" =
      "select 1 ;;;\ndrop a\n b;\n" := by decide +kernel
  have word : rejoined (statements "select 1\r\n go \r\ndrop CARGO" "GO") "GO" =
      "select 1\nGO\ndrop CARGO\nGO\n" := by decide +kernel
  obtain ⟨first, -⟩ := statements_rejoined "select 1 ;;;\n\t;\n  drop a\n b" ";"
    ⟨by decide, by decide, by decide⟩
  obtain ⟨second, -⟩ := statements_rejoined "select 1\r\n go \r\ndrop CARGO" "GO"
    ⟨by decide, by decide, by decide⟩
  rw [sign] at first
  rw [word] at second
  exact ⟨sign, first.trans (by decide +kernel), word, second.trans (by decide +kernel)⟩

end SqlRunner.Split
