import SqlRunner.Dialect.Registry
import SqlRunner.Proofs.Blocks
import SqlRunner.Proofs.PreviewAgreement
import SqlRunner.Proofs.Rejoining

/-!
# Reading back — a previewed script is the script

A script is cut into statements, each is written as a block, and what is written is a script again.
That it has the same statements rests on what a statement looks like: none of its lines is ended
(`Split.isStatement_of_mem`), so the only line of a block that can end a statement is the one that
the writer puts there. A block is therefore read as one statement, whatever is written behind it
(`Split.ReadsAs`), and blocks are read one after another.

The terminator is the delimiter in one half of this and not in the other. Where it is, a statement
that ends in the delimiter itself is written without a second one and comes back without its own, so
scripts with such statements are left out. Where batches are separated by a word the terminator is
part of the statement, and once it is there it stays as it is.
-/

set_option autoImplicit false

namespace SqlRunner

open Text

namespace Separator

/-- Where no line is ended there is no separator alone on the last line. -/
theorem not_closesAlone_of_unended {separator text : List Char} (h : Split.Delimits separator)
    (unended : Split.Unended separator text) (kept : List Char) :
    ¬ ClosesAlone separator kept text := by
  rintro ⟨indent, found, run, same, split⟩
  have blank : isAllBlank indent = true := List.all_eq_true.mpr fun c mem =>
    (isBlank_of_isIndent (List.all_eq_true.mp run c mem)).1
  have inLine : '\n' ∉ indent ++ found := by
    rw [List.mem_append, not_or]
    exact ⟨fun mem => (isBlank_of_isIndent (List.all_eq_true.mp run _ mem)).2 rfl,
      (h.of_sameText same).inLine⟩
  have line : Split.Unended separator (indent ++ found) := by
    rcases split with rfl | ⟨-, rfl⟩
    · exact ((Split.unended_newline _ _).mp unended).2
    · exact unended
  have ends : Split.ending? separator (indent ++ found) =
      some (if Split.isWord separator then [] else indent) := by
    refine (Split.ending?_eq_some_iff h).mpr ⟨indent, found, [], by simp, same, rfl, ?_⟩
    split
    case isTrue => exact ⟨blank, rfl⟩
    case isFalse => rfl
  rw [Split.unended_line inLine, ends] at line
  cases line

end Separator

namespace Preview

/-! ## Scripts -/

/-- The preview of a script on an empty page. -/
def ofScript (dialect : Dialect) (address script delimiter : String) :
    Except Failure Unit × Page :=
  ((⟨dialect, address⟩ : Preview).execute (.command (.raw script delimiter true)) []).run {}

theorem finishAll_plain {dialect : Dialect} (mends : dialect.mendsSeparator = false)
    (strings : List String) : Rendering.finishAll dialect [] strings = .ok strings := by
  induction strings with
  | nil => rfl
  | cons sql rest ih =>
    have finished : Rendering.finish dialect [] sql = .ok sql := by
      show (if dialect.mendsSeparator then _ else _) = _
      rw [mends]
      rfl
    rw [Rendering.finishAll, finished, ih]
    rfl

theorem toList_foldl_block (dialect : Dialect) (strings : List String) (text : String) :
    (strings.foldl (fun text sql => text ++ block dialect sql) text).toList =
      text.toList ++ strings.flatMap fun sql => (block dialect sql).toList := by
  induction strings generalizing text with
  | nil => simp
  | cons sql rest ih =>
    rw [List.foldl_cons, ih, String.toList_append, List.flatMap_cons, List.append_assoc]

/-- A script is previewed as the blocks of its statements. -/
theorem ofScript_eq {dialect : Dialect} (mends : dialect.mendsSeparator = false)
    (address script delimiter : String) :
    (ofScript dialect address script delimiter).1 = .ok () ∧
      (ofScript dialect address script delimiter).2.text.toList =
        (Split.statements script delimiter).flatMap fun sql => (block dialect sql).toList := by
  have rendered : Rendering.render dialect [] (.command (.raw script delimiter true)) =
      .ok (Split.statements script delimiter) := by
    rw [Line.render_command]
    exact finishAll_plain mends _
  rw [ofScript, execute_run ⟨dialect, address⟩ rendered, writeAll_run]
  exact ⟨rfl, by rw [toList_foldl_block]; rfl⟩

/-! ## Where the terminator is the delimiter -/

/-- A statement that does not end in the terminator yet is written with it. -/
theorem block_terminated {dialect : Dialect} (bare : dialect.separator? = none) {statement : String}
    (trimmed : trim statement.toList = statement.toList)
    (apart : ¬ dialect.terminator.toList <:+ statement.toList) :
    (block dialect statement).toList =
      statement.toList ++ dialect.terminator.toList ++ ['\n', '\n'] := by
  rw [block, String.toList_ofList, bodyOf_of_none bare, trimEnd_of_trim trimmed,
    terminated_of_not_suffix apart, closing, bare]

/-- A script of statements that do not close with the terminator is read back. -/
theorem statements_ofScript_terminated {dialect : Dialect} (bare : dialect.separator? = none)
    (mends : dialect.mendsSeparator = false) (h : Split.Delimits dialect.terminator.toList)
    (sign : Split.isWord dialect.terminator.toList = false) (address script : String)
    (apart : ∀ statement ∈ Split.statements script dialect.terminator, ∀ found,
      sameText dialect.terminator.toList found = true → ¬ found <:+ statement.toList) :
    Split.statements (ofScript dialect address script dialect.terminator).2.text
      dialect.terminator = Split.statements script dialect.terminator := by
  have reads : ∀ sql ∈ Split.statements script dialect.terminator,
      Split.ReadsAs dialect.terminator.toList (block dialect sql).toList (id sql) := by
    intro sql mem
    have is := Split.isStatement_of_mem h mem (.inr (apart sql mem))
    rw [block_terminated bare is.trimmed (apart sql mem _ (sameText_self _))]
    exact (is.isFragment.readsAs_sign h sign).emptyLine h
  rw [Split.statements_eq_kept h, (ofScript_eq mends address script _).2,
    Split.kept_blocks h reads, List.map_id]

/-! ## Where batches are separated by a word -/

/-- A statement with the terminator at its end. -/
def closed (dialect : Dialect) (statement : String) : String :=
  String.ofList (terminated dialect.terminator.toList statement.toList)

theorem closed_closed (dialect : Dialect) (statement : String) :
    closed dialect (closed dialect statement) = closed dialect statement := by
  rw [closed, closed, String.toList_ofList, terminated_of_suffix (suffix_terminated _ _)]

/-- A dialect whose batches end in a line with a word, and whose statements end in a character that
    the word does not end in. -/
structure Batches (dialect : Dialect) (separator : String) (terminator : Char) : Prop where
  separated : dialect.separator? = some separator
  ended : dialect.terminator.toList = [terminator]
  mends : dialect.mendsSeparator = false
  delimits : Split.Delimits separator.toList
  word : Split.isWord separator.toList = true
  dropped : Separator.isWord separator.toList = true
  solid : isBlank terminator = false
  other : ∀ d, separator.toList.getLast? = some d → sameLetter d terminator = false

namespace Batches

variable {dialect : Dialect} {separator : String} {terminator : Char}
  (b : Batches dialect separator terminator)

include b

/-- Nothing is dropped of a statement when it is written. -/
theorem block_eq {statement : String} (is : Split.IsStatement separator.toList statement) :
    (block dialect statement).toList =
      (closed dialect statement).toList ++ '\n' :: separator.toList ++ ['\n', '\n'] := by
  have apart := Separator.not_closesAlone_of_unended b.delimits is.unended
  rw [block_of_some b.separated, String.toList_ofList, bodyOf_of_some b.separated,
    trimEnd_of_trim is.trimmed, Separator.dropTrailing_of_not_closesAlone b.dropped apart,
    trimEnd_of_trim is.trimmed, closed, String.toList_ofList]

theorem isStatement_closed {statement : String}
    (is : Split.IsStatement separator.toList statement) :
    Split.IsStatement separator.toList (closed dialect statement) := by
  rw [closed]
  by_cases suffix : dialect.terminator.toList <:+ statement.toList
  · rw [terminated_of_suffix suffix, String.ofList_toList]
    exact is
  · rw [terminated_of_not_suffix suffix, b.ended]
    exact is.append_char b.delimits b.solid b.other

/-- **What is written of a script has its statements**, each with the terminator. -/
theorem statements_ofScript (address script : String) :
    Split.statements (ofScript dialect address script separator).2.text separator =
      (Split.statements script separator).map (closed dialect) := by
  have reads : ∀ sql ∈ Split.statements script separator,
      Split.ReadsAs separator.toList (block dialect sql).toList (closed dialect sql) := by
    intro sql mem
    have is := Split.isStatement_of_mem b.delimits mem (.inl b.word)
    rw [b.block_eq is]
    exact ((b.isStatement_closed is).readsAs_line b.delimits).emptyLine b.delimits
  rw [Split.statements_eq_kept b.delimits, (ofScript_eq b.mends address script _).2,
    Split.kept_blocks b.delimits reads]

/-- Written once more, it stays as it is. -/
theorem ofScript_ofScript (address script : String) :
    (ofScript dialect address (ofScript dialect address script separator).2.text separator).2.text =
      (ofScript dialect address script separator).2.text := by
  have again : ∀ sql ∈ Split.statements script separator,
      (block dialect (closed dialect sql)).toList = (block dialect sql).toList := by
    intro sql mem
    have is := Split.isStatement_of_mem b.delimits mem (.inl b.word)
    -- a closed statement is a statement, so nothing is dropped of it, and it stays closed
    rw [b.block_eq is, b.block_eq (b.isStatement_closed is), closed_closed]
  rw [← String.toList_inj, (ofScript_eq b.mends address _ _).2, b.statements_ofScript,
    (ofScript_eq b.mends address script _).2, List.flatMap_map]
  exact List.flatMap_congr again

end Batches

/-! ## The built-in dialects -/

theorem mssql_batches : Batches .mssql "GO" ';' where
  separated := rfl
  ended := by decide
  mends := rfl
  delimits := ⟨by decide, by decide, by decide⟩
  word := by decide +kernel
  dropped := by decide +kernel
  solid := by decide
  other := by
    intro d last
    rw [show "GO".toList.getLast? = some 'O' by decide] at last
    cases last
    decide +kernel

/-- The built-in dialects without batches end a statement in a semicolon. -/
theorem builtin_bare : ∀ entry ∈ Registry.builtin.entries, entry.2.separator? = none →
    entry.2.mendsSeparator = false ∧ entry.2.terminator = ";" := by
  decide +kernel

/-- A semicolon is like no other character. -/
theorem eq_of_sameText_semicolon {found : List Char} (h : sameText ";".toList found = true) :
    found = ";".toList := by
  have plain : hasCase ';'.toNat = false := by decide +kernel
  obtain ⟨c, rfl⟩ := List.length_eq_one_iff.mp (length_eq_of_sameText h).symm
  rw [show ";".toList = [';'] from rfl, sameText, sameText, Bool.and_true, sameLetter, samePoint,
    plain] at h
  rw [← Char.toNat_inj.mp (eq_of_beq h)]
  rfl

/-- **A previewed script reads back as the same script.** Where a built-in dialect has no batches,
    a script that is cut at the terminator has the statements of its preview, if none of them ends
    in the terminator. Where batches end in a line `GO`, what is previewed has the statements of the
    script with the terminator at their ends, and its own preview is the same text again. -/
theorem preview_reads_back :
    (∀ name dialect, (name, dialect) ∈ Registry.builtin.entries → dialect.separator? = none →
      ∀ address script,
        (∀ statement ∈ Split.statements script ";", ¬ ";".toList <:+ statement.toList) →
        (ofScript dialect address script ";").1 = .ok () ∧
          Split.statements (ofScript dialect address script ";").2.text ";" =
            Split.statements script ";") ∧
    ∀ address script,
      let written := (ofScript .mssql address script "GO").2.text
      (ofScript .mssql address script "GO").1 = .ok () ∧
        Split.statements written "GO" = (Split.statements script "GO").map (fun statement =>
          if ";".toList <:+ statement.toList then statement else statement ++ ";") ∧
        (ofScript .mssql address written "GO").1 = .ok () ∧
        (ofScript .mssql address written "GO").2.text = written := by
  constructor
  · intro name dialect mem bare address script apart
    obtain ⟨mends, ended⟩ := builtin_bare (name, dialect) mem bare
    refine ⟨(ofScript_eq mends address script ";").1, ?_⟩
    have delimits : Split.Delimits dialect.terminator.toList := by
      rw [ended]
      exact ⟨by decide, by decide, by decide⟩
    have sign : Split.isWord dialect.terminator.toList = false := by
      rw [ended]
      decide +kernel
    rw [← ended] at apart ⊢
    refine statements_ofScript_terminated bare mends delimits sign address script
      fun statement within found same => ?_
    rw [ended] at same
    rw [eq_of_sameText_semicolon same, ← ended]
    exact apart statement within
  · have shape : closed .mssql = fun statement =>
        if ";".toList <:+ statement.toList then statement else statement ++ ";" := by
      funext statement
      show String.ofList (terminated ";".toList statement.toList) = _
      by_cases suffix : ";".toList <:+ statement.toList
      · rw [terminated_of_suffix suffix, if_pos suffix, String.ofList_toList]
      · rw [terminated_of_not_suffix suffix, if_neg suffix, String.ofList_append,
          String.ofList_toList, String.ofList_toList]
    have mends : Dialect.mssql.mendsSeparator = false := rfl
    intro address script
    have read := mssql_batches.statements_ofScript address script
    rw [shape] at read
    exact ⟨(ofScript_eq mends address script "GO").1, read, (ofScript_eq mends address _ "GO").1,
      mssql_batches.ofScript_ofScript address script⟩

/-- A script with an empty statement and one over two lines, and a script of batches one of which
    ends in a semicolon already. -/
theorem preview_reads_back_scripts :
    Split.statements (ofScript .sqlite "offline" "drop a;\n;\n\n  select\n 1 ; \n" ";").2.text ";" =
        ["drop a", "select\n 1"] ∧
      Split.statements (ofScript .mssql "offline" "drop a;\r\ngo\r\nselect 1" "GO").2.text "GO" =
        ["drop a;", "select 1;"] := by
  constructor
  · have read := preview_reads_back.1 "sqlite" .sqlite (by decide +kernel) rfl "offline"
      "drop a;\n;\n\n  select\n 1 ; \n" (by decide +kernel)
    exact read.2.trans (by decide +kernel)
  · have read := (preview_reads_back.2 "offline" "drop a;\r\ngo\r\nselect 1").2.1
    exact read.trans (by decide +kernel)

end Preview

end SqlRunner
