import SqlRunner.Dialect.Registry
import SqlRunner.Proofs.Blocks
import SqlRunner.Proofs.Mending
import SqlRunner.Proofs.PreviewAgreement

/-!
# Separator lines — how many of them a preview takes off

A string may be followed by lines that hold nothing but the separator, and a preview writes a
separator of its own behind the block. So it takes separator lines off first, but not all of them.
Writing takes off one, and where the dialect mends its strings, mending has made one of the last two
before that. A block is therefore that of the bare string as long as there are no more lines than
that (`Preview.ofText_separatorLines`). With one line more a separator is left in the block, and the
terminator is put behind it (`Preview.ofText_terminates_separator`).

Both stages read the text from its end, and so do the proofs: lines are peeled off from the last
one, and what is before them does not matter until they are all gone.
-/

set_option autoImplicit false

namespace SqlRunner

open Text

namespace Separator

variable {separator : List Char}

/-- What counts as the separator where a string is written: a word in any case, and anything else
    just as it is. -/
def Agrees (separator found : List Char) : Prop :=
  if isWord separator then sameText separator found = true else found = separator

instance (separator found : List Char) : Decidable (Agrees separator found) :=
  inferInstanceAs (Decidable
    (if isWord separator then sameText separator found = true else found = separator))

/-- A text that does not close with the separator, blanks aside. A word does not count unless it is
    alone on its line. -/
def Apart (separator text : List Char) : Prop :=
  if isWord separator then ∀ kept, ¬ ClosesAlone separator kept (trimEnd text)
  else ¬ separator <:+ trimEnd text

/-- Nothing is dropped of such a text, and of no other. -/
theorem apart_iff (nonempty : separator ≠ []) {text : List Char} :
    Apart separator text ↔ dropTrailing separator (trimEnd text) = trimEnd text := by
  rw [Apart]
  split
  case isTrue word =>
    refine ⟨dropTrailing_of_not_closesAlone word, fun same kept closes => ?_⟩
    have dropped := dropTrailing_of_closesAlone word closes
    obtain ⟨indent, found, -, agrees, split⟩ := closes
    rw [same] at dropped
    rw [dropped] at split
    rcases split with longer | ⟨rfl, nothing⟩
    · exact absurd (List.self_eq_append_right.mp longer) (List.cons_ne_nil _ _)
    · obtain ⟨-, rfl⟩ := List.nil_eq_append_iff.mp nothing
      exact nonempty (List.eq_nil_of_length_eq_zero (length_eq_of_sameText agrees))
  case isFalse sign =>
    rw [Bool.not_eq_true] at sign
    refine ⟨dropTrailing_of_not_suffix sign, ?_⟩
    rintro same ⟨kept, split⟩
    rw [← split, dropTrailing_append sign] at same
    exact nonempty (List.self_eq_append_right.mp same)

/-- What agrees with a separator ends in something else than a blank. -/
theorem Agrees.exists_getLast? (plain : Plain separator) {found : List Char}
    (h : Agrees separator found) : ∃ c, found.getLast? = some c ∧ isBlank c = false := by
  have nonempty : found ≠ [] ∧ ∀ c ∈ found, isBlank c = false := by
    rw [Agrees] at h
    split at h
    case isTrue =>
      have blanks := map_isBlank_of_sameText h
      refine ⟨fun none => plain.nonempty ?_, fun c mem => ?_⟩
      · rw [none] at blanks
        exact List.map_eq_nil_iff.mp blanks.symm
      · obtain ⟨d, within, same⟩ := List.mem_map.mp (blanks ▸ List.mem_map_of_mem mem)
        rw [← same, plain.solid d within]
    case isFalse =>
      rw [h]
      exact ⟨plain.nonempty, plain.solid⟩
  obtain ⟨c, last⟩ := Option.ne_none_iff_exists'.mp (mt List.getLast?_eq_none_iff.mp nonempty.1)
  exact ⟨c, last, nonempty.2 c (List.mem_of_getLast? last)⟩

theorem plain_go : Plain "GO".toList where
  nonempty := by decide
  solid := by
    intro c mem
    rcases List.mem_pair.mp mem with rfl | rfl <;> decide
  literal := by decide

end Separator

/-- A line that holds nothing but the separator, with the line end before it. It may be indented,
    and blanks may follow it, further line ends among them. -/
structure SeparatorLine (separator : List Char) where
  indent : List Char := []
  found : List Char
  after : List Char := []
  indented : indent.all Separator.isIndent = true := by rfl
  agrees : Separator.Agrees separator found
  blank : isAllBlank after = true := by rfl

namespace SeparatorLine

open Separator

variable {separator : List Char} (line : SeparatorLine separator)

/-- The line behind the line end before it. -/
def text : List Char := '\n' :: (line.indent ++ line.found ++ line.after)

/-- The line without what follows the separator. -/
def bare : SeparatorLine separator := { line with after := [], blank := rfl }

theorem isAllBlank_indent : isAllBlank ('\n' :: line.indent) = true := by
  rw [isAllBlank_cons, Bool.and_eq_true]
  refine ⟨rfl, List.all_eq_true.mpr fun c mem => ?_⟩
  exact (isBlank_of_isIndent (List.all_eq_true.mp line.indented c mem)).1

theorem append_text (before : List Char) :
    before ++ line.text = before ++ '\n' :: line.indent ++ line.found ++ line.after := by
  simp only [text, List.append_assoc, List.cons_append]

theorem append_bare_text (before : List Char) :
    before ++ line.bare.text = before ++ '\n' :: line.indent ++ line.found :=
  (line.bare.append_text before).trans (List.append_nil _)

/-- What is trimmed off a text with a separator line at its end is behind the separator. -/
theorem trimEnd_append (plain : Plain separator) (before : List Char) :
    trimEnd (before ++ line.text) = before ++ '\n' :: line.indent ++ line.found := by
  obtain ⟨c, last, solid⟩ := line.agrees.exists_getLast? plain
  rw [append_text, trimEnd_append_of_getLast? _ last solid line.blank]

/-- **One separator line is dropped**, be the separator a word or not. -/
theorem trimEnd_dropTrailing (plain : Plain separator) (before : List Char) :
    trimEnd (dropTrailing separator (trimEnd (before ++ line.text))) = trimEnd before := by
  have agrees := line.agrees
  rw [line.trimEnd_append plain]
  cases word : isWord separator with
  | true =>
    rw [Agrees, if_pos word] at agrees
    have closes : ClosesAlone separator before (before ++ '\n' :: line.indent ++ line.found) :=
      ⟨line.indent, line.found, line.indented, agrees, .inl (by simp)⟩
    rw [dropTrailing_of_closesAlone word closes]
  | false =>
    rw [Agrees, if_neg (by simp [word])] at agrees
    rw [agrees, dropTrailing_append word, trimEnd_append_blanks _ line.isAllBlank_indent]

/-! ## Mending -/

section Mending

variable {separator : String} (plain : Plain separator.toList)
  (sign : isWord separator.toList = false)

include plain sign

/-- Of two separator lines at the end mending leaves the first, without what follows it. -/
theorem mendDoubled_two (first last : SeparatorLine separator.toList) (before : List Char) :
    mendDoubled (String.ofList (before ++ first.text ++ last.text)) separator =
      .ok (String.ofList (before ++ first.bare.text)) := by
  have here := first.agrees
  have there := last.agrees
  rw [Agrees, if_neg (by simp [sign])] at here there
  have closes : Closes separator.toList (before ++ '\n' :: first.indent)
      [first.after ++ '\n' :: last.indent, last.after]
      (String.ofList (before ++ first.text ++ last.text)).toList := by
    refine ⟨?_, ?_⟩
    · rw [String.toList_ofList, append_text, append_text, here, there]
      simp
    · rw [List.forall_mem_cons, List.forall_mem_singleton, isAllBlank_append, first.blank,
        last.isAllBlank_indent]
      exact ⟨rfl, last.blank⟩
  rw [mendDoubled_of_closes plain closes, append_bare_text, here]

/-- A text that does not close with the separator is left alone by mending, and so it is with one
    separator line behind it. -/
theorem mendDoubled_few {body : List Char} (apart : Apart separator.toList body)
    {lines : List (SeparatorLine separator.toList)} (few : lines.length ≤ 1) :
    mendDoubled (String.ofList (body ++ lines.flatMap text)) separator =
      .ok (String.ofList (body ++ lines.flatMap text)) := by
  rw [Apart, if_neg (by simp [sign])] at apart
  -- whatever blanks are behind the body, it does not end in the separator
  have unclosed (blanks before gap : List Char) (blank : isAllBlank blanks = true)
      (blank' : isAllBlank gap = true) : body ++ blanks ≠ before ++ separator.toList ++ gap := by
    intro same
    obtain ⟨c, last⟩ :=
      Option.ne_none_iff_exists'.mp (mt List.getLast?_eq_none_iff.mp plain.nonempty)
    have ends := congrArg trimEnd same
    rw [trimEnd_append_blanks _ blank, trimEnd_append_of_getLast? before last
      (plain.solid c (List.mem_of_getLast? last)) blank'] at ends
    exact apart (ends ▸ List.suffix_append before _)
  refine mendDoubled_of_not_closes plain fun before between after closes => ?_
  rw [String.toList_ofList, ← List.singleton_append, closes_concat_iff] at closes
  obtain ⟨rest, more, blank, split⟩ := closes
  match lines, few with
  | [], _ => exact unclosed [] rest after rfl blank (by simpa using split)
  | [line], _ =>
    obtain ⟨blank', rfl⟩ := closes_singleton_iff.mp more
    have agrees := line.agrees
    rw [Agrees, if_neg (by simp [sign])] at agrees
    rw [List.flatMap_singleton, append_text, agrees] at split
    obtain ⟨same, -⟩ := plain.append_inj line.blank blank split
    exact unclosed _ before between line.isAllBlank_indent blank' same

end Mending

end SeparatorLine

/-! ## Blocks -/

namespace Preview

open Separator SeparatorLine

/-- A dialect with a separator that can be told from blanks and from a template, and that is no word
    where strings are mended: mending does not look past letters of another case. -/
structure Separated (dialect : Dialect) (separator : String) : Prop where
  separated : dialect.separator? = some separator
  plain : Plain separator.toList
  sign : dialect.mendsSeparator = true → isWord separator.toList = false
  short : dialect.terminator.toList.length ≤ 1

/-- How many separator lines a preview takes off: one where it writes, and one before that where the
    dialect mends. -/
def spare (dialect : Dialect) : Nat := if dialect.mendsSeparator then 2 else 1

/-- The preview of a text that is not cut. -/
def ofText (p : Preview) (delimiter : String) (page : Page) (text : List Char) :
    Except Failure Unit × Page :=
  (p.execute (.command (.raw (String.ofList text) delimiter false)) []).run page

/-- Its one string is finished and written. -/
theorem ofText_eq (p : Preview) {text : List Char} {finished : String}
    (h : Rendering.finish p.dialect [] (String.ofList text) = .ok finished) (delimiter : String)
    (page : Page) : p.ofText delimiter page text = (p.write finished).run page := by
  have rendered :
      Rendering.render p.dialect [] (.command (.raw (String.ofList text) delimiter false)) =
        .ok [finished] := by
    rw [Line.render_command]
    show Rendering.finishAll p.dialect [] [String.ofList text] = _
    rw [Rendering.finishAll, h]
    rfl
  rw [ofText, execute_run p rendered]
  rfl

namespace Separated

variable {dialect : Dialect} {separator : String} (d : Separated dialect separator)

include d

/-- Writing takes off one separator line. -/
theorem bodyOf_line (line : SeparatorLine separator.toList) (before : List Char) :
    bodyOf dialect (before ++ line.text) = trimEnd before := by
  rw [bodyOf_of_some d.separated, line.trimEnd_dropTrailing d.plain]

theorem bodyOf_apart {body : List Char} (apart : Apart separator.toList body) :
    bodyOf dialect body = trimEnd body := by
  rw [bodyOf_of_some d.separated, (apart_iff d.plain.nonempty).mp apart, trimEnd_trimEnd]

/-- What writing leaves of a text with separator lines behind it. -/
theorem bodyOf_lines {body : List Char} (apart : Apart separator.toList body)
    (lines : List (SeparatorLine separator.toList)) :
    bodyOf dialect (body ++ lines.flatMap text) =
      trimEnd (body ++ (lines.take (lines.length - 1)).flatMap text) := by
  rcases List.eq_nil_or_concat' lines with rfl | ⟨more, last, rfl⟩
  · simpa using d.bodyOf_apart apart
  · have rest : (more ++ [last]).take ((more ++ [last]).length - 1) = more := by simp
    rw [rest, List.flatMap_append, List.flatMap_singleton, ← List.append_assoc, d.bodyOf_line]

/-- **What mending and writing leave together.** -/
theorem exists_finish {body : List Char} (apart : Apart separator.toList body)
    (lines : List (SeparatorLine separator.toList)) :
    ∃ finished, Rendering.finish dialect [] (String.ofList (body ++ lines.flatMap text)) =
        .ok finished ∧
      bodyOf dialect finished.toList =
        trimEnd (body ++ (lines.take (lines.length - spare dialect)).flatMap text) := by
  have unfinished (sql : String) : Rendering.finish dialect [] sql =
      if dialect.mendsSeparator then mendDoubled sql separator else .ok sql := by
    show (if dialect.mendsSeparator then mendDoubled sql (dialect.separator?.getD "/") else _) = _
    rw [d.separated]
    rfl
  rw [unfinished, spare]
  cases mends : dialect.mendsSeparator with
  | false =>
    refine ⟨_, rfl, ?_⟩
    rw [String.toList_ofList, d.bodyOf_lines apart]
    rfl
  | true =>
    have sign := d.sign mends
    by_cases few : lines.length ≤ 1
    · refine ⟨_, mendDoubled_few d.plain sign apart few, ?_⟩
      have none : lines.length - 1 = lines.length - 2 := by omega
      rw [String.toList_ofList, d.bodyOf_lines apart, none]
      rfl
    · rcases List.eq_nil_or_concat' lines with rfl | ⟨lines, last, rfl⟩
      · exact absurd (Nat.zero_le 1) few
      rcases List.eq_nil_or_concat' lines with rfl | ⟨more, first, rfl⟩
      · exact absurd (Nat.le_refl 1) few
      have parts : body ++ (more ++ [first] ++ [last]).flatMap text =
          body ++ more.flatMap text ++ first.text ++ last.text := by
        simp
      refine ⟨_, by rw [parts]; exact mendDoubled_two d.plain sign first last _, ?_⟩
      have rest : (more ++ [first] ++ [last]).take
          ((more ++ [first] ++ [last]).length - 2) = more := by simp
      rw [String.toList_ofList, d.bodyOf_line]
      exact congrArg (fun lines => trimEnd (body ++ lines.flatMap text)) rest.symm

/-- A separator line that is left makes another block: it is longer than a terminator. -/
theorem terminated_eq_iff (body : List Char) (lines : List (SeparatorLine separator.toList)) :
    terminated dialect.terminator.toList (trimEnd (body ++ lines.flatMap text)) =
      terminated dialect.terminator.toList (trimEnd body) ↔ lines = [] := by
  constructor
  · intro same
    rcases List.eq_nil_or_concat' lines with rfl | ⟨more, last, rfl⟩
    · rfl
    obtain ⟨c, found, -⟩ := last.agrees.exists_getLast? d.plain
    have solid : 0 < last.found.length := List.length_pos_of_mem (List.mem_of_getLast? found)
    obtain ⟨blanks, -, split⟩ := exists_trimEnd body
    have shorter := congrArg List.length split
    rw [List.flatMap_append, List.flatMap_singleton, ← List.append_assoc,
      last.trimEnd_append d.plain] at same
    have more_than := le_length_terminated dialect.terminator.toList
      (body ++ more.flatMap text ++ '\n' :: last.indent ++ last.found)
    have at_most := length_terminated_le dialect.terminator.toList (trimEnd body)
    rw [same] at more_than
    simp only [List.length_append, List.length_cons] at more_than shorter
    have short := d.short
    omega
  · rintro rfl
    rw [List.flatMap_nil, List.append_nil]

end Separated

/-- The built-in dialects that have a separator. -/
theorem separated_of_builtin {name separator : String} {dialect : Dialect}
    (builtin : (name, dialect) ∈ Registry.builtin.entries)
    (h : dialect.separator? = some separator) : Separated dialect separator := by
  have table : ∀ entry ∈ Registry.builtin.entries,
      entry.2.separator? = none ∨ entry.2 = .oracle ∨ entry.2 = .mssql := by
    decide +kernel
  rcases table _ builtin with none | rfl | rfl
  · rw [h] at none
    cases none
  · have slash : Dialect.oracle.separator? = some "/" := rfl
    cases slash.symm.trans h
    exact ⟨rfl, plain_slash, fun _ => by decide +kernel, by decide⟩
  · have go : Dialect.mssql.separator? = some "GO" := rfl
    cases go.symm.trans h
    exact ⟨rfl, plain_go, (fun mends => by cases mends), by decide⟩

/-- **How many separator lines are taken off.** A built-in dialect with a separator writes a text
    that does not close with it, and separator lines behind it, in one block. The lines that are
    taken off are the last one, and where the dialect mends also the one before; all others stay in
    the block, and the terminator comes behind them. So the block is that of the text alone if there
    are no more lines than that, and otherwise never. -/
theorem ofText_separatorLines (name separator : String) (dialect : Dialect)
    (builtin : (name, dialect) ∈ Registry.builtin.entries)
    (separated : dialect.separator? = some separator) (address delimiter : String) (page : Page)
    (body : List Char) (apart : Apart separator.toList body)
    (lines : List (SeparatorLine separator.toList)) :
    let written := Preview.ofText ⟨dialect, address⟩ delimiter page
    let left := (lines.take (lines.length - spare dialect)).flatMap text
    (written (body ++ lines.flatMap text)).1 = .ok () ∧
      (written (body ++ lines.flatMap text)).2.text = page.text ++ String.ofList
        (terminated dialect.terminator.toList (trimEnd (body ++ left)) ++
          '\n' :: separator.toList ++ ['\n', '\n']) ∧
      ((written (body ++ lines.flatMap text)).2.text = (written body).2.text ↔
        lines.length ≤ spare dialect) := by
  intro written left
  have d := separated_of_builtin builtin separated
  have writes (lines : List (SeparatorLine separator.toList)) :
      (written (body ++ lines.flatMap text)).1 = .ok () ∧
        (written (body ++ lines.flatMap text)).2.text = page.text ++ String.ofList
          (terminated dialect.terminator.toList
            (trimEnd (body ++ (lines.take (lines.length - spare dialect)).flatMap text)) ++
              '\n' :: separator.toList ++ ['\n', '\n']) := by
    obtain ⟨finished, here, shape⟩ := d.exists_finish apart lines
    have run := ofText_eq ⟨dialect, address⟩ here delimiter page
    refine ⟨congrArg Prod.fst run, (congrArg (fun run => run.2.text) run).trans ?_⟩
    show page.text ++ block dialect finished = _
    rw [block_of_some d.separated, shape]
  refine ⟨(writes lines).1, (writes lines).2, ?_⟩
  have bare := (writes []).2
  rw [List.flatMap_nil, List.append_nil, List.take_nil, List.flatMap_nil, List.append_nil] at bare
  rw [(writes lines).2, bare, ← String.toList_inj, String.toList_append, String.toList_append,
    List.append_right_inj, String.toList_ofList, String.toList_ofList, List.append_left_inj,
    List.append_left_inj, d.terminated_eq_iff, List.take_eq_nil_iff, Nat.sub_eq_zero_iff_le]
  refine or_iff_left_of_imp fun none => ?_
  rw [none]
  exact Nat.zero_le _

/-- Two lines of which one is left, the one in another case and with blanks around it. -/
theorem ofText_separatorLines_two :
    let written := Preview.ofText ⟨.mssql, "offline:mssql"⟩ ";" {}
    Apart "GO".toList "SELECT 1".toList ∧
      (written "SELECT 1\n  go\r\nGO".toList).2.text = "SELECT 1\n  go;\nGO\n\n" ∧
      (written "SELECT 1\n  go\r\nGO".toList).2.text ≠ (written "SELECT 1".toList).2.text := by
  have apart : Apart "GO".toList "SELECT 1".toList :=
    (apart_iff (by decide)).mpr (by decide +kernel)
  let lines : List (SeparatorLine "GO".toList) :=
    [{ indent := "  ".toList, found := "go".toList, after := "\r".toList,
       agrees := by decide +kernel },
     { found := "GO".toList, agrees := by decide +kernel }]
  have sql : "SELECT 1".toList ++ lines.flatMap text = "SELECT 1\n  go\r\nGO".toList := by
    decide +kernel
  obtain ⟨-, written, same⟩ := ofText_separatorLines "mssql" "GO" .mssql (by decide +kernel) rfl
    "offline:mssql" ";" {} "SELECT 1".toList apart lines
  rw [sql] at written same
  exact ⟨apart, written.trans (by decide +kernel), mt same.mp (by decide)⟩

/-- The separator line that is left is ended like a statement. -/
theorem ofText_terminates_separator :
    let written := Preview.ofText ⟨.mssql, "offline:mssql"⟩ ";" {}
    (written "SELECT 1\nGO\nGO".toList).2.text = "SELECT 1\nGO;\nGO\n\n" ∧
      (written "SELECT 1\nGO\nGO".toList).2.text ≠ (written "SELECT 1".toList).2.text := by
  decide +kernel

end Preview

end SqlRunner
