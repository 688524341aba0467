import SqlRunner.Preview
import SqlRunner.Proofs.Blanks

/-!
# Blocks — what a preview writes of a string

A block is the string without blanks at its end, the terminator unless it is there already, and the
separator on a line of its own where the dialect has one. The writer adds its own separator, so one
that the string ends in is dropped first, and here separators differ. A separator that is a word is
dropped if it is alone on the last line (`ClosesAlone`), and a string is otherwise left as it is. Of
any other separator nothing is asked but that the string ends in it. That is too little: `*/` ends
in the separator of Oracle, and a comment at the end of a statement loses its last character
(`write_drops_comment_end`).
-/

set_option autoImplicit false

namespace SqlRunner

open Text

namespace Separator

/-- A text that closes with the separator alone on its last line, and what comes before that line. -/
def ClosesAlone (separator kept text : List Char) : Prop :=
  ∃ indent found, indent.all isIndent = true ∧ sameText separator found = true ∧
    (text = kept ++ '\n' :: (indent ++ found) ∨ kept = [] ∧ text = indent ++ found)

/-! ## Dropping the last line -/

theorem isBlank_of_isIndent {c : Char} (h : isIndent c = true) : isBlank c = true ∧ c ≠ '\n' := by
  rcases Bool.or_eq_true _ _ |>.mp h with space | tab
  · rw [eq_of_beq space]
    decide
  · rw [eq_of_beq tab]
    decide

theorem beforeIndent?_eq_some_iff {body kept : List Char} :
    beforeIndent? body.reverse = some kept ↔ ∃ indent, indent.all isIndent = true ∧
      (body = kept ++ '\n' :: indent ∨ kept = [] ∧ body = indent) := by
  constructor
  -- the text is read from the right: indentation, and then a line end or nothing at all
  · intro h
    have run : ((body.reverse.takeWhile isIndent).reverse).all isIndent = true := by
      rw [List.all_reverse]
      exact List.all_takeWhile
    have parts : body =
        (body.reverse.dropWhile isIndent).reverse ++ (body.reverse.takeWhile isIndent).reverse := by
      rw [← List.reverse_append, List.takeWhile_append_dropWhile, List.reverse_reverse]
    refine ⟨(body.reverse.takeWhile isIndent).reverse, run, ?_⟩
    rw [beforeIndent?] at h
    split at h
    case h_1 none =>
      cases h
      rw [none] at parts
      exact .inr ⟨rfl, parts⟩
    case h_2 c before rest =>
      split at h
      case isFalse => cases h
      case isTrue lineEnd =>
        cases h
        rw [rest, eq_of_beq lineEnd, List.reverse_cons, List.append_assoc] at parts
        exact .inl parts
  · rintro ⟨indent, run, split⟩
    have indented : ∀ c ∈ indent.reverse, isIndent c = true := fun c mem =>
      List.all_eq_true.mp run c (List.mem_reverse.mp mem)
    rcases split with rfl | ⟨rfl, rfl⟩
    · rw [List.reverse_append, List.reverse_cons, List.append_assoc, beforeIndent?,
        List.dropWhile_append_of_pos indented, List.singleton_append,
        List.dropWhile_cons_of_neg (by decide)]
      simp
    · rw [beforeIndent?, ← List.append_nil body.reverse, List.dropWhile_append_of_pos indented]
      rfl

/-- The text cut where a separator at its end would start. -/
theorem take_drop_of_append {separator found : List Char} (body : List Char)
    (same : separator.length = found.length) :
    (body ++ found).take ((body ++ found).length - separator.length) = body ∧
      (body ++ found).drop ((body ++ found).length - separator.length) = found := by
  rw [List.length_append, same, Nat.add_sub_cancel]
  exact ⟨List.take_left, List.drop_left⟩

section Word

variable {separator text : List Char} (word : isWord separator = true)

include word

/-- **A word alone on the last line is dropped**, with the line. -/
theorem dropTrailing_of_closesAlone {kept : List Char} (h : ClosesAlone separator kept text) :
    dropTrailing separator text = kept := by
  obtain ⟨indent, found, run, same, split⟩ := h
  obtain ⟨body, rfl, before⟩ : ∃ body, text = body ++ found ∧
      beforeIndent? body.reverse = some kept := by
    rcases split with rfl | ⟨rfl, rfl⟩
    · exact ⟨kept ++ '\n' :: indent, by simp, beforeIndent?_eq_some_iff.mpr ⟨indent, run, .inl rfl⟩⟩
    · exact ⟨indent, rfl, beforeIndent?_eq_some_iff.mpr ⟨indent, run, .inr ⟨rfl, rfl⟩⟩⟩
  obtain ⟨taken, dropped⟩ := take_drop_of_append body (length_eq_of_sameText same)
  simp only [dropTrailing, taken, dropped, if_pos word, if_pos same, before, Option.getD_some]

/-- A word that is not alone is left. -/
theorem dropTrailing_of_not_closesAlone (h : ∀ kept, ¬ ClosesAlone separator kept text) :
    dropTrailing separator text = text := by
  simp only [dropTrailing, if_pos word]
  split
  case isFalse => rfl
  case isTrue same =>
    cases before : beforeIndent? (text.take (text.length - separator.length)).reverse with
    | none => rfl
    | some kept =>
      obtain ⟨indent, run, split⟩ := beforeIndent?_eq_some_iff.mp before
      have parts := (List.take_append_drop (text.length - separator.length) text).symm
      refine absurd ⟨indent, _, run, same, ?_⟩ (h kept)
      rcases split with body | ⟨none, body⟩
      · rw [body, List.append_assoc] at parts
        exact .inl parts
      · rw [body] at parts
        exact .inr ⟨none, parts⟩

end Word

section Sign

variable {separator : List Char} (sign : isWord separator = false)

include sign

/-- **Any other separator is dropped wherever the text ends in it.** -/
theorem dropTrailing_append (kept : List Char) :
    dropTrailing separator (kept ++ separator) = kept := by
  obtain ⟨taken, dropped⟩ := take_drop_of_append kept (Eq.refl separator.length)
  simp only [dropTrailing, taken, dropped, sign, Bool.false_eq_true, if_false, beq_self_eq_true,
    if_true]

theorem dropTrailing_of_not_suffix {text : List Char} (h : ¬ separator <:+ text) :
    dropTrailing separator text = text := by
  simp only [dropTrailing, sign, Bool.false_eq_true, if_false]
  split
  case isFalse => rfl
  case isTrue same =>
    have suffix := List.drop_suffix (text.length - separator.length) text
    rw [← eq_of_beq same] at suffix
    exact absurd suffix h

end Sign

end Separator

namespace Preview

/-! ## The terminator -/

theorem terminated_of_suffix {terminator text : List Char} (h : terminator <:+ text) :
    terminated terminator text = text := if_pos (List.isSuffixOf_iff_suffix.mpr h)

theorem terminated_of_not_suffix {terminator text : List Char} (h : ¬ terminator <:+ text) :
    terminated terminator text = text ++ terminator :=
  if_neg fun suffix => h (List.isSuffixOf_iff_suffix.mp suffix)

theorem le_length_terminated (terminator text : List Char) :
    text.length ≤ (terminated terminator text).length := by
  rw [terminated]
  split
  case isTrue => rfl
  case isFalse => rw [List.length_append]; exact Nat.le_add_right _ _

theorem length_terminated_le (terminator text : List Char) :
    (terminated terminator text).length ≤ text.length + terminator.length := by
  rw [terminated]
  split
  case isTrue => exact Nat.le_add_right _ _
  case isFalse => rw [List.length_append]

/-- A block ends in its terminator. -/
theorem suffix_terminated (terminator text : List Char) :
    terminator <:+ terminated terminator text := by
  by_cases h : terminator <:+ text
  · rw [terminated_of_suffix h]
    exact h
  · rw [terminated_of_not_suffix h]
    exact List.suffix_append text terminator

/-! ## The text of a block -/

section Body

variable {dialect : Dialect}

theorem bodyOf_of_none (h : dialect.separator? = none) (sql : List Char) :
    bodyOf dialect sql = trimEnd sql := by
  rw [bodyOf, h]

theorem bodyOf_of_some {separator : String} (h : dialect.separator? = some separator)
    (sql : List Char) :
    bodyOf dialect sql = trimEnd (Separator.dropTrailing separator.toList (trimEnd sql)) := by
  rw [bodyOf, h]

theorem block_of_some {separator : String} (h : dialect.separator? = some separator)
    (sql : String) :
    block dialect sql = String.ofList (terminated dialect.terminator.toList
      (bodyOf dialect sql.toList) ++ '\n' :: separator.toList ++ ['\n', '\n']) := by
  rw [block, closing, h, List.append_assoc]

end Body

/-- **What a block keeps of a string.** A string is written without blanks at its end, and then as it
    is, unless it closes with the separator. A word has to be alone on the last line for that; of
    any other separator it is enough that the string ends in it. What is dropped is the separator,
    with its line if it is a word, and the blanks before it. -/
theorem write_block (p : Preview) (sql : String) (page : Page) {separator : String}
    (h : p.dialect.separator? = some separator) :
    let text := trimEnd sql.toList
    ∃ body, ((p.write sql).run page).2.text = page.text ++ String.ofList
        (terminated p.dialect.terminator.toList body ++ '\n' :: separator.toList ++ ['\n', '\n']) ∧
      if Separator.isWord separator.toList then
        ((∀ kept, ¬ Separator.ClosesAlone separator.toList kept text) → body = text) ∧
        ∀ kept, Separator.ClosesAlone separator.toList kept text → body = trimEnd kept
      else
        (¬ separator.toList <:+ text → body = text) ∧
        ∀ kept, text = kept ++ separator.toList → body = trimEnd kept := by
  refine ⟨bodyOf p.dialect sql.toList, ?_, ?_⟩
  · show page.text ++ block p.dialect sql = _
    rw [block_of_some h]
  rw [bodyOf_of_some h]
  split
  case isTrue word =>
    constructor
    · intro apart
      rw [Separator.dropTrailing_of_not_closesAlone word apart, trimEnd_trimEnd]
    · intro kept closes
      rw [Separator.dropTrailing_of_closesAlone word closes]
  case isFalse sign =>
    rw [Bool.not_eq_true] at sign
    constructor
    · intro apart
      rw [Separator.dropTrailing_of_not_suffix sign apart, trimEnd_trimEnd]
    · intro kept split
      rw [split, Separator.dropTrailing_append sign]

/-- A word that is alone on the last line, indented and in another case. -/
theorem write_block_word :
    Dialect.mssql.separator? = some "GO" ∧
      (((⟨.mssql, "offline:mssql"⟩ : Preview).write "DROP TABLE CARGO\n  go\r\n").run {}).2.text =
        "DROP TABLE CARGO;\nGO\n\n" := by
  refine ⟨rfl, ?_⟩
  obtain ⟨body, written, rule⟩ :=
    write_block ⟨.mssql, "offline:mssql"⟩ "DROP TABLE CARGO\n  go\r\n" {} rfl
  rw [if_pos (by decide +kernel)] at rule
  have closes : Separator.ClosesAlone "GO".toList "DROP TABLE CARGO".toList
      (trimEnd "DROP TABLE CARGO\n  go\r\n".toList) :=
    ⟨"  ".toList, "go".toList, by decide, by decide +kernel, .inl (by decide +kernel)⟩
  rw [written, rule.2 _ closes]
  decide +kernel

/-- A comment at the end of a statement: the separator is not alone on the last line, and the last
    character is dropped all the same. -/
theorem write_drops_comment_end :
    let sql := "SELECT 1 FROM dual /* all */"
    ((sql.toList.splitOn '\n').map trim).getLast? ≠ some "/".toList ∧
      (((⟨.oracle, "offline:oracle"⟩ : Preview).write sql).run {}).2.text =
        "SELECT 1 FROM dual /* all *;\n/\n\n" ∧
      (((⟨.oracle, "offline:oracle"⟩ : Preview).write sql).run {}).2.text ≠
        "SELECT 1 FROM dual /* all */;\n/\n\n" := by
  decide +kernel

end Preview

end SqlRunner
