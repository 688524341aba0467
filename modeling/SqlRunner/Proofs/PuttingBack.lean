import SqlRunner.Proofs.Mending
import SqlRunner.Proofs.Nesting
import SqlRunner.Proofs.Templates

/-!
# Putting back — where a separator is taken for a template

Mending takes two separators from the end of a string and puts one back. It looks for the separator
as it is written, whatever characters that has, but it puts back what the separator gives as a
template. That is the separator again exactly if it stands for itself, which all separators without
a backslash do (`Separator.mended_putBack_iff`).

Of the others some cannot be read as a template. The template is read before the string is looked
at, so with such a separator no string of the dialect can be rendered, not even one that has no
separator in it (`Rendering.render_refuses_separator`). What a dialect makes of its strings is thus
known from its separator and from the strings as the visitors leave them
(`Rendering.render_putsBack`).
-/

set_option autoImplicit false

namespace SqlRunner

namespace Separator

open Pattern

/-! ## Where two separators are -/

/-- From behind `before` on the text is two separators with blanks between and behind them. -/
def TwiceFrom (separator before text : List Char) : Prop :=
  ∃ between after, Closes separator before [between, after] text

/-- Two separators close the text. -/
def Doubled (separator text : List Char) : Prop := ∃ before, TwiceFrom separator before text

/-- Two separators close the text, and nowhere further to the front. -/
def FirstTwiceFrom (separator before text : List Char) : Prop :=
  TwiceFrom separator before text ∧
    ∀ earlier, TwiceFrom separator earlier text → before.length ≤ earlier.length

/-- What mending should leave of a text: where two separators close it, what is before the first
    place from which on they do and the separator, and otherwise the text. -/
def Mended (separator text mended : List Char) : Prop :=
  (∃ before, FirstTwiceFrom separator before text ∧ mended = before ++ separator) ∨
    ¬ Doubled separator text ∧ mended = text

section Place

variable {separator text before : List Char}

theorem beforeDoubled?_eq_none_iff :
    beforeDoubled? separator text = none ↔ ¬ Doubled separator text := by
  rw [← not_iff_not, not_not, ← ne_eq, Option.ne_none_iff_exists']
  constructor
  · rintro ⟨before, found⟩
    exact ⟨before, closes_of_beforeDoubled? found⟩
  · rintro ⟨before, between, after, closes⟩
    exact exists_beforeDoubled? closes

/-- Nothing is found behind a place from which on the text is two separators. -/
theorem length_le_of_beforeDoubled? {earlier : List Char}
    (found : beforeDoubled? separator text = some before)
    (twice : TwiceFrom separator earlier text) : before.length ≤ earlier.length := by
  obtain ⟨between, after, closes⟩ := twice
  induction text generalizing before earlier with
  | nil =>
    rw [beforeDoubled?] at found
    split at found <;> cases found
    exact Nat.zero_le _
  | cons c rest ih =>
    rw [beforeDoubled?] at found
    split at found
    case isTrue =>
      cases found
      exact Nat.zero_le _
    case isFalse apart =>
      obtain ⟨before, later, rfl⟩ := Option.map_eq_some_iff.mp found
      cases earlier with
      | nil => exact absurd (isDoubled_iff.mpr ⟨between, after, closes⟩) apart
      | cons d earlier =>
        obtain ⟨split, blank⟩ := closes
        exact Nat.succ_le_succ (ih later ⟨(List.cons.inj split).2, blank⟩)

/-- **The place that is found is the first one**, of those there are for a separator that has blanks
    in it. -/
theorem beforeDoubled?_eq_some_iff_first :
    beforeDoubled? separator text = some before ↔ FirstTwiceFrom separator before text := by
  constructor
  · intro found
    exact ⟨closes_of_beforeDoubled? found, fun _ => length_le_of_beforeDoubled? found⟩
  · rintro ⟨twice, first⟩
    obtain ⟨between, after, closes⟩ := twice
    obtain ⟨found, here⟩ := exists_beforeDoubled? closes
    obtain ⟨between', after', closes'⟩ := closes_of_beforeDoubled? here
    have same : found.length = before.length :=
      Nat.le_antisymm (length_le_of_beforeDoubled? here ⟨between, after, closes⟩)
        (first found ⟨between', after', closes'⟩)
    rw [here, (List.append_inj (closes'.split.symm.trans closes.split) same).1]

end Place

/-! ## What is put back for them -/

variable {separator : String}

/-- A separator without a backslash is no exception: as a template it is its own text. -/
theorem replacement_eq (separator : String) (doubled : List Char) :
    replacement separator doubled = (readTemplate 0 [] separator).map (filled doubled) := by
  rw [replacement]
  split
  case isTrue => cases readTemplate 0 [] separator <;> rfl
  case isFalse none =>
    have literal : isLiteral separator.toList = true :=
      isLiteral_of_notMem (by rwa [List.contains_iff_mem] at none)
    obtain ⟨pieces, read, same⟩ := exists_readTemplate literal
    rw [read]
    exact congrArg Except.ok (same doubled).symm

/-- The text with a template that was read put back for two separators. -/
def putBack (separator : String) (pieces : List Piece) (text : String) : String :=
  match beforeDoubled? separator.toList text.toList with
  | none => text
  | some kept => String.ofList (kept ++ filled (text.toList.drop kept.length) pieces)

theorem mendDoubled_of_error {refusal : Refusal}
    (refused : readTemplate 0 [] separator = .error refusal) (text : String) :
    mendDoubled text separator = .error (.pattern refusal) := by
  rw [mendDoubled, replacement_eq, refused]
  rfl

theorem mendDoubled_of_ok {pieces : List Piece}
    (read : readTemplate 0 [] separator = .ok pieces) (text : String) :
    mendDoubled text separator = .ok (putBack separator pieces text) := by
  simp only [mendDoubled, putBack, replacement_eq, read, Except.map]
  cases beforeDoubled? separator.toList text.toList <;> rfl

/-- **What is put back is the separator exactly if that stands for itself**, unless there is nothing
    to be put back. -/
theorem mended_putBack_iff (nonempty : separator.toList ≠ []) {pieces : List Piece}
    (read : readTemplate 0 [] separator = .ok pieces) (text : String) :
    Mended separator.toList text.toList (putBack separator pieces text).toList ↔
      isLiteral separator.toList = true ∨ ¬ Doubled separator.toList text.toList := by
  rw [putBack]
  cases found : beforeDoubled? separator.toList text.toList with
  | none =>
    have apart := beforeDoubled?_eq_none_iff.mp found
    exact iff_of_true (.inr ⟨apart, rfl⟩) (.inr apart)
  | some kept =>
    obtain ⟨between, after, closes⟩ := closes_of_beforeDoubled? found
    have doubled : Doubled separator.toList text.toList := ⟨kept, between, after, closes⟩
    -- the two separators that the template may refer to are longer than the one it is
    have longer : separator.toList.length < (text.toList.drop kept.length).length := by
      have := List.length_pos_iff.mpr nonempty
      rw [closes.split, List.drop_left, List.flatMap_cons, List.flatMap_singleton]
      simp only [List.length_append]
      omega
    rw [Mended, or_iff_left (not_and_of_not_left _ (not_not_intro doubled)),
      or_iff_left (not_not_intro doubled), ← filled_eq_self_iff read longer, String.toList_ofList]
    simp only [← beforeDoubled?_eq_some_iff_first, found, Option.some.injEq, exists_eq_left',
      List.append_cancel_left_eq]

end Separator

namespace Rendering

open Separator Pattern

variable {dialect : Dialect} {visitors : List Visitor}

theorem mendedSeparator_ne_nil (dialect : Dialect) : (mendedSeparator dialect).toList ≠ [] := by
  rw [mendedSeparator, Dialect.separator?]
  split
  case h_1 separator _ =>
    split
    case isTrue => decide
    case isFalse some => simpa [String.isEmpty_iff] using some
  case h_2 => decide

/-! ## The strings of a statement -/

theorem exists_generateAll {commands : List Command}
    (own : ∀ kind, .foreign kind ∉ commands) : ∃ strings, generateAll commands = .ok strings := by
  induction commands with
  | nil => exact ⟨[], rfl⟩
  | cons command rest ih =>
    have here : ∃ first, command.generate = .ok first := by
      cases command with
      | foreign kind => exact absurd List.mem_cons_self (own kind)
      | _ => exact ⟨_, rfl⟩
    obtain ⟨first, here⟩ := here
    obtain ⟨others, later⟩ := ih fun kind mem => own kind (List.mem_cons_of_mem _ mem)
    refine ⟨first ++ others, ?_⟩
    rw [generateAll, here, later]
    rfl

/-- A statement has strings if its changes resolve and all its commands are of a known kind. -/
theorem exists_generate {s : Statement} (quiet : ∀ place, s.faultAt? dialect.name place = none)
    (own : ∀ place kind, s.commandAt? dialect.name place ≠ some (.foreign kind)) :
    ∃ strings, generate dialect s = .ok strings := by
  obtain ⟨commands, expanded⟩ := Statement.exists_expand quiet
  have listed := (Statement.expand_ok_iff.mp expanded).2
  have known (kind : String) : .foreign kind ∉ commands := by
    intro mem
    obtain ⟨place, found⟩ := listed.mem_iff.mp mem
    exact own place kind found
  obtain ⟨strings, generated⟩ := exists_generateAll known
  refine ⟨strings, ?_⟩
  rw [generate, expanded]
  exact generated

/-- The visitors edit every string, and these are the results. -/
def Edits (dialect : Dialect) (visitors : List Visitor) (strings edited : List String) : Prop :=
  List.Forall₂ (fun sql result => Visitor.applyAll dialect visitors sql = .ok result)
    strings edited

/-! ## What is made of the edited strings -/

/-- What is done to a string that the visitors have edited. -/
def mend (dialect : Dialect) (edited : String) : Except Fault String :=
  if dialect.mendsSeparator then mendDoubled edited (mendedSeparator dialect) else .ok edited

/-- What should become of a string that the visitors have edited: it is mended by the separator as
    it is written if the dialect asks for that, and otherwise left alone. -/
def PutBack (dialect : Dialect) (edited rendered : String) : Prop :=
  if dialect.mendsSeparator then
    Mended (mendedSeparator dialect).toList edited.toList rendered.toList
  else rendered = edited

theorem finish_of_edited {sql edited : String}
    (here : Visitor.applyAll dialect visitors sql = .ok edited) :
    finish dialect visitors sql = mend dialect edited := by
  rw [finish, here]
  rfl

theorem finishAll_of_mend {strings edited : List String} {finished : String → String}
    (edits : Edits dialect visitors strings edited)
    (mends : ∀ sql ∈ edited, mend dialect sql = .ok (finished sql)) :
    finishAll dialect visitors strings = .ok (edited.map finished) := by
  induction edits with
  | nil => rfl
  | cons here behind ih =>
    rw [List.forall_mem_cons] at mends
    rw [finishAll, finish_of_edited here, mends.1, ih mends.2]
    rfl

theorem finishAll_of_refused {strings edited : List String} {fault : Fault}
    (edits : Edits dialect visitors strings edited) (some : edited ≠ [])
    (refused : ∀ sql, mend dialect sql = .error fault) :
    finishAll dialect visitors strings = .error fault := by
  cases edits with
  | nil => exact absurd rfl some
  | cons here behind =>
    rw [finishAll, finish_of_edited here, refused]
    rfl

/-- What a template that was read makes of the edited strings, and when that is as it should be. -/
theorem exists_mend
    (readable : dialect.mendsSeparator = true →
      ∃ pieces, readTemplate 0 [] (mendedSeparator dialect) = .ok pieces) :
    ∃ finished : String → String, ∀ sql, mend dialect sql = .ok (finished sql) ∧
      (PutBack dialect sql (finished sql) ↔
        (dialect.mendsSeparator = true → isLiteral (mendedSeparator dialect).toList = true ∨
          ¬ Doubled (mendedSeparator dialect).toList sql.toList)) := by
  cases mends : dialect.mendsSeparator with
  | false =>
    refine ⟨id, fun sql => ⟨?_, ?_⟩⟩
    · rw [mend, mends]
      rfl
    · rw [PutBack, mends]
      exact iff_of_true rfl fun impossible => by cases impossible
  | true =>
    obtain ⟨pieces, read⟩ := readable mends
    refine ⟨Separator.putBack (mendedSeparator dialect) pieces, fun sql => ⟨?_, ?_⟩⟩
    · rw [mend, if_pos mends, mendDoubled_of_ok read]
    · rw [PutBack, if_pos mends, mended_putBack_iff (mendedSeparator_ne_nil dialect) read,
        forall_prop_of_true rfl]

/-- **Edited strings are all refused, or all of them are finished.** -/
theorem finishAll_refuses_or_finishes {strings edited : List String}
    (edits : Edits dialect visitors strings edited) :
    (∃ refusal, dialect.mendsSeparator = true ∧ edited ≠ [] ∧
      readTemplate 0 [] (mendedSeparator dialect) = .error refusal ∧
      finishAll dialect visitors strings = .error (.pattern refusal)) ∨
    (dialect.mendsSeparator = true → edited ≠ [] →
      ∃ pieces, readTemplate 0 [] (mendedSeparator dialect) = .ok pieces) ∧
    ∃ rendered, finishAll dialect visitors strings = .ok rendered ∧
      (List.Forall₂ (PutBack dialect) edited rendered ↔
        (dialect.mendsSeparator = true → isLiteral (mendedSeparator dialect).toList = true ∨
          ∀ sql ∈ edited, ¬ Doubled (mendedSeparator dialect).toList sql.toList)) := by
  by_cases nothing : edited = []
  · subst nothing
    cases edits
    exact .inr ⟨fun _ some => absurd rfl some, [], rfl,
      iff_of_true .nil fun _ => .inr (List.forall_mem_nil _)⟩
  by_cases readable : dialect.mendsSeparator = true →
      ∃ pieces, readTemplate 0 [] (mendedSeparator dialect) = .ok pieces
  · obtain ⟨finished, works⟩ := exists_mend readable
    refine .inr ⟨fun mends _ => readable mends, _,
      finishAll_of_mend edits fun sql _ => (works sql).1, ?_⟩
    rw [List.forall₂_map_right_iff, List.forall₂_same]
    simp only [← forall_or_left, (works _).2]
    exact ⟨fun each mends sql mem => each sql mem mends, fun all sql mem mends => all mends sql mem⟩
  · obtain ⟨mends, unread⟩ := Classical.not_imp.mp readable
    cases read : readTemplate 0 [] (mendedSeparator dialect) with
    | ok pieces => exact absurd ⟨pieces, read⟩ unread
    | error refusal =>
      refine .inl ⟨refusal, mends, nothing, rfl, finishAll_of_refused edits nothing fun sql => ?_⟩
      rw [mend, if_pos mends, mendDoubled_of_error read]

/-- **When a separator is put back as it is written.** A statement whose changes resolve and whose
    commands are text, prepared text and calls has strings, and if no visitor fails on them they are
    edited one by one. Then rendering fails exactly if the dialect mends, there is a string, and the
    separator is refused as a template; and that refusal is the failure. If it does not fail, every
    rendered string is the edited one with the separator itself put back for two of them exactly if
    the dialect does not mend, or the separator stands for itself, or no edited string is closed by
    two separators. So with a separator that stands for itself rendering never fails, and what is
    put back is always the separator. -/
theorem render_putsBack (dialect : Dialect) (visitors : List Visitor) (s : Statement)
    (quiet : ∀ place, s.faultAt? dialect.name place = none)
    (own : ∀ place kind, s.commandAt? dialect.name place ≠ some (.foreign kind)) :
    let separator := mendedSeparator dialect
    ∃ strings, generate dialect s = .ok strings ∧
      ∀ edited, Edits dialect visitors strings edited →
        (∀ fault, render dialect visitors s = .error fault ↔
          dialect.mendsSeparator = true ∧ edited ≠ [] ∧
            ∃ refusal, readTemplate 0 [] separator = .error refusal ∧ fault = .pattern refusal) ∧
        (∀ rendered, render dialect visitors s = .ok rendered →
          (List.Forall₂ (PutBack dialect) edited rendered ↔
            (dialect.mendsSeparator = true → isLiteral separator.toList = true ∨
              ∀ sql ∈ edited, ¬ Doubled separator.toList sql.toList))) ∧
        (isLiteral separator.toList = true →
          ∃ rendered, render dialect visitors s = .ok rendered ∧
            List.Forall₂ (PutBack dialect) edited rendered) := by
  intro separator
  obtain ⟨strings, generated⟩ := exists_generate quiet own
  refine ⟨strings, generated, fun edited edits => ?_⟩
  have opened : render dialect visitors s = finishAll dialect visitors strings := by
    rw [render, generated]
    rfl
  rw [opened]
  rcases finishAll_refuses_or_finishes edits with
    ⟨refusal, mends, some, refused, fails⟩ | ⟨readable, rendered, done, verbatim⟩
  · rw [fails, refused]
    refine ⟨fun fault => ⟨?_, ?_⟩, (fun rendered done => by cases done), ?_⟩
    · intro same
      exact ⟨mends, some, refusal, rfl, (Except.error.inj same).symm⟩
    · rintro ⟨-, -, _, same, rfl⟩
      cases same
      rfl
    · intro literal
      obtain ⟨pieces, read, -⟩ := exists_readTemplate literal
      cases refused.symm.trans read
  · rw [done]
    refine ⟨fun fault => ⟨(fun fails => by cases fails), ?_⟩, ?_, ?_⟩
    · rintro ⟨mends, some, refusal, refused, -⟩
      obtain ⟨pieces, read⟩ := readable mends some
      cases refused.symm.trans read
    · intro _ same
      cases same
      exact verbatim
    · intro literal
      exact ⟨rendered, rfl, verbatim.mpr fun _ => .inl literal⟩

/-- A separator with a backslash that stands for itself. The visitor makes two of it in one of the
    strings and leaves one in the other. -/
theorem render_putsBack_slash :
    let dialect : Dialect :=
      { name := "custom", batchSeparator := some "\\/", mendsSeparator := true }
    let statement := Statement.change (.fixed
      [.command (.raw "SELECT 1;\\/" ";" false), .command (.prepared "SELECT ?" [.int 7])])
    let edited := ["SELECT 1;\\/\n \\/ \n", "SELECT ?\n \\/ \n"]
    let rendered := ["SELECT 1;\\/", "SELECT ?\n \\/ \n"]
    (∀ place, statement.faultAt? dialect.name place = none) ∧
      (∀ place kind, statement.commandAt? dialect.name place ≠ some (.foreign kind)) ∧
      render dialect [.edit (.append "\n \\/ \n") []] statement = .ok rendered ∧
      List.Forall₂ (PutBack dialect) edited rendered := by
  intro dialect statement edited rendered
  let visitors : List Visitor := [.edit (.append "\n \\/ \n") []]
  let commands : List Command :=
    [.raw "SELECT 1;\\/" ";" false, .prepared "SELECT ?" [.int 7]]
  obtain ⟨quiet, listed⟩ := Statement.expand_ok_iff.mp
    (show statement.expand dialect.name = .ok commands from rfl)
  have own (place : Place) (kind : String) :
      statement.commandAt? dialect.name place ≠ some (.foreign kind) := by
    intro found
    have among : Command.foreign kind ∈ commands := listed.mem_iff.mpr ⟨place, found⟩
    simp [commands] at among
  obtain ⟨strings, generated, all⟩ := render_putsBack dialect visitors statement quiet own
  obtain rfl : strings = ["SELECT 1;\\/", "SELECT ?"] :=
    Except.ok.inj (generated.symm.trans (by rfl))
  obtain ⟨others, done, verbatim⟩ :=
    (all edited (.cons (by rfl) (.cons (by rfl) .nil))).2.2 (by decide +kernel)
  obtain rfl : others = rendered :=
    Except.ok.inj (done.symm.trans (by subst dialect visitors statement rendered; rfl))
  exact ⟨quiet, own, done, verbatim⟩

/-- A separator that cannot be read as a template, and one that is put back as a line end. -/
theorem render_refuses_separator :
    let custom (separator : String) : Dialect :=
      { name := "custom", batchSeparator := some separator, mendsSeparator := true }
    let statement (sql : String) : Statement := .command (.raw sql ";" false)
    render (custom "\\") [] (statement "SELECT 1") =
        .error (.pattern (.flawed .danglingBackslash "\\" (some 0))) ∧
      render (custom "\\n") [] (statement "SELECT 1;\\n\\n") = .ok ["SELECT 1;\n"] :=
  ⟨by rfl, by rfl⟩

end Rendering

end SqlRunner
