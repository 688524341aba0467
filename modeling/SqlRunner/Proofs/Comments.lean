import Mathlib.Data.List.Flatten
import SqlRunner.Proofs.Lines
import SqlRunner.Proofs.PreviewRuns

/-!
# Comments — the lines of a preview that are not run

A preview puts remarks between its blocks: a comment is written behind two dashes and ended like a
line. What is written so is whole lines. A page that starts a new line starts one again after every
operation, so its lines are those of its operations, one operation after another
(`Preview.endedLines_performAll`), and those of a comment can be told from those of a block.

The dashes stand on the first line only. The message of a comment may have more lines, and they are
written as they are. Of a history with comments the same lines are run as of the history without
them exactly if no message has a further line that is more than a remark itself
(`Preview.performAll_comments`); one that has is run as SQL (`Preview.comment_runs_line`).
-/

set_option autoImplicit false

namespace SqlRunner

namespace Text

/-- The lines of a text that have an end. -/
def endedLines (text : List Char) : List (List Char) := (text.splitOn '\n').dropLast

/-- A text behind which a new line starts. -/
def Started (text : List Char) : Prop := ∀ c ∈ text.getLast?, c = '\n'

theorem Started.append {s t : List Char} (hs : Started s) (ht : Started t) : Started (s ++ t) := by
  intro c last
  rw [List.getLast?_append, Option.mem_def, Option.or_eq_some_iff] at last
  rcases last with here | ⟨-, before⟩
  · exact ht c here
  · exact hs c before

theorem started_newline (s : List Char) : Started (s ++ ['\n']) := by
  intro c last
  rw [List.getLast?_concat] at last
  exact (Option.some.inj last).symm

theorem endedLines_nil : endedLines [] = [] := rfl

theorem endedLines_cons {line : List Char} (inLine : '\n' ∉ line) (rest : List Char) :
    endedLines (line ++ '\n' :: rest) = line :: endedLines rest := by
  rw [endedLines, List.splitOn_append_cons_self_of_not_mem inLine,
    List.dropLast_cons_of_ne_nil (List.splitOn_ne_nil _ _), endedLines]

/-- **Lines add up** where a new line starts. -/
theorem endedLines_append {s : List Char} (started : Started s) (t : List Char) :
    endedLines (s ++ t) = endedLines s ++ endedLines t := by
  induction s using Split.byLines with
  | last line inLine =>
    cases h : line.getLast? with
    | none =>
      rw [List.getLast?_eq_none_iff.mp h, endedLines_nil, List.nil_append, List.nil_append]
    | some c => exact absurd (started c h ▸ List.mem_of_getLast? h) inLine
  | more line rest inLine ih =>
    have later : Started rest := by
      intro c last
      refine started c ?_
      rw [List.getLast?_append, List.getLast?_cons, Option.mem_def.mp last]
      rfl
    rw [List.append_assoc, List.cons_append, endedLines_cons inLine, endedLines_cons inLine,
      ih later, List.cons_append]

/-- A text that is ended has all of its lines. -/
theorem endedLines_newline (s : List Char) : endedLines (s ++ ['\n']) = s.splitOn '\n' := by
  induction s using Split.byLines with
  | last line inLine =>
    rw [endedLines_cons inLine, List.splitOn_eq_singleton inLine, endedLines_nil]
  | more line rest inLine ih =>
    rw [List.append_assoc, List.cons_append, endedLines_cons inLine, ih,
      List.splitOn_append_cons_self_of_not_mem inLine]

/-- What is put before a text is on its first line, if it has no line end. -/
theorem splitOn_append_of_not_mem {s : List Char} (inLine : '\n' ∉ s) (text : List Char) :
    (s ++ text).splitOn '\n' = (text.splitOn '\n').modifyHead (s ++ ·) := by
  obtain ⟨line, tail, rfl, inFirst, rfl | ⟨rest, rfl⟩⟩ := Split.exists_line text
  · rw [List.append_nil, List.splitOn_eq_singleton inFirst,
      List.splitOn_eq_singleton (by simp [inLine, inFirst]), List.modifyHead_cons]
  · rw [← List.append_assoc, List.splitOn_append_cons_self_of_not_mem inFirst,
      List.splitOn_append_cons_self_of_not_mem (by simp [inLine, inFirst]), List.modifyHead_cons]

end Text

open Text

/-- A line that is not run: an empty one, or one that starts with two dashes. -/
def isRemark (line : List Char) : Bool := line.isEmpty || "--".toList.isPrefixOf line

/-- The lines of a text that are run. -/
def codeLines (text : List Char) : List (List Char) :=
  (endedLines text).filter fun line => !isRemark line

/-- Whether an operation is a comment. -/
def Operation.isComment : Operation → Bool
  | .comment _ => true
  | _ => false

namespace Preview

variable (p : Preview)

/-! ## Whole lines -/

theorem started_block (dialect : Dialect) (sql : String) : Started (block dialect sql).toList := by
  obtain ⟨before, split⟩ : ∃ before, closing dialect = before ++ ['\n'] := by
    rw [closing]
    split
    case h_1 separator _ => exact ⟨'\n' :: separator.toList ++ ['\n'], by simp⟩
    case h_2 => exact ⟨['\n'], rfl⟩
  rw [block, String.toList_ofList, split, ← List.append_assoc]
  exact started_newline _

/-- The blocks of a statement are whole lines, whichever of its strings are chosen. -/
theorem started_of_mem_blocks {statement : Statement} {visitors : List Visitor}
    (chosen : List String → List String) {passage : Passage}
    (mem : passage ∈ (((Rendering.render p.dialect visitors statement).map fun strings =>
      (chosen strings).map (Preview.passage p.dialect)).mapError Failure.fault).toOption.getD []) :
    Started passage.text.toList := by
  cases h : Rendering.render p.dialect visitors statement with
  | error fault =>
    rw [h] at mem
    cases mem
  | ok strings =>
    rw [h] at mem
    obtain ⟨sql, -, rfl⟩ := List.mem_map.mp mem
    exact started_block p.dialect sql

/-- Every operation writes whole lines. -/
theorem started_of_mem_written {operation : Operation} {passage : Passage}
    (mem : passage ∈ p.written operation) : Started passage.text.toList := by
  cases operation with
  | query statement visitors => cases mem
  | update statement visitors => cases mem
  | execute statement visitors => exact p.started_of_mem_blocks id mem
  | executeChange statement visitors => exact p.started_of_mem_blocks id mem
  | call statement conduct visitors => exact p.started_of_mem_blocks (List.take 1) mem
  | comment message =>
    rw [List.mem_singleton.mp mem]
    show Started ("-- " ++ message ++ "\n").toList
    rw [String.toList_append]
    exact started_newline _

/-- The lines that an operation writes. -/
def linesOf (operation : Operation) : List (List Char) :=
  (p.written operation).flatMap fun passage => endedLines passage.text.toList

/-- A page grows by the lines of its passages. -/
theorem endedLines_continued {page : Page} (started : Started page.text.toList)
    {passages : List Passage} (whole : ∀ passage ∈ passages, Started passage.text.toList) :
    endedLines (page.continued passages).text.toList =
      endedLines page.text.toList ++
        passages.flatMap fun passage => endedLines passage.text.toList := by
  induction passages generalizing page with
  | nil => rw [Page.continued_nil, List.flatMap_nil, List.append_nil]
  | cons passage rest ih =>
    rw [List.forall_mem_cons] at whole
    have first : (page.continued [passage]).text.toList =
        page.text.toList ++ passage.text.toList := by
      rw [Page.continued, List.map_singleton, String.join_cons, String.join_nil,
        String.append_empty, String.toList_append]
    have after : Started (page.continued [passage]).text.toList := by
      rw [first]
      exact started.append whole.1
    have split : page.continued (passage :: rest) = (page.continued [passage]).continued rest :=
      page.continued_append [passage] rest
    rw [split, ih after whole.2, first, endedLines_append started, List.flatMap_cons,
      List.append_assoc]

/-- **The lines of a history are those of its operations.** -/
theorem endedLines_performAll {page : Page} (started : Started page.text.toList)
    (operations : List Operation) :
    endedLines (p.performAll page operations).2.text.toList =
      endedLines page.text.toList ++ operations.flatMap p.linesOf := by
  have whole : ∀ passage ∈ operations.flatMap p.written, Started passage.text.toList := by
    intro passage mem
    obtain ⟨operation, -, here⟩ := List.mem_flatMap.mp mem
    exact p.started_of_mem_written here
  rw [performAll_continued, endedLines_continued started whole, List.flatMap_assoc]
  rfl

/-! ## The lines of a comment -/

/-- A comment is its message with two dashes before the first line. -/
theorem linesOf_comment (message : String) :
    p.linesOf (.comment message) =
      (message.toList.splitOn '\n').modifyHead ("-- ".toList ++ ·) := by
  have text : ("-- " ++ message ++ "\n").toList =
      "-- ".toList ++ message.toList ++ ['\n'] := by
    rw [String.toList_append, String.toList_append]
    rfl
  show List.flatMap _ [(⟨"-- " ++ message ++ "\n", []⟩ : Passage)] = _
  rw [List.flatMap_singleton, text, endedLines_newline,
    splitOn_append_of_not_mem (by decide)]

/-- The first line of a comment is a remark. The others are what they are in the message. -/
theorem filter_linesOf_comment (message : String) :
    (p.linesOf (.comment message)).filter (fun line => !isRemark line) =
      (message.toList.splitOn '\n').tail.filter fun line => !isRemark line := by
  rw [linesOf_comment]
  cases message.toList.splitOn '\n' with
  | nil => rfl
  | cons first rest =>
    have dashes : ¬ (!isRemark ("-- ".toList ++ first)) = true := Bool.false_ne_true
    rw [List.modifyHead_cons, List.filter_cons, if_neg dashes, List.tail_cons]

/-! ## Histories with comments and without -/

/-- Parts of a text may be left out exactly if there is nothing in them. -/
theorem flatMap_filter_eq_iff {α β : Type} {f : α → List β} {keep : α → Bool} {l : List α} :
    l.flatMap f = (l.filter keep).flatMap f ↔ ∀ a ∈ l, keep a = false → f a = [] := by
  induction l with
  | nil => simp
  | cons a rest ih =>
    rw [List.forall_mem_cons, List.flatMap_cons]
    cases h : keep a with
    | true =>
      rw [List.filter_cons_of_pos h, List.flatMap_cons, List.append_right_inj, ih,
        and_iff_right fun left => by cases left]
    | false =>
      rw [List.filter_cons_of_neg (by simp [h])]
      constructor
      · intro same
        -- what is kept of the rest is not longer than the rest, so nothing stood before it
        have shorter := ((List.filter_sublist (p := keep) (l := rest)).flatMap f).length_le
        have lengths := congrArg List.length same
        rw [List.length_append] at lengths
        have none : f a = [] := List.eq_nil_of_length_eq_zero (by omega)
        rw [none, List.nil_append] at same
        exact ⟨fun _ => none, ih.mp same⟩
      · rintro ⟨none, others⟩
        rw [none rfl, List.nil_append, ih.mpr others]

/-- What is run of a history. -/
theorem codeLines_performAll {page : Page} (started : Started page.text.toList)
    (operations : List Operation) :
    codeLines (p.performAll page operations).2.text.toList =
      codeLines page.text.toList ++
        operations.flatMap fun operation => (p.linesOf operation).filter fun line =>
          !isRemark line := by
  rw [codeLines, p.endedLines_performAll started, List.filter_append, List.filter_flatMap]
  rfl

/-- **What comments add to a script.** On a page where a new line starts, the lines of a history are
    those of its operations, so without the lines of the comments the blocks are left. A comment
    adds the lines of its message with two dashes before the first: they are remarks exactly if the
    further lines are. With comments in a history the same lines are run as without them exactly if
    that is so of every message. -/
theorem performAll_comments (p : Preview) (page : Page) (started : Started page.text.toList)
    (operations : List Operation) :
    let script (operations : List Operation) := (p.performAll page operations).2.text.toList
    let further (message : String) := (message.toList.splitOn '\n').tail
    endedLines (script operations) =
        endedLines page.text.toList ++ operations.flatMap p.linesOf ∧
      (∀ message, p.linesOf (.comment message) =
        (message.toList.splitOn '\n').modifyHead ("-- ".toList ++ ·)) ∧
      (∀ message, (∀ line ∈ p.linesOf (.comment message), isRemark line = true) ↔
        ∀ line ∈ further message, isRemark line = true) ∧
      (codeLines (script operations) =
          codeLines (script (operations.filter fun operation => !operation.isComment)) ↔
        ∀ message, .comment message ∈ operations →
          ∀ line ∈ further message, isRemark line = true) := by
  intro script further
  have remarks (lines : List (List Char)) :
      (lines.filter fun line => !isRemark line) = [] ↔ ∀ line ∈ lines, isRemark line = true := by
    simp [List.filter_eq_nil_iff]
  refine ⟨p.endedLines_performAll started operations, p.linesOf_comment, fun message => ?_, ?_⟩
  · rw [← remarks, filter_linesOf_comment, remarks]
  rw [p.codeLines_performAll started, p.codeLines_performAll started, List.append_right_inj,
    flatMap_filter_eq_iff]
  constructor
  · intro nothing message mem
    have none := nothing _ mem rfl
    rwa [filter_linesOf_comment, remarks] at none
  · intro quiet operation mem comment
    cases operation with
    | comment message => rw [filter_linesOf_comment, remarks]; exact quiet message mem
    | _ => cases comment

/-- A message of one line between two blocks, on a page that is not empty. -/
theorem performAll_comments_between :
    let page : Page := { text := "-- before\n" }
    let statement (sql : String) : Operation := .execute (.command (.raw sql ";" false)) []
    let p : Preview := ⟨.sqlite, "offline:sqlite"⟩
    Started page.text.toList ∧
      codeLines (p.performAll page
          [statement "DROP TABLE t", .comment "or\n-- not", statement "SELECT 1"]).2.text.toList =
        codeLines (p.performAll page
          [statement "DROP TABLE t", statement "SELECT 1"]).2.text.toList := by
  have started : Started "-- before\n".toList := started_newline "-- before".toList
  refine ⟨started, ?_⟩
  refine (performAll_comments ⟨.sqlite, "offline:sqlite"⟩ { text := "-- before\n" } started
    _).2.2.2.mpr fun message mem => ?_
  obtain rfl : message = "or\n-- not" := by simpa using mem
  decide +kernel

/-- A second line of a message is run. -/
theorem comment_runs_line :
    let written := (((⟨.sqlite, "offline:sqlite"⟩ : Preview).perform
      (.comment "42\nDROP TABLE t;")).run {}).2.text
    written = "-- 42\nDROP TABLE t;\n" ∧ codeLines written.toList = ["DROP TABLE t;".toList] ∧
      ¬ ∀ line ∈ endedLines written.toList, isRemark line = true := by
  decide +kernel

end Preview

end SqlRunner
