import SqlRunner.Proofs.Lines

/-!
# Splitting — a script is cut where its lines say

Splitting goes through a script character by character and looks far ahead: the blanks before a
delimiter are taken from the start of a blank line on, those behind it up to the last line end that
they reach (`cutLength`). So a cut and the end of a line are not the same thing, and the fragments
that splitting finds are not those that lines have. They differ in blanks, and only at their ends.
That is what `Alike` says of two rows of fragments, and it survives a cut: both sides go on with the
same text, up to blanks at its start.

The comparison (`fragmentsFrom_alike`) is an induction over the text from one start of a line to the
next. A cut at the start of a line ends the fragment with nothing but blanks in it; a line that is
not ended is walked over; a line that is ended has one place where its cut can start.
-/

set_option autoImplicit false

namespace SqlRunner.Split

open Text

variable {delimiter : List Char}

/-! ## Where a line ends -/

/-- What lies within a line stops where the line does. -/
theorem prefix_of_inLine {inner tail outer left : List Char} (h : '\n' ∉ inner)
    (ended : AtLineEnd left) (split : inner ++ tail = outer ++ left) :
    ∃ more, outer = inner ++ more ∧ tail = more ++ left := by
  rcases List.append_eq_append_iff.mp split with ⟨more, rfl, rest⟩ | ⟨more, rfl, rest⟩
  · exact ⟨more, rfl, rest⟩
  · -- the line would reach beyond `left`, and so hold the line end that `left` starts with
    cases more with
    | nil => exact ⟨[], by simp, by simpa using rest.symm⟩
    | cons c more =>
      rcases ended with rfl | ⟨after, rfl⟩
      · cases rest
      · cases rest
        exact absurd (List.mem_append_right outer List.mem_cons_self) h

theorem lengthToLastLineEnd?_eq_none_iff (s : List Char) :
    lengthToLastLineEnd? s = none ↔ '\n' ∉ s := by
  induction s with
  | nil => simp [lengthToLastLineEnd?]
  | cons c rest ih =>
    rw [lengthToLastLineEnd?]
    cases found : lengthToLastLineEnd? rest with
    | some n =>
      have mem : '\n' ∈ rest := by
        by_contra none
        rw [ih.mpr none] at found
        cases found
      simp [mem]
    | none =>
      by_cases here : c = '\n'
      · simp [here]
      · simp [here, Ne.symm here, ih.mp found]

theorem of_lengthToLastLineEnd? {s : List Char} {n : Nat} (h : lengthToLastLineEnd? s = some n) :
    ∃ before after, s = before ++ '\n' :: after ∧ before.length = n := by
  induction s generalizing n with
  | nil => cases h
  | cons c rest ih =>
    rw [lengthToLastLineEnd?] at h
    cases found : lengthToLastLineEnd? rest with
    | some m =>
      rw [found] at h
      cases h
      obtain ⟨before, after, rfl, rfl⟩ := ih found
      exact ⟨c :: before, after, rfl, rfl⟩
    | none =>
      simp only [found] at h
      split at h
      case isTrue here =>
        cases h
        exact ⟨[], rest, by rw [eq_of_beq here]; rfl, rfl⟩
      case isFalse => cases h

/-- The blanks that close a line reach up to the end of a line. -/
theorem of_closingBlanks {s : List Char} {n : Nat} (h : closingBlanks s = some n) :
    ∃ skipped left, s = skipped ++ left ∧ isAllBlank skipped = true ∧ AtLineEnd left ∧
      skipped.length = n := by
  have run : isAllBlank (leadingBlanks s) = true :=
    List.all_eq_true.mpr fun c mem => List.mem_takeWhile_imp mem
  have parts : leadingBlanks s ++ dropBlanks s = s := List.takeWhile_append_dropWhile
  rw [closingBlanks] at h
  split at h
  case isTrue none =>
    cases h
    refine ⟨leadingBlanks s, [], ?_, run, .inl rfl, rfl⟩
    rw [← List.isEmpty_iff.mp none, parts]
  case isFalse =>
    obtain ⟨before, after, split, rfl⟩ := of_lengthToLastLineEnd? h
    rw [split, isAllBlank_append, Bool.and_eq_true] at run
    refine ⟨before, '\n' :: (after ++ dropBlanks s), ?_, run.1, .inr ⟨_, rfl⟩, rfl⟩
    calc s = before ++ '\n' :: after ++ dropBlanks s := by rw [← split, parts]
      _ = before ++ '\n' :: (after ++ dropBlanks s) := by simp

/-- Where nothing but blanks stands before the end of a line, they close it. -/
theorem exists_closingBlanks {blanks tail : List Char} (hb : isAllBlank blanks = true)
    (ended : AtLineEnd tail) : ∃ n, closingBlanks (blanks ++ tail) = some n := by
  rw [closingBlanks]
  split
  case isTrue => exact ⟨_, rfl⟩
  case isFalse more =>
    rw [← Option.ne_none_iff_exists', ne_eq, lengthToLastLineEnd?_eq_none_iff, not_not]
    rcases ended with rfl | ⟨rest, rfl⟩
    · refine absurd ?_ more
      rw [dropBlanks_append hb]
      rfl
    · rw [leadingBlanks, List.takeWhile_append_of_pos (List.all_eq_true.mp hb),
        List.takeWhile_cons_of_pos (by decide)]
      simp

/-! ## Cuts -/

/-- A cut at the start of a text: blanks, what agrees with the delimiter, and the blanks that close
    the line behind it. -/
structure Cut (delimiter text : List Char) where
  opening : List Char
  found : List Char
  skipped : List Char
  left : List Char
  split : text = opening ++ (found ++ (skipped ++ left))
  opening_blank : isAllBlank opening = true
  same : sameText delimiter found = true
  skipped_blank : isAllBlank skipped = true
  ended : AtLineEnd left

namespace Cut

variable {text : List Char}

/-- The characters that a cut takes. -/
def taken (cut : Cut delimiter text) : List Char :=
  cut.opening ++ (cut.found ++ cut.skipped)

theorem taken_append (cut : Cut delimiter text) : cut.taken ++ cut.left = text := by
  rw [taken, List.append_assoc, List.append_assoc]
  exact cut.split.symm

theorem taken_ne_nil (h : Delimits delimiter) (cut : Cut delimiter text) : cut.taken ≠ [] := by
  rw [taken, ne_eq, List.append_eq_nil_iff, List.append_eq_nil_iff]
  exact fun none => (h.of_sameText cut.same).ne_nil none.2.1

theorem length_left (h : Delimits delimiter) (cut : Cut delimiter text) :
    cut.left.length < text.length := by
  have length := congrArg List.length cut.taken_append
  have nonempty := List.length_pos_iff.mpr (cut.taken_ne_nil h)
  rw [List.length_append] at length
  omega

/-- A cut that starts within a line finds its delimiter there, as the last thing on the line. -/
theorem inLine (h : Delimits delimiter) {rest tail : List Char} (cut : Cut delimiter (rest ++ tail))
    (here : cut.opening = []) (hr : '\n' ∉ rest) (ended : AtLineEnd tail) :
    ∃ blanks, rest = cut.found ++ blanks ∧ isAllBlank blanks = true := by
  have split := cut.split
  rw [here, List.nil_append] at split
  obtain ⟨blanks, within, behind⟩ :=
    prefix_of_inLine (h.of_sameText cut.same).inLine ended split.symm
  rw [within, List.mem_append, not_or] at hr
  obtain ⟨further, skipped, -⟩ := prefix_of_inLine hr.2 cut.ended behind.symm
  have blank := cut.skipped_blank
  rw [skipped, isAllBlank_append, Bool.and_eq_true] at blank
  exact ⟨blanks, within, blank.1⟩

end Cut

theorem of_closingDelimiter {s : List Char} {n : Nat} (h : closingDelimiter delimiter s = some n) :
    ∃ cut : Cut delimiter s, cut.taken.length = n ∧ cut.opening = [] := by
  rw [closingDelimiter] at h
  split at h
  case isFalse => cases h
  case isTrue starts =>
    obtain ⟨found, rest, rfl, same⟩ := startsCaseless_iff.mp starts
    rw [length_eq_of_sameText same, List.drop_left] at h
    obtain ⟨m, closing, rfl⟩ := Option.map_eq_some_iff.mp h
    obtain ⟨skipped, left, rfl, blank, ended, rfl⟩ := of_closingBlanks closing
    exact ⟨⟨[], found, skipped, left, rfl, rfl, same, blank, ended⟩, by simp [Cut.taken], rfl⟩

theorem exists_closingDelimiter {found skipped left : List Char}
    (same : sameText delimiter found = true) (blank : isAllBlank skipped = true)
    (ended : AtLineEnd left) :
    ∃ n, closingDelimiter delimiter (found ++ (skipped ++ left)) = some n := by
  obtain ⟨n, closing⟩ := exists_closingBlanks blank ended
  refine ⟨delimiter.length + n, ?_⟩
  rw [closingDelimiter, if_pos (startsCaseless_iff.mpr ⟨found, _, rfl, same⟩),
    length_eq_of_sameText same, List.drop_left, closing]
  rfl

theorem of_indentedDelimiter {s : List Char} {n : Nat}
    (h : indentedDelimiter delimiter s = some n) :
    ∃ cut : Cut delimiter s, cut.taken.length = n := by
  induction s generalizing n with
  | nil =>
    obtain ⟨cut, length, -⟩ := of_closingDelimiter h
    exact ⟨cut, length⟩
  | cons c rest ih =>
    have here (closing : closingDelimiter delimiter (c :: rest) = some n) :
        ∃ cut : Cut delimiter (c :: rest), cut.taken.length = n := by
      obtain ⟨cut, length, -⟩ := of_closingDelimiter closing
      exact ⟨cut, length⟩
    rw [indentedDelimiter] at h
    split at h
    case isFalse => exact here h
    case isTrue blank =>
      cases later : indentedDelimiter delimiter rest with
      | none =>
        rw [later] at h
        exact here h
      | some m =>
        rw [later] at h
        cases h
        obtain ⟨cut, rfl⟩ := ih later
        exact ⟨{ cut with
          opening := c :: cut.opening
          split := congrArg (c :: ·) cut.split
          opening_blank := by rw [isAllBlank_cons, blank, cut.opening_blank]; rfl }, rfl⟩

theorem exists_indentedDelimiter {opening found skipped left : List Char}
    (ho : isAllBlank opening = true) (same : sameText delimiter found = true)
    (blank : isAllBlank skipped = true) (ended : AtLineEnd left) :
    ∃ n, indentedDelimiter delimiter (opening ++ (found ++ (skipped ++ left))) = some n := by
  induction opening with
  | nil =>
    obtain ⟨n, closing⟩ := exists_closingDelimiter same blank ended
    rw [List.nil_append]
    cases text : found ++ (skipped ++ left) with
    | nil =>
      rw [text] at closing
      exact ⟨n, closing⟩
    | cons c rest =>
      rw [text] at closing
      rw [indentedDelimiter, closing]
      split
      case isTrue => cases indentedDelimiter delimiter rest <;> exact ⟨_, rfl⟩
      case isFalse => exact ⟨n, rfl⟩
  | cons c opening ih =>
    rw [isAllBlank_cons, Bool.and_eq_true] at ho
    obtain ⟨n, later⟩ := ih ho.2
    refine ⟨n + 1, ?_⟩
    rw [List.cons_append, indentedDelimiter, if_pos ho.1, later]
    rfl

/-- Within a line a cut starts with the delimiter itself, and a word is never cut at. -/
theorem cutLength_false (s : List Char) :
    cutLength delimiter false s =
      if isWord delimiter then none else closingDelimiter delimiter s := by
  rw [cutLength]
  split
  case isTrue => rfl
  case isFalse => cases closingDelimiter delimiter s <;> rfl

/-- At the start of a line there may be blanks before it. -/
theorem cutLength_true (s : List Char) :
    cutLength delimiter true s =
      if isWord delimiter then indentedDelimiter delimiter s
      else (closingDelimiter delimiter s).or (indentedDelimiter delimiter s) := by
  rw [cutLength]
  split
  case isTrue => rfl
  case isFalse => cases closingDelimiter delimiter s <;> rfl

/-- **What is taken for a cut is one**, and within a line it has no blanks before the delimiter. -/
theorem of_cutLength {lineStart : Bool} {s : List Char} {n : Nat}
    (h : cutLength delimiter lineStart s = some n) :
    ∃ cut : Cut delimiter s, cut.taken.length = n ∧
      (lineStart = false → isWord delimiter = false ∧ cut.opening = []) := by
  cases lineStart with
  | false =>
    rw [cutLength_false] at h
    split at h
    case isTrue => cases h
    case isFalse sign =>
      obtain ⟨cut, length, here⟩ := of_closingDelimiter h
      exact ⟨cut, length, fun _ => ⟨Bool.eq_false_iff.mpr sign, here⟩⟩
  | true =>
    have start : ∃ cut : Cut delimiter s, cut.taken.length = n := by
      rw [cutLength_true] at h
      split at h
      case isTrue => exact of_indentedDelimiter h
      case isFalse =>
        rcases Option.or_eq_some_iff.mp h with closing | ⟨-, indented⟩
        · obtain ⟨cut, length, -⟩ := of_closingDelimiter closing
          exact ⟨cut, length⟩
        · exact of_indentedDelimiter indented
    obtain ⟨cut, length⟩ := start
    exact ⟨cut, length, fun none => by cases none⟩

theorem exists_cutLength_true {text : List Char} (cut : Cut delimiter text) :
    ∃ n, cutLength delimiter true text = some n := by
  obtain ⟨n, indented⟩ :=
    exists_indentedDelimiter cut.opening_blank cut.same cut.skipped_blank cut.ended
  rw [cutLength_true, cut.split, indented]
  split
  case isTrue => exact ⟨n, rfl⟩
  case isFalse => exact Option.isSome_iff_exists.mp (by simp)

theorem exists_cutLength_false (sign : isWord delimiter = false) {found skipped left : List Char}
    (same : sameText delimiter found = true) (blank : isAllBlank skipped = true)
    (ended : AtLineEnd left) :
    ∃ n, cutLength delimiter false (found ++ (skipped ++ left)) = some n := by
  rw [cutLength_false, if_neg (Bool.eq_false_iff.mp sign)]
  exact exists_closingDelimiter same blank ended

/-- Where a line can be cut at its start, it can be cut within, if the delimiter starts it. -/
theorem cutLength_false_of_true {s : List Char} (h : cutLength delimiter true s = none) :
    cutLength delimiter false s = none := by
  rw [cutLength_true] at h
  rw [cutLength_false]
  split
  case isTrue => rfl
  case isFalse sign =>
    rw [if_neg sign] at h
    exact (Option.or_eq_none_iff.mp h).1

/-! ## Fragments, character by character -/

theorem cutLength_nil (h : Delimits delimiter) (lineStart : Bool) :
    cutLength delimiter lineStart [] = none := by
  rw [Option.eq_none_iff_forall_ne_some]
  intro n some
  obtain ⟨cut, -⟩ := of_cutLength some
  exact cut.taken_ne_nil h (List.append_eq_nil_iff.mp cut.taken_append).1

theorem fragmentsFrom_nil (h : Delimits delimiter) (skip : Nat) (lineStart : Bool) :
    fragmentsFrom delimiter skip lineStart [] = [[]] := by
  rw [fragmentsFrom, cutLength_nil h]

theorem fragmentsFrom_of_none {lineStart : Bool} {c : Char} {rest : List Char}
    (h : cutLength delimiter lineStart (c :: rest) = none) :
    fragmentsFrom delimiter 0 lineStart (c :: rest) =
      consFirst c (fragmentsFrom delimiter 0 (c == '\n') rest) := by
  rw [fragmentsFrom, h]

/-- The characters of a cut are passed over, and what is left is looked at afresh. -/
theorem fragmentsFrom_skip (delimiter skipped rest : List Char) (lineStart : Bool) :
    ∃ lineStart', fragmentsFrom delimiter skipped.length lineStart (skipped ++ rest) =
      fragmentsFrom delimiter 0 lineStart' rest := by
  induction skipped generalizing lineStart with
  | nil => exact ⟨lineStart, rfl⟩
  | cons c skipped ih =>
    obtain ⟨lineStart', same⟩ := ih (c == '\n')
    exact ⟨lineStart', by rw [List.length_cons, List.cons_append, fragmentsFrom, same]⟩

/-- **A cut ends the fragment before it**, and the next one starts with what the cut leaves. -/
theorem fragmentsFrom_of_cut (h : Delimits delimiter) {lineStart : Bool} {text : List Char}
    {cut : Cut delimiter text} (cuts : cutLength delimiter lineStart text = some cut.taken.length) :
    ∃ lineStart', fragmentsFrom delimiter 0 lineStart text =
      [] :: fragmentsFrom delimiter 0 lineStart' cut.left := by
  obtain ⟨c, skipped, taken⟩ := List.exists_cons_of_ne_nil (cut.taken_ne_nil h)
  obtain ⟨lineStart', same⟩ := fragmentsFrom_skip delimiter skipped cut.left (c == '\n')
  have split : c :: (skipped ++ cut.left) = text := by
    rw [← List.cons_append, ← taken, cut.taken_append]
  rw [taken, List.length_cons, ← split] at cuts
  refine ⟨lineStart', ?_⟩
  rw [← same]
  exact (congrArg (fragmentsFrom delimiter 0 lineStart) split.symm).trans (by rw [fragmentsFrom, cuts])

/-- What is passed over on a line without a cut is put in front of what comes next. -/
theorem fragmentsFrom_walk {before rest : List Char} (inLine : '\n' ∉ before)
    (uncut : ∀ first later, before = first ++ later → later ≠ [] →
      cutLength delimiter false (later ++ rest) = none) :
    fragmentsFrom delimiter 0 false (before ++ rest) =
      before.foldr consFirst (fragmentsFrom delimiter 0 false rest) := by
  induction before with
  | nil => rfl
  | cons c before ih =>
    rw [List.mem_cons, not_or] at inLine
    have more : (c == '\n') = false := beq_false_of_ne (Ne.symm inLine.1)
    have here : cutLength delimiter false (c :: (before ++ rest)) = none :=
      uncut [] (c :: before) rfl (List.cons_ne_nil _ _)
    rw [List.cons_append, fragmentsFrom_of_none here, more, List.foldr_cons, ih inLine.2]
    intro first later split
    exact uncut (c :: first) later (by rw [split, List.cons_append])

/-- Where a line is cut within, it is ended. -/
theorem ending?_of_cutLength (h : Delimits delimiter) (before rest : List Char)
    {tail : List Char} {n : Nat} (inLine : '\n' ∉ rest) (ended : AtLineEnd tail)
    (cuts : cutLength delimiter false (rest ++ tail) = some n) :
    ending? delimiter (before ++ rest) = some before := by
  obtain ⟨cut, -, within⟩ := of_cutLength cuts
  obtain ⟨sign, here⟩ := within rfl
  obtain ⟨blanks, split, blank⟩ := cut.inLine h here inLine ended
  refine (ending?_eq_some_iff h).mpr ⟨before, cut.found, blanks, ?_, cut.same, blank, ?_⟩
  · exact (congrArg (before ++ ·) split).trans (List.append_assoc ..).symm
  · rw [if_neg (Bool.eq_false_iff.mp sign)]

/-- A line is passed over up to the place that ends it. -/
theorem fragmentsFrom_line (h : Delimits delimiter) (before rest : List Char) {tail : List Char}
    (inLine : '\n' ∉ before ++ rest) (ended : AtLineEnd tail)
    (last : ∀ kept, ending? delimiter (before ++ rest) = some kept → before.length ≤ kept.length) :
    fragmentsFrom delimiter 0 false (before ++ (rest ++ tail)) =
      before.foldr consFirst (fragmentsFrom delimiter 0 false (rest ++ tail)) := by
  rw [List.mem_append, not_or] at inLine
  refine fragmentsFrom_walk inLine.1 fun first later split some => ?_
  rw [split, List.mem_append, not_or] at inLine
  rw [Option.eq_none_iff_forall_ne_some]
  intro n cuts
  rw [← List.append_assoc] at cuts
  have ends := ending?_of_cutLength h first (later ++ rest)
    (by rw [List.mem_append, not_or]; exact ⟨inLine.1.2, inLine.2⟩) ended cuts
  have short := last first (by rw [split, List.append_assoc]; exact ends)
  rw [split, List.length_append] at short
  exact some (List.length_eq_zero_iff.mp (by omega))

/-! ## Fragments, line by line -/

theorem fragments_nil (h : Delimits delimiter) : fragments delimiter [] = [[]] := by
  rw [fragments_line delimiter List.not_mem_nil, ending?_of_blank h rfl]
  rfl

/-- A line that is not ended goes in front of what comes next. -/
theorem fragments_of_unended (h : Delimits delimiter) {line tail : List Char}
    (inLine : '\n' ∉ line) (ended : AtLineEnd tail) (unended : ending? delimiter line = none) :
    fragments delimiter (line ++ tail) = (fragments delimiter tail).modifyHead (line ++ ·) := by
  rcases ended with rfl | ⟨rest, rfl⟩
  · rw [List.append_nil, fragments_line delimiter inLine, unended, fragments_nil h]
    simp
  · have blank := fragments_append delimiter List.not_mem_nil rest
    rw [ending?_of_blank h rfl] at blank
    rw [fragments_append delimiter inLine, unended, ← List.nil_append ('\n' :: rest), blank]
    simp [List.modifyHead_modifyHead, Function.comp_def]

/-- What is left of a line that is ended is a fragment. -/
theorem fragments_of_ended (h : Delimits delimiter) {line tail before : List Char}
    (inLine : '\n' ∉ line) (ended : AtLineEnd tail) (ends : ending? delimiter line = some before) :
    fragments delimiter (line ++ tail) = before :: fragments delimiter tail.tail := by
  rcases ended with rfl | ⟨rest, rfl⟩
  · rw [List.append_nil, fragments_line delimiter inLine, ends, List.tail_nil, fragments_nil h]
    rfl
  · rw [fragments_append delimiter inLine, ends]
    rfl

/-- Blanks in front of a first fragment are trimmed off. -/
theorem map_trim_modifyHead {blanks : List Char} (blank : isAllBlank blanks = true)
    (fragments : List (List Char)) :
    (fragments.modifyHead (blanks ++ ·)).map trim = fragments.map trim := by
  cases fragments with
  | nil => rfl
  | cons first others => simp [trim_blanks_append blank]

/-- Blanks before the end of a line make no difference to what the fragments are trimmed to. -/
theorem fragments_blanks (h : Delimits delimiter) {blanks left : List Char}
    (blank : isAllBlank blanks = true) (ended : AtLineEnd left) :
    (fragments delimiter (blanks ++ left)).map trim = (fragments delimiter left).map trim := by
  induction blanks using byLines with
  | last line inLine =>
    rw [fragments_of_unended h inLine ended (ending?_of_blank h blank), map_trim_modifyHead blank]
  | more line rest inLine ih =>
    rw [isAllBlank_append, isAllBlank_cons, Bool.and_eq_true, Bool.and_eq_true] at blank
    have front : isAllBlank (line ++ ['\n']) = true := by
      rw [isAllBlank_append, blank.1]
      rfl
    rw [List.append_assoc, List.cons_append, fragments_append delimiter inLine,
      ending?_of_blank h blank.1, Option.elim_none, map_trim_modifyHead front, ih blank.2.2]

/-- An empty line in front makes no difference either. -/
theorem fragments_newline (h : Delimits delimiter) (rest : List Char) :
    (fragments delimiter ('\n' :: rest)).map trim = (fragments delimiter rest).map trim := by
  rw [← List.nil_append ('\n' :: rest), fragments_append delimiter List.not_mem_nil,
    ending?_of_blank h rfl, Option.elim_none, map_trim_modifyHead (by decide)]

theorem fragments_tail (h : Delimits delimiter) {tail : List Char} (ended : AtLineEnd tail) :
    (fragments delimiter tail.tail).map trim = (fragments delimiter tail).map trim := by
  rcases ended with rfl | ⟨rest, rfl⟩
  · rfl
  · exact (fragments_newline h rest).symm

/-- **A place where a line is cut ends the line**: what is before it is the fragment, but for a word
    that may have nothing before it, and the others start behind the cut. -/
theorem fragments_of_found (h : Delimits delimiter) (opening : List Char)
    {found skipped left : List Char}
    (inLine : '\n' ∉ opening) (alone : isWord delimiter = true → isAllBlank opening = true)
    (same : sameText delimiter found = true) (blank : isAllBlank skipped = true)
    (ended : AtLineEnd left) :
    ∃ others, fragments delimiter (opening ++ (found ++ (skipped ++ left))) =
        (if isWord delimiter then [] else opening) :: others ∧
      others.map trim = (fragments delimiter left).map trim := by
  obtain ⟨blanks, further, rfl, within, here⟩ := exists_line skipped
  rw [isAllBlank_append, Bool.and_eq_true] at blank
  have line : '\n' ∉ opening ++ found ++ blanks := by
    simp [inLine, (h.of_sameText same).inLine, within]
  have beyond : AtLineEnd (further ++ left) := by
    rcases here with rfl | ⟨rest, rfl⟩
    · exact ended
    · exact .inr ⟨rest ++ left, rfl⟩
  have ends : ending? delimiter (opening ++ found ++ blanks) =
      some (if isWord delimiter then [] else opening) := by
    refine (ending?_eq_some_iff h).mpr ⟨opening, found, blanks, rfl, same, blank.1, ?_⟩
    split
    case isTrue word => exact ⟨alone word, rfl⟩
    case isFalse => rfl
  refine ⟨fragments delimiter (further ++ left).tail, ?_, ?_⟩
  · rw [← fragments_of_ended h line beyond ends]
    simp only [List.append_assoc]
  · rw [fragments_tail h beyond, fragments_blanks h blank.2 ended]

/-- A cut at the start of a line ends a blank fragment. -/
theorem fragments_of_cut (h : Delimits delimiter) {opening found skipped left : List Char}
    (before : isAllBlank opening = true) (same : sameText delimiter found = true)
    (blank : isAllBlank skipped = true) (ended : AtLineEnd left) :
    ∃ first others, fragments delimiter (opening ++ (found ++ (skipped ++ left))) =
        first :: others ∧ isAllBlank first = true ∧
      others.map trim = (fragments delimiter left).map trim := by
  induction opening using byLines with
  | last line inLine =>
    obtain ⟨others, parted, trimmed⟩ :=
      fragments_of_found h line inLine (fun _ => before) same blank ended
    refine ⟨_, others, parted, ?_, trimmed⟩
    split
    case isTrue => rfl
    case isFalse => exact before
  | more line rest inLine ih =>
    rw [isAllBlank_append, isAllBlank_cons, Bool.and_eq_true, Bool.and_eq_true] at before
    obtain ⟨first, others, parted, clear, trimmed⟩ := ih before.2.2
    refine ⟨line ++ ['\n'] ++ first, others, ?_, ?_, trimmed⟩
    · rw [List.append_assoc, List.cons_append, fragments_append delimiter inLine,
        ending?_of_blank h before.1, Option.elim_none, parted]
      rfl
    · rw [isAllBlank_append, isAllBlank_append, before.1, clear]
      rfl

/-! ## The comparison -/

/-- Fragments that come to the same once they are trimmed. Of the first ones the starts have to be
    the same too, since there may be more to put in front of them. -/
def Alike : List (List Char) → List (List Char) → Prop
  | first :: others, first' :: others' =>
    trimEnd first = trimEnd first' ∧ others.map trim = others'.map trim
  | _, _ => False

namespace Alike

variable {walked parted : List (List Char)}

theorem map_trim (h : Alike walked parted) : walked.map trim = parted.map trim := by
  cases walked <;> cases parted
  case cons.cons => rw [List.map_cons, List.map_cons, trim_congr h.1, h.2]
  all_goals exact h.elim

theorem prepend (h : Alike walked parted) (before : List Char) :
    Alike (before.foldr consFirst walked) (parted.modifyHead (before ++ ·)) := by
  cases walked <;> cases parted
  case cons.cons first others first' others' =>
    have front : before.foldr consFirst (first :: others) = (before ++ first) :: others := by
      induction before with
      | nil => rfl
      | cons c before ih => rw [List.foldr_cons, ih, consFirst, List.cons_append]
    rw [front]
    exact ⟨trimEnd_append_congr before h.1, h.2⟩
  all_goals exact h.elim

end Alike

/-- The induction hypothesis: texts that start a line and are shorter than `bound` are split as
    their lines are. -/
def AlikeBelow (delimiter : List Char) (bound : Nat) : Prop :=
  ∀ text : List Char, text.length < bound →
    Alike (fragmentsFrom delimiter 0 true text) (fragments delimiter text)

/-- Where a line ends nothing is cut, and what comes next starts a line. -/
theorem alike_of_lineEnd (h : Delimits delimiter) {bound : Nat} (below : AlikeBelow delimiter bound)
    {tail : List Char} (ended : AtLineEnd tail) (short : tail.length ≤ bound) :
    Alike (fragmentsFrom delimiter 0 false tail) (fragments delimiter tail) := by
  rcases ended with rfl | ⟨rest, rfl⟩
  · rw [fragmentsFrom_nil h, fragments_nil h]
    exact ⟨rfl, rfl⟩
  · have uncut : cutLength delimiter false ('\n' :: rest) = none := by
      rw [Option.eq_none_iff_forall_ne_some]
      intro n cuts
      have ends := ending?_of_cutLength h [] [] List.not_mem_nil (.inr ⟨rest, rfl⟩) cuts
      rw [List.append_nil, ending?_of_blank h rfl] at ends
      cases ends
    rw [fragmentsFrom_of_none uncut, ← List.nil_append ('\n' :: rest),
      fragments_append delimiter List.not_mem_nil, ending?_of_blank h rfl]
    exact (below rest short).prepend ['\n']

/-- What a cut leaves starts at the end of a line, and sometimes a line starts there too. -/
theorem alike_of_left (h : Delimits delimiter) {text : List Char}
    (below : AlikeBelow delimiter text.length) (cut : Cut delimiter text) (lineStart : Bool) :
    Alike (fragmentsFrom delimiter 0 lineStart cut.left) (fragments delimiter cut.left) := by
  have short := cut.length_left h
  cases lineStart with
  | true => exact below cut.left short
  | false => exact alike_of_lineEnd h below cut.ended short.le

/-- A cut at the start of a line: its fragment is blank. -/
theorem alike_of_cut (h : Delimits delimiter) {text : List Char}
    (below : AlikeBelow delimiter text.length) (cut : Cut delimiter text)
    (cuts : cutLength delimiter true text = some cut.taken.length) :
    Alike (fragmentsFrom delimiter 0 true text) (fragments delimiter text) := by
  obtain ⟨lineStart, walked⟩ := fragmentsFrom_of_cut h cuts
  obtain ⟨first, others, parted, clear, trimmed⟩ :=
    fragments_of_cut h cut.opening_blank cut.same cut.skipped_blank cut.ended
  rw [← cut.split] at parted
  rw [walked, parted]
  exact ⟨(trimEnd_eq_nil clear).symm,
    (alike_of_left h below cut lineStart).map_trim.trans trimmed.symm⟩

/-- A line that is not ended: it is walked over, and nothing in it is a cut. -/
theorem alike_of_unended (h : Delimits delimiter) {line tail : List Char}
    (below : AlikeBelow delimiter (line ++ tail).length) (inLine : '\n' ∉ line)
    (ended : AtLineEnd tail) (unended : ending? delimiter line = none) :
    Alike (fragmentsFrom delimiter 0 false (line ++ tail)) (fragments delimiter (line ++ tail)) := by
  have walked := fragmentsFrom_line h line [] (by rwa [List.append_nil]) ended fun kept ends => by
    rw [List.append_nil, unended] at ends
    cases ends
  rw [List.nil_append] at walked
  rw [walked, fragments_of_unended h inLine ended unended]
  refine (alike_of_lineEnd h below ended ?_).prepend line
  rw [List.length_append]
  exact Nat.le_add_left _ _

/-- A line that something else than a word ends: there is one place in it where a cut can start, and
    what comes before that is the fragment. -/
theorem alike_of_ended (h : Delimits delimiter) (sign : isWord delimiter = false)
    {opening found blanks tail : List Char}
    (below : AlikeBelow delimiter (found ++ (blanks ++ tail)).length)
    (inLine : '\n' ∉ opening ++ (found ++ blanks)) (same : sameText delimiter found = true)
    (blank : isAllBlank blanks = true) (ended : AtLineEnd tail) :
    Alike (fragmentsFrom delimiter 0 false (opening ++ (found ++ (blanks ++ tail))))
      (fragments delimiter (opening ++ (found ++ (blanks ++ tail)))) := by
  have ends : ending? delimiter (opening ++ (found ++ blanks)) = some opening :=
    (ending?_eq_some_iff h).mpr ⟨opening, found, blanks, (List.append_assoc ..).symm, same, blank,
      by rw [if_neg (Bool.eq_false_iff.mp sign)]⟩
  have walked := fragmentsFrom_line h opening (found ++ blanks) inLine ended fun kept some => by
    rw [Option.some.inj (ends.symm.trans some)]
  rw [List.append_assoc] at walked
  -- the cut that is taken need not be the one we know of: it may skip more blanks
  obtain ⟨n, cuts⟩ := exists_cutLength_false sign same blank ended
  obtain ⟨cut, rfl, within⟩ := of_cutLength cuts
  obtain ⟨lineStart, cutOff⟩ := fragmentsFrom_of_cut h cuts
  have split := cut.split
  rw [(within rfl).2, List.nil_append] at split
  rw [List.mem_append, not_or] at inLine
  obtain ⟨others, parted, trimmed⟩ := fragments_of_found h opening inLine.1
    (fun word => absurd word (Bool.eq_false_iff.mp sign)) cut.same cut.skipped_blank cut.ended
  rw [← split, if_neg (Bool.eq_false_iff.mp sign)] at parted
  have both : Alike ([] :: fragmentsFrom delimiter 0 lineStart cut.left) ([] :: others) :=
    ⟨rfl, (alike_of_left h below cut lineStart).map_trim.trans trimmed.symm⟩
  have front := both.prepend opening
  rwa [← cutOff, ← walked, List.modifyHead_cons, List.append_nil, ← parted] at front

/-- A line that is not cut at its start. -/
theorem alike_of_uncut (h : Delimits delimiter) {text : List Char}
    (below : AlikeBelow delimiter text.length) (uncut : cutLength delimiter true text = none) :
    Alike (fragmentsFrom delimiter 0 true text) (fragments delimiter text) := by
  have within : fragmentsFrom delimiter 0 true text = fragmentsFrom delimiter 0 false text := by
    cases text with
    | nil => rw [fragmentsFrom_nil h, fragmentsFrom_nil h]
    | cons c rest =>
      rw [fragmentsFrom_of_none uncut, fragmentsFrom_of_none (cutLength_false_of_true uncut)]
  rw [within]
  obtain ⟨line, tail, rfl, inLine, ended⟩ := exists_line text
  cases ends : ending? delimiter line with
  | none => exact alike_of_unended h below inLine ended ends
  | some before =>
    obtain ⟨opening, found, blanks, rfl, same, blank, alone⟩ := (ending?_eq_some_iff h).mp ends
    have parts : opening ++ found ++ blanks ++ tail = opening ++ (found ++ (blanks ++ tail)) := by
      simp only [List.append_assoc]
    split at alone
    case isTrue =>
      -- a word alone on its line would have been cut at the start of the line
      obtain ⟨n, cuts⟩ := exists_cutLength_true
        ⟨opening, found, blanks, tail, parts, alone.1, same, blank, ended⟩
      rw [uncut] at cuts
      cases cuts
    case isFalse sign =>
      rw [parts] at below ⊢
      rw [List.append_assoc] at inLine
      refine alike_of_ended h (Bool.eq_false_iff.mpr sign) (fun text short => below text ?_) inLine
        same blank ended
      rw [List.length_append]
      exact Nat.lt_add_left _ short

/-- **The fragments that splitting finds are those of the lines**, up to blanks at their ends. -/
theorem fragmentsFrom_alike (h : Delimits delimiter) (text : List Char) :
    Alike (fragmentsFrom delimiter 0 true text) (fragments delimiter text) := by
  induction size : text.length using Nat.strong_induction_on generalizing text with
  | _ bound ih =>
    have below : AlikeBelow delimiter text.length := fun shorter short =>
      ih _ (size ▸ short) shorter rfl
    cases cuts : cutLength delimiter true text with
    | none => exact alike_of_uncut h below cuts
    | some n =>
      obtain ⟨cut, rfl, -⟩ := of_cutLength cuts
      exact alike_of_cut h below cut cuts

/-! ## Statements -/

/-- What splitting keeps of fragments: those that are not blank, trimmed. -/
def kept (fragments : List (List Char)) : List String :=
  ((fragments.map trim).filter fun fragment => !fragment.isEmpty).map String.ofList

/-- The statements of a script come from the fragments of its lines. -/
theorem statements_eq_kept {script delimiter : String} (h : Delimits delimiter.toList) :
    statements script delimiter = kept (fragments delimiter.toList script.toList) := by
  rw [statements, (fragmentsFrom_alike h script.toList).map_trim, kept]

theorem solid_kept (fragments : List (List Char)) :
    ((kept fragments).flatMap fun statement => solid statement.toList) =
      fragments.flatMap solid := by
  induction fragments with
  | nil => rfl
  | cons fragment others ih =>
    rw [kept] at ih ⊢
    rw [List.flatMap_cons, ← solid_trim fragment, ← ih, List.map_cons]
    cases trimmed : trim fragment with
    | nil => rfl
    | cons c rest => simp

/-- **A script is cut where its lines say**, and nowhere else. Each line ends a statement or does
    not, as it is written on the line; what stands on the lines stands in the statements, in the same
    order, but for the delimiters and for blanks. -/
theorem statements_eq_lineFragments (script delimiter : String) (h : Delimits delimiter.toList) :
    statements script delimiter =
      (((lineFragments delimiter.toList (script.toList.splitOn '\n')).map fun lines =>
        trim (joined lines)).filter fun fragment => !fragment.isEmpty).map String.ofList ∧
    ((statements script delimiter).flatMap fun statement => solid statement.toList) =
      (script.toList.splitOn '\n').flatMap fun line =>
        solid ((ending? delimiter.toList line).getD line) := by
  have same : statements script delimiter = _ := statements_eq_kept h
  refine ⟨?_, ?_⟩
  · rw [same, kept, fragments, List.map_map]
    rfl
  · rw [same, solid_kept, solid_fragments]

/-- A word of another case, alone on a line with a carriage return, and the same word at the end of
    a longer one. -/
theorem statements_eq_lineFragments_word :
    Delimits "GO".toList ∧
      statements "select 1\r\n go \r\n\ndrop CARGO\nGO" "GO" = ["select 1", "drop CARGO"] ∧
      (statements "select 1\r\n go \r\n\ndrop CARGO\nGO" "GO").flatMap
        (fun statement => solid statement.toList) = "select1dropCARGO".toList := by
  have h : Delimits "GO".toList := ⟨by decide, by decide, by decide⟩
  have both := statements_eq_lineFragments "select 1\r\n go \r\n\ndrop CARGO\nGO" "GO" h
  exact ⟨h, both.1.trans (by decide +kernel), both.2.trans (by decide +kernel)⟩

end SqlRunner.Split
