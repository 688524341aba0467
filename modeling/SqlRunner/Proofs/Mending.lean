import Mathlib.Data.List.Induction
import Mathlib.Logic.Function.Iterate
import SqlRunner.Proofs.Blanks
import SqlRunner.Rendering

/-!
# Mending — what is taken of the separators at the end

A text may end in any number of separators with blanks between and behind them. Mending makes one
of the last two, and drops the blanks behind it. It finds the two by going through the text from its
start and taking the first place from which on there is nothing but two separators and blanks. For a
separator without blanks in it there is only one such place (`Closes.unique`), even where the
separator overlaps with itself, because the text can be read from its end: blanks, the separator,
blanks, the separator again.

How many separators a text ends in is therefore a number that belongs to the text
(`exists_closesExactly`, `ClosesExactly.unique`). Mending takes one from it as long as there are two
(`ClosesExactly.exists_mended`), so it has to be repeated until one is left. It is not idempotent:
from three separators on, mending once more takes another one (`mendDoubled_takes_another`).
-/

set_option autoImplicit false

namespace SqlRunner.Separator

open Text

/-- A separator that is put back as it is, having no backslash, and can be told from the blanks
    around it. -/
structure Plain (separator : List Char) : Prop where
  nonempty : separator ≠ []
  solid : ∀ c ∈ separator, isBlank c = false
  literal : '\\' ∉ separator

/-- A text that is `before` and then separators, each with blanks behind it: the `gaps`. -/
structure Closes (separator before : List Char) (gaps : List (List Char)) (text : List Char) :
    Prop where
  split : text = before ++ gaps.flatMap (separator ++ ·)
  blank : ∀ gap ∈ gaps, isAllBlank gap = true

/-- All the separators that a text ends in: what is before them ends in none. -/
structure ClosesExactly (separator before : List Char) (gaps : List (List Char))
    (text : List Char) : Prop extends Closes separator before gaps text where
  first : ∀ earlier gap, ¬ Closes separator earlier [gap] before

variable {separator : List Char}

/-! ## Reading a text from its end -/

/-- Where the last separator starts is known from the text alone. -/
theorem Plain.append_inj (plain : Plain separator) {before before' gap gap' : List Char}
    (blank : isAllBlank gap = true) (blank' : isAllBlank gap' = true)
    (same : before ++ separator ++ gap = before' ++ separator ++ gap') :
    before = before' ∧ gap = gap' := by
  obtain ⟨c, last⟩ := Option.ne_none_iff_exists'.mp (mt List.getLast?_eq_none_iff.mp plain.nonempty)
  have solid := plain.solid c (List.mem_of_getLast? last)
  have equal := congrArg trimEnd same
  rw [trimEnd_append_of_getLast? before last solid blank,
    trimEnd_append_of_getLast? before' last solid blank'] at equal
  rw [equal] at same
  exact ⟨List.append_cancel_right equal, List.append_cancel_left same⟩

theorem closes_nil_iff {before text : List Char} :
    Closes separator before [] text ↔ text = before := by
  constructor
  · intro closes
    rw [closes.split, List.flatMap_nil, List.append_nil]
  · rintro rfl
    exact ⟨(List.append_nil _).symm, List.forall_mem_nil _⟩

/-- The last separator, and what is before it. -/
theorem closes_concat_iff {before text gap : List Char} {gaps : List (List Char)} :
    Closes separator before (gaps ++ [gap]) text ↔
      ∃ rest, Closes separator before gaps rest ∧ isAllBlank gap = true ∧
        text = rest ++ separator ++ gap := by
  constructor
  · rintro ⟨split, blank⟩
    rw [List.forall_mem_append, List.forall_mem_singleton] at blank
    refine ⟨before ++ gaps.flatMap (separator ++ ·), ⟨rfl, blank.1⟩, blank.2, ?_⟩
    rw [split, List.flatMap_append, List.flatMap_singleton, List.append_assoc, List.append_assoc]
  · rintro ⟨rest, ⟨rfl, blank⟩, blank', rfl⟩
    refine ⟨?_, ?_⟩
    · rw [List.flatMap_append, List.flatMap_singleton, List.append_assoc, List.append_assoc]
    · rw [List.forall_mem_append, List.forall_mem_singleton]
      exact ⟨blank, blank'⟩

theorem closes_singleton_iff {before text gap : List Char} :
    Closes separator before [gap] text ↔
      isAllBlank gap = true ∧ text = before ++ separator ++ gap := by
  rw [← List.nil_append [gap], closes_concat_iff]
  simp only [closes_nil_iff, exists_eq_left]

/-- **So many separators at the end can be read in one way only**, however the separator overlaps
    with itself. -/
theorem Closes.unique (plain : Plain separator) {before before' text : List Char}
    {gaps gaps' : List (List Char)} (closes : Closes separator before gaps text)
    (closes' : Closes separator before' gaps' text) (same : gaps.length = gaps'.length) :
    before = before' ∧ gaps = gaps' := by
  -- both readings are followed from the last separator to the first
  induction gaps using List.reverseRecOn generalizing gaps' text with
  | nil =>
    obtain rfl := List.eq_nil_of_length_eq_zero same.symm
    rw [closes_nil_iff] at closes closes'
    exact ⟨closes.symm.trans closes', rfl⟩
  | append_singleton gaps gap ih =>
    obtain ⟨rest, more, blank, rfl⟩ := closes_concat_iff.mp closes
    rcases List.eq_nil_or_concat' gaps' with rfl | ⟨gaps', gap', rfl⟩
    · rw [List.length_append] at same
      cases same
    · obtain ⟨rest', more', blank', equal⟩ := closes_concat_iff.mp closes'
      obtain ⟨rfl, rfl⟩ := plain.append_inj blank blank' equal
      rw [List.length_append, List.length_append, Nat.add_right_cancel_iff] at same
      obtain ⟨rfl, rfl⟩ := ih more more' same
      exact ⟨rfl, rfl⟩

namespace ClosesExactly

/-- No reading of a text has more separators at its end. -/
theorem length_le (plain : Plain separator) {before before' text : List Char}
    {gaps gaps' : List (List Char)} (exact : ClosesExactly separator before gaps text)
    (closes : Closes separator before' gaps' text) : gaps'.length ≤ gaps.length := by
  obtain ⟨closes', first⟩ := exact
  induction gaps using List.reverseRecOn generalizing gaps' text with
  | nil =>
    rcases List.eq_nil_or_concat' gaps' with rfl | ⟨gaps', gap', rfl⟩
    · rfl
    · obtain ⟨rest, -, blank, split⟩ := closes_concat_iff.mp closes
      -- the other reading would find one more separator before those that are all
      rw [closes_nil_iff.mp closes'] at split
      exact absurd (closes_singleton_iff.mpr ⟨blank, split⟩) (first rest gap')
  | append_singleton gaps gap ih =>
    obtain ⟨rest, more, blank, rfl⟩ := closes_concat_iff.mp closes'
    rcases List.eq_nil_or_concat' gaps' with rfl | ⟨gaps', gap', rfl⟩
    · exact Nat.zero_le _
    · obtain ⟨rest', more', blank', equal⟩ := closes_concat_iff.mp closes
      obtain ⟨rfl, rfl⟩ := plain.append_inj blank blank' equal
      rw [List.length_append, List.length_append]
      exact Nat.add_le_add_right (ih more' more) 1

theorem unique (plain : Plain separator) {before before' text : List Char}
    {gaps gaps' : List (List Char)} (exact : ClosesExactly separator before gaps text)
    (exact' : ClosesExactly separator before' gaps' text) : before = before' ∧ gaps = gaps' :=
  exact.toCloses.unique plain exact'.toCloses
    (Nat.le_antisymm (exact'.length_le plain exact.toCloses)
      (exact.length_le plain exact'.toCloses))

end ClosesExactly

/-- Every text ends in some number of separators. -/
theorem exists_closesExactly (plain : Plain separator) (text : List Char) :
    ∃ before gaps, ClosesExactly separator before gaps text := by
  induction size : text.length using Nat.strong_induction_on generalizing text with
  | _ bound ih =>
    by_cases more : ∃ rest gap, Closes separator rest [gap] text
    · obtain ⟨rest, gap, closes⟩ := more
      obtain ⟨blank, split⟩ := closes_singleton_iff.mp closes
      have shorter : rest.length < bound := by
        have := List.length_pos_iff.mpr plain.nonempty
        rw [← size, split, List.length_append, List.length_append]
        omega
      obtain ⟨before, gaps, exact⟩ := ih rest.length shorter rest rfl
      exact ⟨before, gaps ++ [gap],
        closes_concat_iff.mpr ⟨rest, exact.toCloses, blank, split⟩, exact.first⟩
    · refine ⟨text, [], closes_nil_iff.mpr rfl, fun earlier gap closes => ?_⟩
      exact more ⟨earlier, gap, closes⟩

/-! ## Finding the last two -/

theorem afterBlanks_iff {holds : List Char → Bool} {s : List Char} :
    afterBlanks holds s = true ↔
      ∃ gap rest, s = gap ++ rest ∧ isAllBlank gap = true ∧ holds rest = true := by
  induction s with
  | nil =>
    rw [afterBlanks]
    constructor
    · intro here
      exact ⟨[], [], rfl, rfl, here⟩
    · rintro ⟨gap, rest, split, -, here⟩
      rwa [(List.nil_eq_append_iff.mp split).2] at here
  | cons c s ih =>
    rw [afterBlanks, Bool.or_eq_true, Bool.and_eq_true, ih]
    constructor
    · rintro (here | ⟨blank, gap, rest, rfl, later, here⟩)
      · exact ⟨[], c :: s, rfl, rfl, here⟩
      · exact ⟨c :: gap, rest, rfl, by rw [isAllBlank_cons, blank, later]; rfl, here⟩
    · rintro ⟨gap, rest, split, blank, here⟩
      cases gap with
      | nil =>
        rw [List.nil_append] at split
        exact .inl (split ▸ here)
      | cons d gap =>
        rw [List.cons_append, List.cons_eq_cons] at split
        obtain ⟨rfl, rfl⟩ := split
        rw [isAllBlank_cons, Bool.and_eq_true] at blank
        exact .inr ⟨blank.1, gap, rest, rfl, blank.2, here⟩

theorem isLast_iff {s : List Char} :
    isLast separator s = true ↔ ∃ gap, s = separator ++ gap ∧ isAllBlank gap = true := by
  rw [isLast, Bool.and_eq_true, List.isPrefixOf_iff_prefix]
  constructor
  · rintro ⟨⟨gap, rfl⟩, blank⟩
    rw [List.drop_left] at blank
    exact ⟨gap, rfl, blank⟩
  · rintro ⟨gap, rfl, blank⟩
    rw [List.drop_left]
    exact ⟨List.prefix_append _ _, blank⟩

theorem isDoubled_iff {s : List Char} :
    isDoubled separator s = true ↔ ∃ between after, Closes separator [] [between, after] s := by
  rw [isDoubled, Bool.and_eq_true, List.isPrefixOf_iff_prefix]
  constructor
  · rintro ⟨⟨rest, rfl⟩, doubled⟩
    rw [List.drop_left, afterBlanks_iff] at doubled
    obtain ⟨between, last, rfl, blank, here⟩ := doubled
    obtain ⟨after, rfl, blank'⟩ := isLast_iff.mp here
    exact ⟨between, after, by simp, by simp [blank, blank']⟩
  · rintro ⟨between, after, rfl, blank⟩
    rw [List.forall_mem_cons, List.forall_mem_singleton] at blank
    refine ⟨⟨between ++ (separator ++ after), by simp⟩, ?_⟩
    rw [List.nil_append, List.flatMap_cons, List.flatMap_singleton, List.append_assoc,
      List.drop_left, afterBlanks_iff]
    exact ⟨between, separator ++ after, rfl, blank.1, isLast_iff.mpr ⟨after, rfl, blank.2⟩⟩

/-- What is found is a place where two separators close the text. -/
theorem closes_of_beforeDoubled? {text before : List Char}
    (found : beforeDoubled? separator text = some before) :
    ∃ between after, Closes separator before [between, after] text := by
  induction text generalizing before with
  | nil =>
    rw [beforeDoubled?] at found
    split at found
    case isTrue doubled =>
      cases found
      exact isDoubled_iff.mp doubled
    case isFalse => cases found
  | cons c rest ih =>
    rw [beforeDoubled?] at found
    split at found
    case isTrue doubled =>
      cases found
      exact isDoubled_iff.mp doubled
    case isFalse =>
      obtain ⟨before, later, rfl⟩ := Option.map_eq_some_iff.mp found
      obtain ⟨between, after, split, blank⟩ := ih later
      exact ⟨between, after, congrArg (c :: ·) split, blank⟩

/-- Where two separators close a text, some place is found. -/
theorem exists_beforeDoubled? {text before between after : List Char}
    (closes : Closes separator before [between, after] text) :
    ∃ found, beforeDoubled? separator text = some found := by
  induction before generalizing text with
  | nil =>
    have doubled := isDoubled_iff.mpr ⟨between, after, closes⟩
    cases text <;> exact ⟨[], by rw [beforeDoubled?, if_pos doubled]⟩
  | cons c before ih =>
    obtain ⟨rfl, blank⟩ := closes
    obtain ⟨found, later⟩ := ih ⟨rfl, blank⟩
    rw [List.cons_append, beforeDoubled?, later]
    split
    case isTrue => exact ⟨[], rfl⟩
    case isFalse => exact ⟨c :: found, rfl⟩

/-- **The place that is found is the only one.** -/
theorem beforeDoubled?_eq_some_iff (plain : Plain separator) {text before : List Char} :
    beforeDoubled? separator text = some before ↔
      ∃ between after, Closes separator before [between, after] text := by
  constructor
  · exact closes_of_beforeDoubled?
  · rintro ⟨between, after, closes⟩
    obtain ⟨found, here⟩ := exists_beforeDoubled? closes
    obtain ⟨between', after', closes'⟩ := closes_of_beforeDoubled? here
    rw [here, (closes'.unique plain closes rfl).1]

/-! ## What is left -/

section Text

variable {text separator : String} (plain : Plain separator.toList)

include plain

theorem replacement_of_plain (doubled : List Char) :
    replacement separator doubled = .ok separator.toList := by
  rw [replacement, if_neg]
  · rfl
  · rw [List.contains_iff_mem]
    exact plain.literal

/-- Of two separators at the end one is left, without the blanks behind it. -/
theorem mendDoubled_of_closes {before between after : List Char}
    (closes : Closes separator.toList before [between, after] text.toList) :
    mendDoubled text separator = .ok (String.ofList (before ++ separator.toList)) := by
  have found := (beforeDoubled?_eq_some_iff plain).mpr ⟨between, after, closes⟩
  simp only [mendDoubled, replacement_of_plain plain, found]

/-- A text without two separators at its end is left as it is. -/
theorem mendDoubled_of_not_closes
    (apart : ∀ before between after,
      ¬ Closes separator.toList before [between, after] text.toList) :
    mendDoubled text separator = .ok text := by
  have none : beforeDoubled? separator.toList text.toList = none := by
    rw [Option.eq_none_iff_forall_ne_some]
    intro before found
    obtain ⟨between, after, closes⟩ := closes_of_beforeDoubled? found
    exact apart before between after closes
  simp only [mendDoubled, replacement_of_plain plain, none]

end Text

/-- What is left of the separators at the end, told by the blanks behind each of them. -/
def mendedGaps (gaps : List (List Char)) : List (List Char) :=
  if gaps.length < 2 then gaps else gaps.take (gaps.length - 2) ++ [[]]

theorem length_mendedGaps (gaps : List (List Char)) :
    (mendedGaps gaps).length = max (gaps.length - 1) (min gaps.length 1) := by
  rw [mendedGaps]
  split
  · omega
  · rw [List.length_append, List.length_take, List.length_singleton]
    omega

/-- Mending done so many times. -/
def mendTimes (separator : String) : Nat → String → Except Fault String
  | 0, text => .ok text
  | n + 1, text => mendDoubled text separator >>= mendTimes separator n

namespace ClosesExactly

variable {text separator : String} {before : List Char} {gaps : List (List Char)}
  (plain : Plain separator.toList)

include plain

/-- **One step**: one of the separators at the end is taken, if there are two. -/
theorem exists_mended (exact : ClosesExactly separator.toList before gaps text.toList) :
    ∃ mended, mendDoubled text separator = .ok mended ∧
      ClosesExactly separator.toList before (mendedGaps gaps) mended.toList := by
  rw [mendedGaps]
  split
  case isTrue few =>
    refine ⟨text, mendDoubled_of_not_closes plain fun _ _ _ closes => ?_, exact⟩
    have := exact.length_le plain closes
    simp only [List.length_cons, List.length_nil] at this
    omega
  case isFalse more =>
    -- the last two separators are told apart from the others
    rcases List.eq_nil_or_concat' gaps with rfl | ⟨gaps, after, rfl⟩
    · exact absurd Nat.two_pos more
    rcases List.eq_nil_or_concat' gaps with rfl | ⟨gaps, between, rfl⟩
    · exact absurd Nat.one_lt_two more
    obtain ⟨rest, closes, blank, split⟩ := closes_concat_iff.mp exact.toCloses
    obtain ⟨kept, others, blank', rfl⟩ := closes_concat_iff.mp closes
    have two : Closes separator.toList kept [between, after] text.toList :=
      closes_concat_iff.mpr ⟨_, closes_singleton_iff.mpr ⟨blank', rfl⟩, blank, split⟩
    refine ⟨_, mendDoubled_of_closes plain two, ?_, exact.first⟩
    have left : (gaps ++ [between] ++ [after]).take ((gaps ++ [between] ++ [after]).length - 2) =
        gaps := by simp
    rw [left, String.toList_ofList, closes_concat_iff]
    exact ⟨kept, others, rfl, (List.append_nil _).symm⟩

/-- What so many steps leave. -/
theorem exists_mendTimes (exact : ClosesExactly separator.toList before gaps text.toList)
    (n : Nat) : ∃ mended, mendTimes separator n text = .ok mended ∧
      ClosesExactly separator.toList before (mendedGaps^[n] gaps) mended.toList := by
  induction n generalizing text gaps with
  | zero => exact ⟨text, rfl, exact⟩
  | succ n ih =>
    obtain ⟨once, here, exact'⟩ := exact.exists_mended plain
    obtain ⟨mended, later, exact''⟩ := ih exact'
    refine ⟨mended, ?_, exact''⟩
    rw [mendTimes, here]
    exact later

/-- A text is left as it is if it ends in one separator at most. -/
theorem mend_eq_self_iff (exact : ClosesExactly separator.toList before gaps text.toList) :
    mendDoubled text separator = .ok text ↔ gaps.length ≤ 1 := by
  obtain ⟨mended, here, exact'⟩ := exact.exists_mended plain
  constructor
  · intro same
    rw [here, Except.ok.injEq] at same
    rw [same] at exact'
    have length := length_mendedGaps gaps
    rw [← (exact.unique plain exact').2] at length
    omega
  · intro few
    rw [mendedGaps, if_pos (Nat.lt_succ_of_le few)] at exact'
    rw [here, ← String.toList_inj.mp (exact.split.trans exact'.split.symm)]

/-- The second step changes nothing if the first one leaves one separator at most. -/
theorem mend_again_iff (exact : ClosesExactly separator.toList before gaps text.toList) :
    (mendDoubled text separator >>= fun once => mendDoubled once separator) =
      mendDoubled text separator ↔ gaps.length ≤ 2 := by
  obtain ⟨once, here, exact'⟩ := exact.exists_mended plain
  have second : (mendDoubled text separator >>= fun once => mendDoubled once separator) =
      mendDoubled once separator := by
    rw [here]
    rfl
  rw [second, here, exact'.mend_eq_self_iff plain, length_mendedGaps]
  omega

end ClosesExactly

theorem length_mendedGaps_iterate (gaps : List (List Char)) (n : Nat) :
    (mendedGaps^[n] gaps).length = max (gaps.length - n) (min gaps.length 1) := by
  induction n with
  | zero =>
    rw [Function.iterate_zero, id]
    omega
  | succ n ih =>
    rw [Function.iterate_succ_apply', length_mendedGaps, ih]
    omega

/-! ## The theorems -/

/-- **What mending takes.** A text that is two separators with blanks between and behind them, and
    something before them, can be read so in one way only, and what is before them is left with one
    separator. Any other text is left as it is. So a text that ends in some number of separators,
    which every text does, ends in one less of them afterwards as long as there are two, with
    nothing changed before the last two. Repeated once less often than there are separators,
    mending has nothing more to take, and not before. -/
theorem mendDoubled_closing (text separator : String) (plain : Plain separator.toList) :
    (∀ before between after, Closes separator.toList before [between, after] text.toList →
      mendDoubled text separator = .ok (String.ofList (before ++ separator.toList)) ∧
      ∀ before' between' after',
        Closes separator.toList before' [between', after'] text.toList →
          before' = before ∧ between' = between ∧ after' = after) ∧
    ((∀ before between after, ¬ Closes separator.toList before [between, after] text.toList) →
      mendDoubled text separator = .ok text) ∧
    (∃ before gaps, ClosesExactly separator.toList before gaps text.toList) ∧
    ∀ before gaps, ClosesExactly separator.toList before gaps text.toList →
      (∃ mended gaps', mendDoubled text separator = .ok mended ∧
        ClosesExactly separator.toList before gaps' mended.toList ∧
        gaps'.length = max (gaps.length - 1) (min gaps.length 1) ∧
        gaps'.take (gaps.length - 2) = gaps.take (gaps.length - 2)) ∧
      (∃ fixed, mendTimes separator (gaps.length - 1) text = .ok fixed ∧
        mendDoubled fixed separator = .ok fixed) ∧
      ∀ n < gaps.length - 1, ∀ earlier, mendTimes separator n text = .ok earlier →
        mendDoubled earlier separator ≠ .ok earlier := by
  refine ⟨fun before between after closes => ⟨mendDoubled_of_closes plain closes, ?_⟩,
    mendDoubled_of_not_closes plain, exists_closesExactly plain _,
    fun before gaps exact => ⟨?_, ?_, ?_⟩⟩
  · intro before' between' after' closes'
    obtain ⟨rfl, same⟩ := closes'.unique plain closes rfl
    cases same
    exact ⟨rfl, rfl, rfl⟩
  · obtain ⟨mended, here, exact'⟩ := exact.exists_mended plain
    refine ⟨mended, mendedGaps gaps, here, exact', length_mendedGaps gaps, ?_⟩
    rw [mendedGaps]
    split
    case isTrue => rfl
    case isFalse => rw [List.take_append_of_le_length (by simp), List.take_take, Nat.min_self]
  · obtain ⟨fixed, here, exact'⟩ := exact.exists_mendTimes plain (gaps.length - 1)
    refine ⟨fixed, here, (exact'.mend_eq_self_iff plain).mpr ?_⟩
    rw [length_mendedGaps_iterate]
    omega
  · intro n short earlier here same
    obtain ⟨mended, here', exact'⟩ := exact.exists_mendTimes plain n
    obtain rfl : earlier = mended := Except.ok.inj (here.symm.trans here')
    have few := (exact'.mend_eq_self_iff plain).mp same
    rw [length_mendedGaps_iterate] at few
    omega

/-- A separator that overlaps with itself: five slashes are two separators and a slash before
    them. -/
theorem mendDoubled_closing_slashes :
    mendDoubled "x;///// //\n" "//" = .ok "x;/////" ∧
      ∃ fixed, mendTimes "//" 2 "x;///// //\n" = .ok fixed ∧
        mendDoubled fixed "//" = .ok fixed := by
  have solid : ∀ c ∈ "//".toList, isBlank c = false := by
    intro c mem
    rcases List.mem_pair.mp mem with rfl | rfl <;> decide
  have plain : Plain "//".toList := ⟨by decide, solid, by decide⟩
  obtain ⟨two, -, -, all⟩ := mendDoubled_closing "x;///// //\n" "//" plain
  have exact : ClosesExactly "//".toList "x;/".toList [[], [' '], ['\n']]
      "x;///// //\n".toList := by
    refine ⟨⟨by decide, by decide⟩, fun earlier gap closes => ?_⟩
    have slashes := congrArg (List.count '/') (closes_singleton_iff.mp closes).2
    rw [List.count_append, List.count_append, show "//".toList.count '/' = 2 by decide,
      show "x;/".toList.count '/' = 1 by decide] at slashes
    omega
  exact ⟨(two "x;///".toList [' '] ['\n'] ⟨by decide, by decide⟩).1, (all _ _ exact).2.1⟩

theorem plain_slash : Plain "/".toList where
  nonempty := by decide
  solid := by
    intro c mem
    rw [List.mem_singleton.mp mem]
    decide
  literal := by decide

/-- Strings of Oracle are finished by mending alone where nothing edits them. -/
theorem finish_oracle (text : String) :
    Rendering.finish .oracle [] text = mendDoubled text "/" := rfl

/-- **When mending once more changes nothing**: exactly if the text ends in two separators at most.
    It is the same for the strings of Oracle that are finished once more. -/
theorem mendDoubled_idempotent_iff (text : String) :
    (∀ separator : String, Plain separator.toList →
      ((mendDoubled text separator >>= fun once => mendDoubled once separator) =
          mendDoubled text separator ↔
        ∀ before gaps, Closes separator.toList before gaps text.toList → gaps.length ≤ 2)) ∧
    ((Rendering.finish .oracle [] text >>= Rendering.finish .oracle []) =
        Rendering.finish .oracle [] text ↔
      ∀ before gaps, Closes "/".toList before gaps text.toList → gaps.length ≤ 2) := by
  have again (separator : String) (plain : Plain separator.toList) :
      (mendDoubled text separator >>= fun once => mendDoubled once separator) =
          mendDoubled text separator ↔
        ∀ before gaps, Closes separator.toList before gaps text.toList → gaps.length ≤ 2 := by
    obtain ⟨before, gaps, exact⟩ := exists_closesExactly plain text.toList
    rw [exact.mend_again_iff plain]
    constructor
    · intro few before' gaps' closes
      exact (exact.length_le plain closes).trans few
    · intro few
      exact few before gaps exact.toCloses
  exact ⟨again, again "/" plain_slash⟩

/-- Two separators, of which one is left and stays. -/
theorem mendDoubled_idempotent_iff_two :
    (mendDoubled "X; / /\n" "/" >>= fun once => mendDoubled once "/") =
      mendDoubled "X; / /\n" "/" := by
  have exact : ClosesExactly "/".toList "X; ".toList [[' '], ['\n']] "X; / /\n".toList := by
    refine ⟨⟨by decide, by decide⟩, fun earlier gap closes => ?_⟩
    have split := (closes_singleton_iff.mp closes).2
    have slash : '/' ∈ "X; ".toList := by
      rw [split]
      simp
    exact absurd slash (by decide)
  exact ((mendDoubled_idempotent_iff "X; / /\n").1 "/" plain_slash).mpr fun _ _ closes =>
    exact.length_le plain_slash closes

/-- Three separators, of which each step takes one. -/
theorem mendDoubled_takes_another :
    mendDoubled "X; ///" "/" = .ok "X; //" ∧
      (mendDoubled "X; ///" "/" >>= fun once => mendDoubled once "/") = .ok "X; /" ∧
      (Rendering.finish .oracle [] "X; ///" >>= Rendering.finish .oracle []) ≠
        Rendering.finish .oracle [] "X; ///" := by
  have once : mendDoubled "X; ///" "/" = .ok "X; //" := by rfl
  have twice : mendDoubled "X; //" "/" = .ok "X; /" := by rfl
  refine ⟨once, by rw [once]; exact twice, ?_⟩
  rw [finish_oracle, once]
  intro same
  have equal := Except.ok.inj (twice.symm.trans same)
  exact absurd equal (by decide)

end SqlRunner.Separator
