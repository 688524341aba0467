import Mathlib.Data.List.DropRight
import SqlRunner.Text.Blank
import SqlRunner.Text.Caseless

/-!
# Blanks — what trimming takes away, and what comparison without case leaves alone

A text is cut at the end of a line, and what is left of it is trimmed. Two facts carry everything
that is said about such cuts. Trimming takes blanks away and nothing else (`exists_trimEnd`), so two
texts are trimmed to the same as soon as they differ in blanks at their ends. And a blank is like no
character but itself (`eq_of_sameLetter`): comparison without case goes by the case maps, and no
letter has a blank for its lower case. So a text that agrees with a delimiter has its blanks, and its
line ends, where the delimiter has them.
-/

set_option autoImplicit false

namespace SqlRunner.Text

/-! ## Trimming -/

theorem isAllBlank_append (s t : List Char) :
    isAllBlank (s ++ t) = (isAllBlank s && isAllBlank t) := List.all_append

theorem isAllBlank_cons (c : Char) (s : List Char) :
    isAllBlank (c :: s) = (isBlank c && isAllBlank s) := List.all_cons

/-- Trimming at the end drops blanks from the right. -/
theorem trimEnd_eq_rdropWhile (s : List Char) : trimEnd s = s.rdropWhile isBlank := by
  induction s with
  | nil => rfl
  | cons c rest ih =>
    rw [trimEnd, ih, List.rdropWhile, List.rdropWhile, List.reverse_cons, List.dropWhile_append]
    cases rest.reverse.dropWhile isBlank with
    | nil => cases h : isBlank c <;> simp [h]
    | cons d kept => simp

/-- What is trimmed off are blanks. -/
theorem exists_trimEnd (s : List Char) :
    ∃ blanks, isAllBlank blanks = true ∧ s = trimEnd s ++ blanks := by
  refine ⟨s.rtakeWhile isBlank, ?_, ?_⟩
  · exact List.all_eq_true.mpr fun c mem => List.mem_rtakeWhile_imp mem
  · rw [trimEnd_eq_rdropWhile, List.rdropWhile_append_rtakeWhile]

theorem trimEnd_append_blanks (s : List Char) {blanks : List Char}
    (h : isAllBlank blanks = true) : trimEnd (s ++ blanks) = trimEnd s := by
  induction s with
  | nil => exact trimEnd_eq_nil h
  | cons c rest ih => rw [List.cons_append, trimEnd, ih, trimEnd]

/-- A text that ends in something else than a blank is trimmed at its end. -/
theorem trimEnd_of_getLast? {s : List Char} {c : Char} (last : s.getLast? = some c)
    (h : isBlank c = false) : trimEnd s = s := by
  obtain ⟨before, rfl⟩ := List.getLast?_eq_some_iff.mp last
  rw [trimEnd_eq_rdropWhile, List.rdropWhile_concat_neg isBlank before c (by simp [h])]

/-- Trimming at the end stops at what ends in something else than a blank. -/
theorem trimEnd_append_of_getLast? (before : List Char) {s blanks : List Char} {c : Char}
    (last : s.getLast? = some c) (h : isBlank c = false) (hb : isAllBlank blanks = true) :
    trimEnd (before ++ s ++ blanks) = before ++ s := by
  rw [trimEnd_append_blanks _ hb]
  exact trimEnd_of_getLast? (by rw [List.getLast?_append, last]; rfl) h

/-- What is trimmed at the end does not depend on what comes before it. -/
theorem trimEnd_append_congr (s : List Char) {t u : List Char} (h : trimEnd t = trimEnd u) :
    trimEnd (s ++ t) = trimEnd (s ++ u) := by
  induction s with
  | nil => exact h
  | cons c rest ih => rw [List.cons_append, trimEnd, ih, List.cons_append, trimEnd]

theorem trimEnd_trimEnd (s : List Char) : trimEnd (trimEnd s) = trimEnd s := by
  simp only [trimEnd_eq_rdropWhile, List.rdropWhile_idempotent]

theorem dropBlanks_append {blanks : List Char} (h : isAllBlank blanks = true) (s : List Char) :
    dropBlanks (blanks ++ s) = dropBlanks s :=
  List.dropWhile_append_of_pos (List.all_eq_true.mp h)

/-- A text that starts with something else than a blank is trimmed at its start. -/
theorem dropBlanks_of_head? {s : List Char} {c : Char} (first : s.head? = some c)
    (h : isBlank c = false) : dropBlanks s = s := by
  cases s with
  | nil => cases first
  | cons d rest =>
    cases first
    rw [dropBlanks, List.dropWhile_cons_of_neg (by simp [h])]

theorem trim_append_blanks (s : List Char) {blanks : List Char} (h : isAllBlank blanks = true) :
    trim (s ++ blanks) = trim s := by
  rw [trim, dropBlanks, List.dropWhile_append]
  split
  case isTrue none =>
    rw [trim, dropBlanks, List.isEmpty_iff.mp none]
    refine trimEnd_eq_nil (List.all_eq_true.mpr fun c mem => ?_)
    exact List.all_eq_true.mp h c ((List.dropWhile_suffix isBlank).subset mem)
  case isFalse => exact trimEnd_append_blanks _ h

theorem trim_blanks_append {blanks : List Char} (h : isAllBlank blanks = true) (s : List Char) :
    trim (blanks ++ s) = trim s := by
  rw [trim, dropBlanks_append h, trim]

/-- Texts that are trimmed to the same at their ends are trimmed to the same. -/
theorem trim_congr {s t : List Char} (h : trimEnd s = trimEnd t) : trim s = trim t := by
  obtain ⟨after, hs, same⟩ := exists_trimEnd s
  obtain ⟨after', ht, same'⟩ := exists_trimEnd t
  rw [same, same', trim_append_blanks _ hs, trim_append_blanks _ ht, h]

/-- A text that trimming leaves alone has blanks at neither end. -/
theorem trimEnd_of_trim {s : List Char} (h : trim s = s) : trimEnd s = s := by
  rw [← h, trim, trimEnd_trimEnd]

theorem dropBlanks_of_trim {s : List Char} (h : trim s = s) : dropBlanks s = s := by
  obtain ⟨blanks, -, split⟩ := exists_trimEnd (dropBlanks s)
  rw [← trim, h] at split
  have shorter := (List.dropWhile_suffix (l := s) isBlank).length_le
  refine ((List.dropWhile_suffix isBlank).eq_of_length ?_)
  rw [dropBlanks] at split
  rw [split, List.length_append] at shorter ⊢
  omega

/-! ## Letters -/

/-- The blanks, as ranges of code points. -/
def blankRanges : List (Nat × Nat) := [
    (9, 13), (28, 32), (0x85, 0x85), (0xA0, 0xA0), (0x1680, 0x1680), (0x2000, 0x200A),
    (0x2028, 0x2029), (0x202F, 0x202F), (0x205F, 0x205F), (0x3000, 0x3000)]

theorem isBlank_eq_inRanges (c : Char) : isBlank c = inRanges blankRanges c.toNat := by
  rw [Bool.eq_iff_iff]
  simp only [isBlank, inRanges, blankRanges, List.any_cons, List.any_nil, Bool.or_eq_true,
    Bool.and_eq_true, decide_eq_true_eq, beq_iff_eq, Bool.false_eq_true, or_false]
  omega

/-- No blank has a case. -/
theorem hasCase_of_blank {n : Nat} (h : inRanges blankRanges n = true) : hasCase n = false := by
  have table : ∀ r ∈ blankRanges, ∀ m ∈ List.range' r.1 (r.2 + 1 - r.1), hasCase m = false := by
    decide +kernel
  obtain ⟨r, mem, within⟩ := List.any_eq_true.mp h
  rw [Bool.and_eq_true, decide_eq_true_eq, decide_eq_true_eq] at within
  exact table r mem n (List.mem_range'_1.mpr (by omega))

/-- Code points that are the lower case of nothing beyond ASCII but themselves: no run of the case
    maps ends among them. -/
structure Unlowered (ranges : List (Nat × Nat)) : Prop where
  runs : ∀ run ∈ lowerRuns, ∀ r ∈ ranges, 0 < r.1 ∧
    (run.last + run.shift < (r.1 : Int) ∨ (r.2 : Int) < run.first + run.shift)
  dotted : inRanges ranges (lowerPoint 0x130) = false

theorem Unlowered.of_apply? {ranges : List (Nat × Nat)} (h : Unlowered ranges) {run : CaseRun}
    (mem : run ∈ lowerRuns) {n m : Nat} (applied : run.apply? n = some m) :
    inRanges ranges m = false := by
  rw [ CaseRun.apply?] at applied
  split at applied
  case isFalse => cases applied
  case isTrue covered =>
    cases applied
    simp only [Bool.and_eq_true, decide_eq_true_eq] at covered
    refine List.any_eq_false.mpr fun r hr => ?_
    obtain ⟨positive, apart⟩ := h.runs run mem r hr
    simp only [Bool.and_eq_true, decide_eq_true_eq]
    omega

/-- A number that is no code point has the character of code point zero. -/
theorem toNat_ofNat_or (n : Nat) : (Char.ofNat n).toNat = n ∨ (Char.ofNat n).toNat = 0 := by
  by_cases valid : n.isValidChar
  · rw [Char.ofNat, dif_pos valid]
    exact .inl rfl
  · rw [Char.ofNat, dif_neg valid]
    exact .inr rfl

/-- What is beyond ASCII and has its lower case among such code points is that lower case. -/
theorem Unlowered.lowerPoint_eq {ranges : List (Nat × Nat)} (h : Unlowered ranges) {c : Char}
    (beyond : ¬ c.toNat < 128) (low : inRanges ranges (lowerPoint c.toNat) = true) :
    lowerPoint c.toNat = c.toNat := by
  by_cases special : c.toNat = 0x130
  · rw [special, h.dotted] at low
    cases low
  have valid : c.toNat.isValidChar := c.valid
  have mapped : lowerPoint c.toNat = (mapRuns lowerRuns c).toNat := by
    rw [lowerPoint, if_pos valid, Char.ofNat_toNat, lowerChar, if_neg beyond,
      if_neg (by simpa using special)]
    rfl
  rw [mapped] at low ⊢
  cases found : lowerRuns.findSome? fun run => run.apply? c.toNat with
  | none => simp [mapRuns, found]
  | some m =>
    -- a lower case that comes from a run is none of the code points
    obtain ⟨run, mem, applied⟩ := List.exists_of_findSome?_eq_some found
    have image := h.of_apply? mem applied
    rw [mapRuns, found, Option.map_some, Option.getD_some] at low
    rcases toNat_ofNat_or m with same | zero
    · rw [same, image] at low
      cases low
    · rw [zero] at low
      obtain ⟨r, mem', within⟩ := List.any_eq_true.mp low
      rw [Bool.and_eq_true, decide_eq_true_eq, decide_eq_true_eq] at within
      obtain ⟨positive, -⟩ := h.runs run mem r mem'
      omega

theorem blanks_unlowered : Unlowered blankRanges where
  runs := by decide +kernel
  dotted := by decide

/-- A letter is not a blank in lower case: what has a blank for its lower case is that blank. -/
theorem lowerPoint_of_blank {c : Char} (h : inRanges blankRanges (lowerPoint c.toNat) = true) :
    lowerPoint c.toNat = c.toNat := by
  have ascii : ∀ n < 128, inRanges blankRanges (lowerPoint n) = true → lowerPoint n = n := by
    decide +kernel
  by_cases small : c.toNat < 128
  · exact ascii c.toNat small h
  · exact blanks_unlowered.lowerPoint_eq small h

/-- **A blank is like no character but itself**, whichever side it stands on. -/
theorem eq_of_sameLetter {c t : Char} (h : sameLetter c t = true)
    (blank : isBlank c = true ∨ isBlank t = true) : t = c := by
  have kin : ∀ e ∈ caseKin, ∀ n ∈ e.2, inRanges blankRanges n = false := by decide +kernel
  rw [isBlank_eq_inRanges, isBlank_eq_inRanges] at blank
  rw [sameLetter, samePoint] at h
  split at h
  case isFalse => exact Char.toNat_inj.mp (eq_of_beq h).symm
  case isTrue cased =>
    -- what the table of kin knows is lower case, and nothing in it is a blank
    rcases blank with here | there
    · rw [hasCase_of_blank here] at cased
      cases cased
    have small : lowerPoint t.toNat = t.toNat := by
      have none := hasCase_of_blank there
      simp only [hasCase, Bool.or_eq_false_iff, bne_eq_false_iff_eq] at none
      exact none.1
    rw [small, letterClass, List.contains_iff_mem, List.mem_cons] at h
    rcases h with same | other
    · rw [same] at there
      exact Char.toNat_inj.mp (same.trans (lowerPoint_of_blank there))
    · cases found : caseKin.find? fun e => e.1 == lowerPoint c.toNat with
      | none => rw [found] at other; cases other
      | some e =>
        rw [found] at other
        have apart := kin e (List.mem_of_find?_eq_some found) t.toNat other
        rw [apart] at there
        cases there

/-! ## Texts compared without case -/

theorem length_eq_of_sameText {s t : List Char} (h : sameText s t = true) :
    s.length = t.length := by
  fun_induction sameText s t with
  | case1 => rfl
  | case2 c s d t ih =>
    rw [Bool.and_eq_true] at h
    rw [List.length_cons, List.length_cons, ih h.2]
  | case3 => cases h

theorem sameLetter_self (c : Char) : sameLetter c c = true := by
  rw [sameLetter, samePoint]
  split
  case isTrue => exact List.contains_iff_mem.mpr List.mem_cons_self
  case isFalse => exact beq_self_eq_true _

theorem sameText_self (s : List Char) : sameText s s = true := by
  induction s with
  | nil => rfl
  | cons c rest ih => rw [sameText, sameLetter_self, ih]; rfl

/-- Texts that agree end in characters that do. -/
theorem sameLetter_of_getLast? {s t : List Char} {d : Char} (h : sameText s t = true)
    (last : t.getLast? = some d) : ∃ c, s.getLast? = some c ∧ sameLetter c d = true := by
  fun_induction sameText s t with
  | case1 => cases last
  | case2 c s e t ih =>
    rw [Bool.and_eq_true] at h
    cases t with
    | nil =>
      rw [List.eq_nil_of_length_eq_zero (length_eq_of_sameText h.2)]
      cases last
      exact ⟨c, rfl, h.1⟩
    | cons f t =>
      rw [List.getLast?_cons_cons] at last
      obtain ⟨c', last', same⟩ := ih h.2 last
      exact ⟨c', by rw [List.getLast?_cons, last']; rfl, same⟩
  | case3 => cases h

/-- A text starts like another if it has a part at its start that agrees with it. -/
theorem startsCaseless_iff {wanted s : List Char} :
    startsCaseless wanted s = true ↔ ∃ t u, s = t ++ u ∧ sameText wanted t = true := by
  fun_induction startsCaseless wanted s with
  | case1 s => exact iff_of_true rfl ⟨[], s, rfl, rfl⟩
  | case2 c wanted =>
    refine iff_of_false Bool.false_ne_true ?_
    rintro ⟨t, u, split, same⟩
    rw [(List.nil_eq_append_iff.mp split).1] at same
    cases same
  | case3 c wanted d s ih =>
    rw [Bool.and_eq_true, ih]
    constructor
    · rintro ⟨letter, t, u, rfl, same⟩
      exact ⟨d :: t, u, rfl, by rw [sameText, letter, same]; rfl⟩
    · rintro ⟨t, u, split, same⟩
      cases t with
      | nil => cases same
      | cons e t =>
        rw [List.cons_append, List.cons_eq_cons] at split
        obtain ⟨rfl, rfl⟩ := split
        rw [sameText, Bool.and_eq_true] at same
        exact ⟨same.1, t, u, rfl, same.2⟩

/-- Texts that agree have the same line ends. -/
theorem mem_newline_of_sameText {s t : List Char} (h : sameText s t = true) (mem : '\n' ∈ t) :
    '\n' ∈ s := by
  fun_induction sameText s t with
  | case1 => exact mem
  | case2 c s d t ih =>
    rw [Bool.and_eq_true] at h
    rcases List.mem_cons.mp mem with rfl | later
    · rw [eq_of_sameLetter h.1 (.inr rfl)]
      exact List.mem_cons_self
    · exact List.mem_cons_of_mem c (ih h.2 later)
  | case3 => cases h

theorem isBlank_of_sameLetter {c t : Char} (h : sameLetter c t = true) : isBlank t = isBlank c := by
  cases blank : isBlank c || isBlank t with
  | true => rw [eq_of_sameLetter h (Bool.or_eq_true _ _ |>.mp blank)]
  | false =>
    rw [Bool.or_eq_false_iff] at blank
    rw [blank.1, blank.2]

/-- A text starts and ends with blanks where another does that it agrees with. -/
theorem map_isBlank_of_sameText {s t : List Char} (h : sameText s t = true) :
    t.map isBlank = s.map isBlank := by
  fun_induction sameText s t with
  | case1 => rfl
  | case2 c s d t ih =>
    rw [Bool.and_eq_true] at h
    rw [List.map_cons, List.map_cons, isBlank_of_sameLetter h.1, ih h.2]
  | case3 => cases h

end SqlRunner.Text
