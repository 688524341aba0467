import SqlRunner.Proofs.Blanks

/-!
# Lower case — a text in lower case stays as it is

Names are looked up in lower case, and some of them have been put into lower case before. That this
is the same is no matter of course: the case maps are tables, a capital sigma has two lower cases,
and one capital letter has a lower case of two characters. What carries it is a fact about the table
alone: what the map gives, it does not change (`lowered_apart`). So the lower case of a character
consists of characters that are left alone wherever they stand.

The fact is one about two long lists of code points. It is checked by writing each of them as one
number with a bit for every code point, which takes as many steps as the lists have members and not
as many as they have pairs.
-/

set_option autoImplicit false

namespace SqlRunner.Text

/-! ## Runs as lists of code points -/

/-- The code points that a run covers. -/
def CaseRun.covered (run : CaseRun) : List Nat :=
  (List.range' run.first (run.last + 1 - run.first)).filter fun n => (n - run.first) % run.step == 0

/-- The code points that a run gives. -/
def CaseRun.images (run : CaseRun) : List Nat :=
  run.covered.map fun n : Nat => (n + run.shift).toNat

theorem CaseRun.apply?_eq (run : CaseRun) (n : Nat) :
    run.apply? n = if n ∈ run.covered then some (n + run.shift).toNat else none := by
  rw [ CaseRun.apply?]
  refine ite_congr (propext ?_) (fun _ => rfl) fun _ => rfl
  simp only [covered, List.mem_filter, List.mem_range'_1, Bool.and_eq_true, decide_eq_true_eq]
  exact and_congr_left' (by omega)

theorem CaseRun.apply?_eq_none_iff {run : CaseRun} {n : Nat} :
    run.apply? n = none ↔ n ∉ run.covered := by
  rw [ CaseRun.apply?_eq]
  exact ite_eq_right_iff.trans (by simp)

theorem CaseRun.mem_images {run : CaseRun} {n m : Nat} (applied : run.apply? n = some m) :
    m ∈ run.images := by
  rw [ CaseRun.apply?_eq] at applied
  split at applied
  case isTrue here => exact Option.some.inj applied ▸ List.mem_map_of_mem here
  case isFalse => cases applied

/-- **A map of runs gives an image of a run, or it leaves alone what no run covers.** -/
theorem mapRuns_cases (runs : List CaseRun) (c : Char) :
    (∃ m ∈ runs.flatMap CaseRun.images, mapRuns runs c = Char.ofNat m) ∨
      c.toNat ∉ runs.flatMap CaseRun.covered ∧ mapRuns runs c = c := by
  cases found : runs.findSome? fun run => run.apply? c.toNat with
  | some m =>
    obtain ⟨run, member, applied⟩ := List.exists_of_findSome?_eq_some found
    have image := List.mem_flatMap.mpr ⟨run, member, CaseRun.mem_images applied⟩
    exact .inl ⟨m, image, by rw [mapRuns, found]; rfl⟩
  | none =>
    refine .inr ⟨fun covered => ?_, by rw [mapRuns, found]; rfl⟩
    obtain ⟨run, member, here⟩ := List.mem_flatMap.mp covered
    exact CaseRun.apply?_eq_none_iff.mp (List.findSome?_eq_none_iff.mp found run member) here

theorem mapRuns_of_notMem {runs : List CaseRun} {c : Char}
    (h : c.toNat ∉ runs.flatMap CaseRun.covered) : mapRuns runs c = c := by
  have found : (runs.findSome? fun run => run.apply? c.toNat) = none := by
    refine List.findSome?_eq_none_iff.mpr fun run member => ?_
    exact CaseRun.apply?_eq_none_iff.mpr fun here => h (List.mem_flatMap.mpr ⟨run, member, here⟩)
  rw [mapRuns, found]
  rfl

/-! ## Lists of code points as numbers -/

/-- The number that has a bit for every code point of the list, and no others. -/
def bits (points : List Nat) : Nat := points.foldr (fun n rest => 1 <<< n ||| rest) 0

theorem testBit_bits (points : List Nat) (n : Nat) :
    (bits points).testBit n = true ↔ n ∈ points := by
  induction points with
  | nil => simp [bits]
  | cons m rest ih =>
    rw [bits, List.foldr_cons, Nat.testBit_or, Bool.or_eq_true, Nat.one_shiftLeft,
      Nat.testBit_two_pow, decide_eq_true_eq, List.mem_cons, eq_comm]
    exact or_congr_right ih

/-- Lists whose numbers have no bit in common have no member in common. -/
theorem notMem_of_bits {points others : List Nat} (apart : bits points &&& bits others = 0)
    {n : Nat} (mem : n ∈ points) : n ∉ others := by
  intro mem'
  have both : (bits points &&& bits others).testBit n = true := by
    rw [Nat.testBit_and, (testBit_bits points n).mpr mem, (testBit_bits others n).mpr mem']
    rfl
  rw [apart, Nat.zero_testBit] at both
  cases both

/-- What holds of the first code points holds of ASCII. -/
theorem forall_ascii {P : Char → Prop} (h : ∀ n < 128, P (Char.ofNat n)) {c : Char}
    (ascii : c.toNat < 128) : P c := by
  have here := h c.toNat ascii
  rwa [Char.ofNat_toNat] at here

/-- The code point of a listed number's character is listed, when the one of what is no character
    is. -/
theorem toNat_ofNat_mem {points : List Nat} (zero : 0 ∈ points) {n : Nat} (mem : n ∈ points) :
    (Char.ofNat n).toNat ∈ points := by
  rcases toNat_ofNat_or n with same | first
  · exact same.symm ▸ mem
  · exact first.symm ▸ zero

/-! ## The lower-case map -/

/-- The code points that the lower-case map changes: those of ASCII, the one whose lower case has
    two characters, and those of the runs. -/
def capitals : List Nat := List.range' 0x41 26 ++ 0x130 :: lowerRuns.flatMap CaseRun.covered

/-- The code points that the lower-case map gives where a rule or a run applies, and the first one
    of all, which a number gives that is no code point. -/
def lowered : List Nat :=
  [0, 0x69, 0x307, 0x3C2, 0x3C3] ++ ((List.range 128).map fun n => (Char.ofNat n).toLower.toNat) ++
    lowerRuns.flatMap CaseRun.images

/-- Nothing that the map gives is a capital letter. -/
theorem lowered_apart : bits lowered &&& bits capitals = 0 := by decide +kernel

/-- **A lower case is no capital letter.** -/
theorem notMem_capitals_of_mem_lowerChar {c d : Char} (mem : d ∈ lowerChar c) :
    d.toNat ∉ capitals := by
  by_cases ascii : c.toNat < 128
  · rw [lowerChar, if_pos ascii, List.mem_singleton] at mem
    have image := List.mem_map_of_mem (f := fun n => (Char.ofNat n).toLower.toNat)
      (List.mem_range.mpr ascii)
    rw [Char.ofNat_toNat, ← mem] at image
    exact notMem_of_bits lowered_apart
      (List.mem_append_left _ (List.mem_append_right _ image))
  by_cases dotted : c.toNat = 0x130
  · rw [lowerChar, if_neg ascii, if_pos (beq_iff_eq.mpr dotted)] at mem
    rcases List.mem_pair.mp mem with rfl | rfl
    · exact notMem_of_bits lowered_apart (by simp [lowered])
    · exact notMem_of_bits lowered_apart (by simp [lowered])
  rw [lowerChar, if_neg ascii, if_neg (by simpa using dotted), List.mem_singleton] at mem
  rcases mapRuns_cases lowerRuns c with ⟨m, image, given⟩ | ⟨missed, still⟩
  · rw [mem, given]
    exact notMem_of_bits lowered_apart
      (toNat_ofNat_mem (by simp [lowered]) (List.mem_append_right _ image))
  · -- what the runs leave alone lies beyond ASCII, and it is not the letter with two characters
    rw [mem, still]
    simp only [capitals, List.mem_append, List.mem_cons, List.mem_range'_1, not_or]
    exact ⟨by omega, dotted, missed⟩

/-- A character that is no capital letter is its own lower case. -/
theorem lowerChar_of_notMem {c : Char} (h : c.toNat ∉ capitals) : lowerChar c = [c] := by
  simp only [capitals, List.mem_append, List.mem_cons, not_or] at h
  obtain ⟨letter, dotted, missed⟩ := h
  by_cases ascii : c.toNat < 128
  · have same := forall_ascii (P := fun c => c.toNat ∉ List.range' 0x41 26 → c.toLower = c)
      (by decide) ascii letter
    rw [lowerChar, if_pos ascii, same]
  · rw [lowerChar, if_neg ascii, if_neg (by simpa using dotted), mapRuns_of_notMem missed]

/-- **A lower case is no capital letter**, and neither are the two forms of a small sigma. -/
theorem notMem_capitals_of_mem_lowerFrom (s before : List Char) :
    ∀ c ∈ lowerFrom before s, c.toNat ∉ capitals := by
  induction s generalizing before with
  | nil => exact fun c mem => absurd mem List.not_mem_nil
  | cons d rest ih =>
    intro c mem
    rw [lowerFrom] at mem
    rcases List.mem_append.mp mem with here | later
    · split at here
      · split at here
        · exact List.mem_singleton.mp here ▸ notMem_of_bits lowered_apart (by simp [lowered])
        · exact List.mem_singleton.mp here ▸ notMem_of_bits lowered_apart (by simp [lowered])
      · exact notMem_capitals_of_mem_lowerChar here
    · exact ih _ c later

theorem lowerFrom_of_notMem {s : List Char} (h : ∀ c ∈ s, c.toNat ∉ capitals)
    (before : List Char) : lowerFrom before s = s := by
  induction s generalizing before with
  | nil => rfl
  | cons c rest ih =>
    have here : c.toNat ∉ capitals := h c List.mem_cons_self
    have sigma : (c == '\u03A3') = false := by
      refine beq_false_of_ne ?_
      rintro rfl
      exact here (by decide +kernel)
    rw [lowerFrom, sigma, if_neg (by decide), lowerChar_of_notMem here,
      ih fun d mem => h d (List.mem_cons_of_mem c mem)]
    rfl

/-- **Lower case is there to stay**: putting a text into lower case twice is doing it once. -/
theorem lower_lower (s : String) : lower (lower s) = lower s := by
  rw [lower, lower, String.toList_ofList,
    lowerFrom_of_notMem (notMem_capitals_of_mem_lowerFrom s.toList [])]

end SqlRunner.Text
