import SqlRunner.Proofs.LowerCase

/-!
# Upper case — a text in upper case stays as it is

The labels of columns are put into upper case when a result is read, and the name of a column is put
into upper case when it is looked up. So a label that was put into upper case once has to be what
looking it up makes of it once more.

As with lower case (see `LowerCase`), this is a fact about the tables: nothing that the upper-case
map gives is changed by it (`raised_apart`). The one difference is that many characters have an
upper case of several, each of which has to be looked at.
-/

set_option autoImplicit false

namespace SqlRunner.Text

/-- The code points that the upper-case map changes: those of ASCII, those whose upper case has
    several characters, and those of the runs. -/
def smallLetters : List Nat :=
  List.range' 0x61 26 ++ upperSpecials.map (·.1) ++ upperRuns.flatMap CaseRun.covered

/-- The code points that the upper-case map gives where a rule or a run applies, and the first one
    of all, which a number gives that is no code point. -/
def raised : List Nat :=
  0 :: (((List.range 128).map fun n => (Char.ofNat n).toUpper.toNat) ++
    (upperSpecials.flatMap (·.2) ++ upperRuns.flatMap CaseRun.images))

/-- Nothing that the map gives is a small letter. -/
theorem raised_apart : bits raised &&& bits smallLetters = 0 := by decide +kernel

/-- **An upper case is no small letter**, each character of it. -/
theorem notMem_smallLetters_of_mem_upperChar {c d : Char} (mem : d ∈ upperChar c) :
    d.toNat ∉ smallLetters := by
  by_cases ascii : c.toNat < 128
  · rw [upperChar, if_pos ascii, List.mem_singleton] at mem
    have image := List.mem_map_of_mem (f := fun n => (Char.ofNat n).toUpper.toNat)
      (List.mem_range.mpr ascii)
    rw [Char.ofNat_toNat, ← mem] at image
    exact notMem_of_bits raised_apart (List.mem_cons_of_mem _ (List.mem_append_left _ image))
  -- beyond ASCII, what stands in the tables gives a character of its own
  have listed {n : Nat}
      (mem : n ∈ upperSpecials.flatMap (·.2) ++ upperRuns.flatMap CaseRun.images) :
      (Char.ofNat n).toNat ∉ smallLetters :=
    notMem_of_bits raised_apart
      (toNat_ofNat_mem List.mem_cons_self (List.mem_cons_of_mem _ (List.mem_append_right _ mem)))
  rw [upperChar, if_neg ascii] at mem
  split at mem
  case h_1 e special =>
    obtain ⟨n, member, rfl⟩ := List.mem_map.mp mem
    have entry := List.mem_of_find?_eq_some special
    exact listed (List.mem_append_left _ (List.mem_flatMap.mpr ⟨e, entry, member⟩))
  case h_2 plain =>
    rw [List.mem_singleton] at mem
    rcases mapRuns_cases upperRuns c with ⟨m, image, given⟩ | ⟨missed, still⟩
    · rw [mem, given]
      exact listed (List.mem_append_right _ image)
    · have single : c.toNat ∉ upperSpecials.map (·.1) := by
        intro here
        obtain ⟨e, entry, same⟩ := List.mem_map.mp here
        exact List.find?_eq_none.mp plain e entry (beq_iff_eq.mpr same)
      rw [mem, still]
      simp only [smallLetters, List.mem_append, List.mem_range'_1, not_or]
      exact ⟨⟨by omega, single⟩, missed⟩

/-- A character that is no small letter is its own upper case. -/
theorem upperChar_of_notMem {c : Char} (h : c.toNat ∉ smallLetters) : upperChar c = [c] := by
  simp only [smallLetters, List.mem_append, not_or] at h
  obtain ⟨⟨letter, single⟩, missed⟩ := h
  by_cases ascii : c.toNat < 128
  · have same := forall_ascii (P := fun c => c.toNat ∉ List.range' 0x61 26 → c.toUpper = c)
      (by decide) ascii letter
    rw [upperChar, if_pos ascii, same]
  · have plain : (upperSpecials.find? fun e => e.1 == c.toNat) = none := by
      refine List.find?_eq_none.mpr fun e entry same => single ?_
      exact List.mem_map.mpr ⟨e, entry, eq_of_beq same⟩
    rw [upperChar, if_neg ascii, plain, mapRuns_of_notMem missed]

theorem flatMap_upperChar_of_notMem {s : List Char} (h : ∀ c ∈ s, c.toNat ∉ smallLetters) :
    s.flatMap upperChar = s := by
  induction s with
  | nil => rfl
  | cons c rest ih =>
    rw [List.flatMap_cons, upperChar_of_notMem (h c List.mem_cons_self),
      ih fun d mem => h d (List.mem_cons_of_mem c mem), List.singleton_append]

/-- **Upper case is there to stay**: putting a text into upper case twice is doing it once. -/
theorem upper_upper (s : String) : upper (upper s) = upper s := by
  have still : ∀ d ∈ s.toList.flatMap upperChar, d.toNat ∉ smallLetters := by
    intro d mem
    obtain ⟨c, -, here⟩ := List.mem_flatMap.mp mem
    exact notMem_smallLetters_of_mem_upperChar here
  rw [upper, upper, String.toList_ofList, flatMap_upperChar_of_notMem still]

end SqlRunner.Text
