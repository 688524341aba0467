import SqlRunner.CallTarget
import SqlRunner.Proofs.Blanks

/-!
# Call forms — the texts that a procedure may be called for

A call is read from left to right, and what may be missing is skipped where it is not there
(`CallTarget.parts?`). The grammar behind that is a `CallForm`: a call taken apart, with the blanks
between its parts and a note of which of the optional ones there are. `CallForm.text` puts the parts
together again, without looking at anything.

This file is about the parts, and about each kind of part it says two things. What is skipped or
counted is a part of that kind (`exists_skipOptional`, `exists_counted` and their like). And where
there is such a part it is skipped or counted as a whole (`skipOptional_sign`, `countMore_text`),
because blanks end where a sign or a letter begins, and no sign is followed by another of its kind.
-/

set_option autoImplicit false

namespace SqlRunner

open Text

/-- Blanks, or nothing at all. -/
abbrev Blanks := { s : List Char // isAllBlank s = true }

namespace CallTarget

/-- An optional sign. -/
def sign (c : Char) (present : Bool) : List Char := if present then [c] else []

/-- A marker among the arguments of a call, with the blanks around it. -/
structure MarkerForm where
  before : Blanks
  behind : Blanks

def MarkerForm.text (m : MarkerForm) : List Char := m.before ++ '?' :: m.behind

/-- Markers that others come before, each behind a comma. -/
def moreText (others : List MarkerForm) : List Char := others.flatMap fun m => ',' :: m.text

/-- What a call has for arguments. -/
inductive ArgumentForm where
  /-- No parentheses. -/
  | absent
  /-- Parentheses with nothing in them. -/
  | empty (blanks : Blanks)
  /-- Parentheses with markers in them, at least one. -/
  | markers (first : MarkerForm) (others : List MarkerForm)

namespace ArgumentForm

/-- What stands between the parentheses. -/
def inner : ArgumentForm → List Char
  | absent => []
  | empty blanks => blanks
  | markers first others => first.text ++ moreText others

def text (a : ArgumentForm) : List Char :=
  match a with
  | absent => []
  | empty _ | markers _ _ => '(' :: a.inner ++ [')']

/-- The number of markers. -/
def count : ArgumentForm → Nat
  | absent | empty _ => 0
  | markers _ others => others.length + 1

theorem absent_or_parenthesized (a : ArgumentForm) :
    a = absent ∨ a.text = '(' :: a.inner ++ [')'] := by
  cases a with
  | absent => exact .inl rfl
  | _ => exact .inr rfl

end ArgumentForm

/-- The marker that a call gives its result to, with an equals sign: the blanks behind either. -/
abbrev ResultForm := Option (Blanks × Blanks)

def resultText : ResultForm → List Char
  | none => []
  | some (behindMarker, behindSign) => '?' :: behindMarker ++ '=' :: behindSign

/-- What may come before the word of a call. -/
structure OpeningForm where
  before : Blanks
  braced : Bool
  behind : Blanks
  result : ResultForm

def OpeningForm.text (o : OpeningForm) : List Char :=
  o.before ++ sign '\x7b' o.braced ++ o.behind ++ resultText o.result

/-- What may come behind the arguments of a call. -/
structure EndingForm where
  before : Blanks
  braced : Bool
  behind : Blanks
  ended : Bool
  last : Blanks

def EndingForm.text (e : EndingForm) : List Char :=
  e.before ++ sign '\x7d' e.braced ++ e.behind ++ sign ';' e.ended ++ e.last

/-- The text of a call in its parts. -/
structure CallForm where
  opening : OpeningForm
  /-- The word `call`, in any case. -/
  word : List Char
  spelled : word.map Char.toLower = "call".toList
  gap : Blanks
  apart : gap.val ≠ []
  name : List Char
  named : name ≠ [] ∧ ∀ c ∈ name, isWordChar c = true ∨ c = '.' ∨ c = '$' ∨ c = '"'
  behind : Blanks
  arguments : ArgumentForm
  ending : EndingForm

/-- What stands before the name of a call. -/
def CallForm.lead (form : CallForm) : List Char := form.opening.text ++ form.word ++ form.gap

/-- What stands behind the name of a call. -/
def CallForm.tail (form : CallForm) : List Char :=
  form.behind ++ form.arguments.text ++ form.ending.text

def CallForm.text (form : CallForm) : List Char := form.lead ++ form.name ++ form.tail

/-! ## Blanks -/

theorem isBlank_of_mem (blanks : Blanks) {c : Char} (mem : c ∈ blanks.val) : isBlank c = true :=
  List.all_eq_true.mp blanks.property c mem

theorem notMem_blanks (blanks : Blanks) {c : Char} (solid : isBlank c = false) :
    c ∉ blanks.val := by
  intro mem
  rw [isBlank_of_mem blanks mem] at solid
  cases solid

/-- In blanks and signs there is no character that is neither. -/
theorem notMem_of_solid {s signs : List Char}
    (within : ∀ {c : Char}, c ∈ s → isBlank c = true ∨ c ∈ signs) {c : Char}
    (solid : isBlank c = false) (other : c ∉ signs) : c ∉ s := by
  intro mem
  rcases within mem with blank | sign
  · rw [solid] at blank
    cases blank
  · exact other sign

theorem exists_blanks (s : List Char) : ∃ blanks : Blanks, s = blanks ++ dropBlanks s :=
  ⟨⟨leadingBlanks s, List.all_takeWhile⟩, List.takeWhile_append_dropWhile.symm⟩

theorem dropBlanks_blanks_append (blanks : Blanks) (s : List Char) :
    dropBlanks (blanks ++ s) = dropBlanks s :=
  dropBlanks_append blanks.property s

theorem dropBlanks_cons {c : Char} (solid : isBlank c = false) (s : List Char) :
    dropBlanks (c :: s) = c :: s :=
  dropBlanks_of_head? rfl solid

theorem dropBlanks_dropBlanks (s : List Char) : dropBlanks (dropBlanks s) = dropBlanks s :=
  List.dropWhile_idempotent isBlank s

theorem dropBlanks_blanks (blanks : Blanks) : dropBlanks blanks.val = [] :=
  List.dropWhile_eq_nil_iff.mpr (List.all_eq_true.mp blanks.property)

/-! ## Optional parts -/

theorem eq_of_mem_sign {c d : Char} {present : Bool} (mem : c ∈ sign d present) : c = d := by
  cases present with
  | true => exact List.mem_singleton.mp mem
  | false => cases mem

theorem exists_skipOptional (c : Char) (s : List Char) :
    ∃ present, ∃ blanks : Blanks, s = sign c present ++ blanks ++ skipOptional c s := by
  cases s with
  | nil => exact ⟨false, ⟨[], rfl⟩, rfl⟩
  | cons d rest =>
    rw [skipOptional]
    split
    case isTrue same =>
      obtain ⟨blanks, split⟩ := exists_blanks rest
      exact ⟨true, blanks, by rw [eq_of_beq same]; exact congrArg (c :: ·) split⟩
    case isFalse => exact ⟨false, ⟨[], rfl⟩, rfl⟩

theorem skipOptional_of_head? {c : Char} {s : List Char} (other : s.head? ≠ some c) :
    skipOptional c s = s := by
  cases s with
  | nil => rfl
  | cons d rest =>
    rw [skipOptional, if_neg]
    intro same
    exact other (congrArg some (eq_of_beq same))

/-- **An optional sign is skipped** if it is there, with the blanks around it, and what is behind it
    does not start with another. -/
theorem skipOptional_sign {c : Char} (solid : isBlank c = false) (before : Blanks)
    (present : Bool) (behind : Blanks) {rest : List Char}
    (other : (dropBlanks rest).head? ≠ some c) :
    skipOptional c (dropBlanks (before ++ sign c present ++ behind ++ rest)) =
      dropBlanks rest := by
  rw [List.append_assoc, List.append_assoc, dropBlanks_blanks_append]
  cases present with
  | true =>
    show skipOptional c (dropBlanks (c :: (behind ++ rest))) = _
    rw [dropBlanks_cons solid, skipOptional, if_pos (beq_self_eq_true c),
      dropBlanks_blanks_append]
  | false =>
    show skipOptional c (dropBlanks (behind ++ rest)) = _
    rw [dropBlanks_blanks_append, skipOptional_of_head? other]

theorem exists_skipResult (s : List Char) : ∃ result, s = resultText result ++ skipResult s := by
  unfold skipResult
  split
  case h_1 rest =>
    split
    case h_1 behind sign =>
      obtain ⟨first, split⟩ := exists_blanks rest
      obtain ⟨second, split'⟩ := exists_blanks behind
      refine ⟨some (first, second), ?_⟩
      rw [resultText, List.append_assoc, List.cons_append, List.cons_append, ← split', ← sign,
        ← split]
    case h_2 => exact ⟨none, rfl⟩
  case h_2 => exact ⟨none, rfl⟩

/-- **The marker of a result is skipped** if it is there, and what is behind it starts with
    something else. -/
theorem skipResult_text (result : ResultForm) {c : Char} {rest : List Char}
    (solid : isBlank c = false) (other : c ≠ '?') :
    skipResult (resultText result ++ c :: rest) = c :: rest := by
  cases result with
  | some blanks =>
    obtain ⟨behindMarker, behindSign⟩ := blanks
    have found : dropBlanks (behindMarker.val ++ '=' :: (behindSign.val ++ c :: rest)) =
        '=' :: (behindSign.val ++ c :: rest) := by
      rw [dropBlanks_blanks_append, dropBlanks_cons (by decide)]
    rw [resultText, List.append_assoc, List.cons_append, List.cons_append, skipResult, found]
    show dropBlanks (behindSign.val ++ c :: rest) = _
    rw [dropBlanks_blanks_append, dropBlanks_cons solid]
  | none =>
    show skipResult (c :: rest) = _
    unfold skipResult
    split
    case h_1 same => exact absurd (List.cons_eq_cons.mp same).1 other
    case h_2 => rfl

/-- **What closes a call** is what may come behind its arguments. -/
theorem isClosing_iff (s : List Char) : isClosing s = true ↔ ∃ e : EndingForm, e.text = s := by
  rw [isClosing, List.isEmpty_iff]
  constructor
  · intro closed
    obtain ⟨before, split⟩ := exists_blanks s
    obtain ⟨braced, behind, split'⟩ := exists_skipOptional '\x7d' (dropBlanks s)
    obtain ⟨ended, last, split''⟩ :=
      exists_skipOptional ';' (skipOptional '\x7d' (dropBlanks s))
    rw [closed, List.append_nil] at split''
    refine ⟨⟨before, braced, behind, ended, last⟩, ?_⟩
    rw [EndingForm.text, List.append_assoc _ (sign ';' ended), ← split'', List.append_assoc,
      List.append_assoc, ← List.append_assoc (sign _ _), ← split', ← split]
  · rintro ⟨⟨before, braced, behind, ended, last⟩, rfl⟩
    have rest : (dropBlanks (sign ';' ended ++ last)).head? ≠ some '\x7d' := by
      cases ended with
      | true =>
        show (dropBlanks (';' :: last.val)).head? ≠ _
        rw [dropBlanks_cons (by decide), List.head?_cons]
        decide
      | false =>
        show (dropBlanks last.val).head? ≠ _
        rw [dropBlanks_blanks]
        decide
    rw [EndingForm.text, List.append_assoc _ (sign ';' ended),
      skipOptional_sign (by decide) before braced behind rest]
    have left : (dropBlanks []).head? ≠ some ';' := by decide
    have done := skipOptional_sign (by decide) ⟨[], rfl⟩ ended last left
    rwa [List.append_nil] at done

theorem isClosing_dropBlanks (s : List Char) : isClosing (dropBlanks s) = isClosing s := by
  rw [isClosing, isClosing, dropBlanks_dropBlanks]

/-! ## Arguments -/

theorem countMore_blanks_append {blanks : List Char} (h : isAllBlank blanks = true)
    (s : List Char) : countMore (blanks ++ s) = countMore s ∧
      countMore.countAfterComma (blanks ++ s) = countMore.countAfterComma s := by
  induction blanks with
  | nil => exact ⟨rfl, rfl⟩
  | cons c rest ih =>
    rw [isAllBlank_cons, Bool.and_eq_true] at h
    rw [List.cons_append, countMore, countMore.countAfterComma, if_pos h.1, if_pos h.1]
    exact ih h.2

/-- What is counted are markers, be it that one may follow or that one has to. -/
theorem exists_counted (s : List Char) :
    (∀ n, countMore s = some n → ∃ blanks : Blanks, ∃ others, others.length = n ∧
      s = blanks ++ moreText others) ∧
    (∀ n, countMore.countAfterComma s = some n → ∃ first : MarkerForm, ∃ others,
      others.length + 1 = n ∧ s = first.text ++ moreText others) := by
  induction s with
  | nil =>
    constructor
    · intro n counted
      cases counted
      exact ⟨⟨[], rfl⟩, [], rfl, rfl⟩
    · intro n counted
      cases counted
  | cons c rest ih =>
    obtain ⟨more, next⟩ := ih
    rw [countMore, countMore.countAfterComma]
    cases blank : isBlank c with
    | true =>
      constructor
      · intro n counted
        obtain ⟨blanks, others, length, split⟩ := more n counted
        refine ⟨⟨c :: blanks, ?_⟩, others, length, by rw [split]; rfl⟩
        rw [isAllBlank_cons, blank, blanks.property]
        rfl
      · intro n counted
        obtain ⟨first, others, length, split⟩ := next n counted
        refine ⟨⟨⟨c :: first.before, ?_⟩, first.behind⟩, others, length, by rw [split]; rfl⟩
        rw [isAllBlank_cons, blank, first.before.property]
        rfl
    | false =>
      rw [if_neg Bool.false_ne_true, if_neg Bool.false_ne_true]
      constructor
      · intro n counted
        split at counted
        case isFalse => cases counted
        case isTrue comma =>
          obtain ⟨first, others, length, split⟩ := next n counted
          exact ⟨⟨[], rfl⟩, first :: others, length, by rw [split, eq_of_beq comma]; rfl⟩
      · intro n counted
        split at counted
        case isFalse => cases counted
        case isTrue marker =>
          obtain ⟨k, found, rfl⟩ := Option.map_eq_some_iff.mp counted
          obtain ⟨blanks, others, length, split⟩ := more k found
          refine ⟨⟨⟨[], rfl⟩, blanks⟩, others, congrArg (· + 1) length, ?_⟩
          rw [split, eq_of_beq marker]
          rfl

/-- All markers are counted. -/
theorem countMore_text (blanks : Blanks) (others : List MarkerForm) :
    countMore (blanks ++ moreText others) = some others.length := by
  rw [(countMore_blanks_append blanks.property _).1]
  induction others with
  | nil => rfl
  | cons m rest ih =>
    have split : moreText (m :: rest) =
        ',' :: (m.before ++ '?' :: (m.behind ++ moreText rest)) := by
      rw [moreText, List.flatMap_cons, MarkerForm.text, List.cons_append, List.append_assoc]
      rfl
    rw [split]
    show countMore.countAfterComma _ = _
    rw [(countMore_blanks_append m.before.property _).2]
    show (countMore _).map _ = _
    rw [(countMore_blanks_append m.behind.property _).1, ih]
    rfl

theorem markerCount?_inner (a : ArgumentForm) : markerCount? a.inner = some a.count := by
  cases a with
  | absent => rfl
  | empty blanks =>
    rw [ArgumentForm.inner, markerCount?, dropBlanks_blanks]
    rfl
  | markers first others =>
    rw [ArgumentForm.inner, MarkerForm.text, markerCount?, List.append_assoc,
      dropBlanks_blanks_append, List.cons_append, dropBlanks_cons (by decide)]
    show (countMore _).map _ = _
    rw [countMore_text]
    rfl

/-- **What is counted as arguments** is the inside of parentheses of a form. -/
theorem exists_of_markerCount? {s : List Char} {n : Nat} (h : markerCount? s = some n) :
    ∃ a : ArgumentForm, a.text = '(' :: s ++ [')'] ∧ a.inner = s ∧ a.count = n := by
  obtain ⟨blanks, split⟩ := exists_blanks s
  rw [markerCount?] at h
  split at h
  case h_1 none =>
    cases h
    rw [none, List.append_nil] at split
    exact ⟨.empty blanks, by rw [split]; rfl, split.symm, rfl⟩
  case h_2 rest marker =>
    obtain ⟨k, counted, rfl⟩ := Option.map_eq_some_iff.mp h
    obtain ⟨behind, others, length, split'⟩ := (exists_counted rest).1 k counted
    have parts : s = (MarkerForm.mk blanks behind).text ++ moreText others := by
      rw [split, marker, split', MarkerForm.text, List.append_assoc]
      rfl
    exact ⟨.markers ⟨blanks, behind⟩ others, by rw [parts]; rfl, parts.symm,
      congrArg (· + 1) length⟩
  case h_3 => cases h

theorem mem_moreText {others : List MarkerForm} {c : Char} (mem : c ∈ moreText others) :
    isBlank c = true ∨ c ∈ "?,".toList := by
  obtain ⟨m, -, mem⟩ := List.mem_flatMap.mp mem
  rcases List.mem_cons.mp mem with rfl | mem
  · exact .inr (by decide)
  rcases List.mem_append.mp mem with blank | mem
  · exact .inl (isBlank_of_mem m.before blank)
  rcases List.mem_cons.mp mem with rfl | blank
  · exact .inr (by decide)
  · exact .inl (isBlank_of_mem m.behind blank)

/-- There are markers, commas and blanks among the arguments, and nothing else. -/
theorem ArgumentForm.mem_inner (a : ArgumentForm) {c : Char} (mem : c ∈ a.inner) :
    isBlank c = true ∨ c ∈ "?,".toList := by
  cases a with
  | absent => cases mem
  | empty blanks => exact .inl (isBlank_of_mem blanks mem)
  | markers first others =>
    have all : moreText (first :: others) = ',' :: (first.text ++ moreText others) := by
      rw [moreText, List.flatMap_cons, List.cons_append]
      rfl
    exact mem_moreText (all ▸ List.mem_cons_of_mem ',' mem)

theorem ArgumentForm.mem_text (a : ArgumentForm) {c : Char} (mem : c ∈ a.text) :
    isBlank c = true ∨ c ∈ "(?,)".toList := by
  rcases a.absent_or_parenthesized with absent | parenthesized
  · rw [absent] at mem
    cases mem
  · rw [parenthesized, List.mem_append, List.mem_cons, List.mem_singleton] at mem
    rcases mem with (rfl | inside) | rfl
    · exact .inr (by decide)
    · exact (a.mem_inner inside).imp_right ((by decide : "?,".toList ⊆ "(?,)".toList) ·)
    · exact .inr (by decide)

/-! ## Parentheses -/

/-- Behind the arguments there are blanks, a brace and a semicolon, and nothing else. -/
theorem EndingForm.mem_text (e : EndingForm) {c : Char} (mem : c ∈ e.text) :
    isBlank c = true ∨ c ∈ "\x7d;".toList := by
  simp only [text, List.mem_append] at mem
  rcases mem with (((blank | brace) | blank) | semicolon) | blank
  · exact .inl (isBlank_of_mem e.before blank)
  · exact .inr (eq_of_mem_sign brace ▸ by decide)
  · exact .inl (isBlank_of_mem e.behind blank)
  · exact .inr (eq_of_mem_sign semicolon ▸ by decide)
  · exact .inl (isBlank_of_mem e.last blank)

theorem splitAtLastClose?_eq_none {s : List Char} (h : ')' ∉ s) : splitAtLastClose? s = none := by
  induction s with
  | nil => rfl
  | cons c rest ih =>
    rw [List.mem_cons, not_or] at h
    rw [splitAtLastClose?, ih h.2]
    exact if_neg fun same => h.1 (eq_of_beq same).symm

/-- The last parenthesis is found where none comes after it. -/
theorem splitAtLastClose?_append (before : List Char) {after : List Char} (h : ')' ∉ after) :
    splitAtLastClose? (before ++ ')' :: after) = some (before, after) := by
  induction before with
  | nil =>
    rw [List.nil_append, splitAtLastClose?, splitAtLastClose?_eq_none h]
    rfl
  | cons c rest ih => rw [List.cons_append, splitAtLastClose?, ih]

theorem eq_of_splitAtLastClose? {s before after : List Char}
    (h : splitAtLastClose? s = some (before, after)) : s = before ++ ')' :: after := by
  induction s generalizing before after with
  | nil => cases h
  | cons c rest ih =>
    rw [splitAtLastClose?] at h
    split at h
    case h_1 inner behind found =>
      cases h
      exact congrArg (c :: ·) (ih found)
    case h_2 =>
      split at h
      case isFalse => cases h
      case isTrue close =>
        cases h
        rw [eq_of_beq close]
        rfl

/-- **What is read behind the name** are arguments and what may close a call. -/
theorem exists_of_arguments? {s inner : List Char} {n : Nat} (h : arguments? s = some inner)
    (counted : markerCount? inner = some n) :
    ∃ (a : ArgumentForm) (e : EndingForm), s = a.text ++ e.text ∧ a.count = n := by
  unfold arguments? at h
  split at h
  case h_1 rest =>
    split at h
    case h_2 => cases h
    case h_1 before after found =>
      split at h
      case isFalse => cases h
      case isTrue closes =>
        cases h
        obtain ⟨a, text, -, count⟩ := exists_of_markerCount? counted
        obtain ⟨e, ending⟩ := (isClosing_iff after).mp closes
        refine ⟨a, e, ?_, count⟩
        rw [text, ending, eq_of_splitAtLastClose? found, List.cons_append, List.cons_append,
          List.append_assoc]
        rfl
  case h_2 =>
    split at h
    case isFalse => cases h
    case isTrue closes =>
      cases h
      cases counted
      obtain ⟨e, ending⟩ := (isClosing_iff s).mp closes
      exact ⟨.absent, e, ending.symm, rfl⟩

theorem arguments?_parenthesized (inner : List Char) (e : EndingForm) :
    arguments? ('(' :: inner ++ [')'] ++ e.text) = some inner := by
  have none : ')' ∉ e.text := notMem_of_solid e.mem_text (by decide) (by decide)
  rw [List.append_assoc, List.singleton_append, List.cons_append, arguments?,
    splitAtLastClose?_append inner none]
  exact if_pos ((isClosing_iff e.text).mpr ⟨e, rfl⟩)

/-- **Arguments are read** with whatever blanks there are before them. -/
theorem arguments?_text (behind : Blanks) (a : ArgumentForm) (e : EndingForm) :
    arguments? (dropBlanks (behind ++ a.text ++ e.text)) = some a.inner := by
  rw [List.append_assoc, dropBlanks_blanks_append]
  rcases a.absent_or_parenthesized with rfl | parenthesized
  · show arguments? (dropBlanks e.text) = _
    unfold arguments?
    split
    case h_1 rest opens =>
      -- what closes a call has no parenthesis to open
      have mem : '(' ∈ dropBlanks e.text := opens ▸ List.mem_cons_self
      exact absurd ((List.dropWhile_suffix isBlank).subset mem)
        (notMem_of_solid e.mem_text (by decide) (by decide))
    case h_2 =>
      rw [isClosing_dropBlanks]
      exact if_pos ((isClosing_iff e.text).mpr ⟨e, rfl⟩)
  · rw [← arguments?_parenthesized a.inner e, ← parenthesized]
    refine congrArg arguments? (dropBlanks_of_head? (c := '(') ?_ (by decide))
    rw [parenthesized]
    rfl

end CallTarget

end SqlRunner
