import SqlRunner.Proofs.CallForm

/-!
# The grammar of calls — what is called by name, and what never is

Both directions of the grammar are put together from its parts. Whatever is read as a call has a
form (`exists_of_parts?`), and the text of a form is read as its name and its arguments
(`parts?_text`): the word is told from the opening by its first letter, and the name ends at the
first character that names do not have. So a text is the text of forms with one name and one number
of markers only, though it may be the text of several.

What is no call can often be told from a few characters. `Foreign` lists the signs: a quote,
something other than markers behind a parenthesis, something behind a semicolon.
-/

set_option autoImplicit false

namespace SqlRunner.CallTarget

open Text

/-! ## The word and the name -/

/-- The letters of the word, as ranges of code points. -/
def callPoints : List (Nat × Nat) := [(0x61, 0x61), (0x63, 0x63), (0x6C, 0x6C)]

theorem callPoints_unlowered : Unlowered callPoints where
  runs := by decide +kernel
  dotted := by decide

theorem toLower_of_beyond {c : Char} (h : ¬ c.toNat < 128) : c.toLower = c := by
  refine dif_neg ?_
  rintro ⟨-, below⟩
  have : c.toNat ≤ 90 := UInt32.le_iff_toNat_le.mp below
  omega

/-- **The letters of the word have no kin** beyond ASCII. -/
theorem sameLetter_call_iff {c t : Char} (mem : c ∈ "call".toList) :
    sameLetter c t = true ↔ t.toLower = c := by
  have table : ∀ n ∈ "call".toList.map Char.toNat, hasCase n = true ∧ letterClass n = [n] ∧
      inRanges callPoints n = true ∧ n < 128 := by
    decide +kernel
  obtain ⟨cased, alone, point, small⟩ := table c.toNat (List.mem_map_of_mem mem)
  rw [sameLetter, samePoint, if_pos cased, alone, List.contains_iff_mem, List.mem_singleton,
    ← Char.toNat_inj]
  by_cases ascii : t.toNat < 128
  · have valid : t.toNat.isValidChar := t.valid
    rw [lowerPoint, if_pos valid, Char.ofNat_toNat, lowerChar, if_pos ascii]
    rfl
  · rw [toLower_of_beyond ascii]
    constructor
    · intro low
      have itself := callPoints_unlowered.lowerPoint_eq ascii (low ▸ point)
      rw [← itself, low]
    · intro same
      omega

theorem sameText_call_iff {word : List Char} (letters : ∀ c ∈ word, c ∈ "call".toList)
    (t : List Char) : sameText word t = true ↔ t.map Char.toLower = word := by
  induction word generalizing t with
  | nil => cases t <;> simp [sameText]
  | cons c rest ih =>
    cases t with
    | nil => simp [sameText]
    | cons d others =>
      rw [sameText, Bool.and_eq_true, sameLetter_call_iff (letters c List.mem_cons_self),
        ih fun e mem => letters e (List.mem_cons_of_mem c mem), List.map_cons, List.cons_eq_cons]

theorem startsCaseless_call_iff {s : List Char} :
    startsCaseless "call".toList s = true ↔
      ∃ word rest, s = word ++ rest ∧ word.map Char.toLower = "call".toList := by
  rw [startsCaseless_iff]
  simp only [sameText_call_iff (fun c mem => mem)]

theorem mem_letters_of_toLower {c : Char} (h : c.toLower ∈ "call".toList) :
    c ∈ "calCAL".toList := by
  by_cases ascii : c.toNat < 128
  · have table : ∀ n < 128, (Char.ofNat n).toLower ∈ "call".toList →
        Char.ofNat n ∈ "calCAL".toList := by
      decide +kernel
    have found := table c.toNat ascii
    rw [Char.ofNat_toNat] at found
    exact found h
  · rw [toLower_of_beyond ascii] at h
    exact (by decide : "call".toList ⊆ "calCAL".toList) h

theorem isNameChar_iff {c : Char} :
    isNameChar c = true ↔ isWordChar c = true ∨ c = '.' ∨ c = '$' ∨ c = '"' := by
  simp [isNameChar, or_assoc]

/-- There are no blanks in a name. -/
theorem isNameChar_of_isBlank {c : Char} (h : isBlank c = true) : isNameChar c = false := by
  have table : ∀ r ∈ blankRanges, ∀ n ∈ List.range' r.1 (r.2 + 1 - r.1),
      isNameChar (Char.ofNat n) = false := by
    decide +kernel
  rw [isBlank_eq_inRanges] at h
  obtain ⟨r, mem, within⟩ := List.any_eq_true.mp h
  rw [Bool.and_eq_true, decide_eq_true_eq, decide_eq_true_eq] at within
  have none := table r mem c.toNat (List.mem_range'_1.mpr (by omega))
  rwa [Char.ofNat_toNat] at none

theorem isBlank_of_isNameChar {c : Char} (h : isNameChar c = true) : isBlank c = false := by
  cases blank : isBlank c with
  | false => rfl
  | true =>
    rw [isNameChar_of_isBlank blank] at h
    cases h

namespace CallForm

variable (form : CallForm)

theorem isNameChar_of_mem_name {c : Char} (mem : c ∈ form.name) : isNameChar c = true :=
  isNameChar_iff.mpr (form.named.2 c mem)

/-- The word consists of letters. -/
theorem mem_letters_of_mem_word {c : Char} (mem : c ∈ form.word) : c ∈ "calCAL".toList :=
  mem_letters_of_toLower (form.spelled ▸ List.mem_map_of_mem mem)

/-- Behind the name there are blanks, arguments and signs, and nothing that a name could have. -/
theorem mem_tail {c : Char} (mem : c ∈ form.tail) :
    isBlank c = true ∨ c ∈ "(?,)\x7d;".toList := by
  have both {small : List Char} (h : small ⊆ "(?,)\x7d;".toList)
      (either : isBlank c = true ∨ c ∈ small) : isBlank c = true ∨ c ∈ "(?,)\x7d;".toList :=
    either.imp_right (h ·)
  rcases List.mem_append.mp mem with front | ending
  · rcases List.mem_append.mp front with blank | argument
    · exact .inl (isBlank_of_mem form.behind blank)
    · exact both (by decide) (form.arguments.mem_text argument)
  · exact both (by decide) (form.ending.mem_text ending)

theorem isNameChar_of_mem_tail {c : Char} (mem : c ∈ form.tail) : isNameChar c = false := by
  rcases form.mem_tail mem with blank | sign
  · exact isNameChar_of_isBlank blank
  · have table : ("(?,)\x7d;".toList.all fun c => !isNameChar c) = true := by decide +kernel
    simpa using List.all_eq_true.mp table c sign

/-- **The opening is skipped**, and all of it: the word starts with a letter. -/
theorem skipped_text : skipResult (skipOptional '\x7b' (dropBlanks form.text)) =
    form.word ++ (form.gap ++ (form.name ++ form.tail)) := by
  have letters := fun c => form.mem_letters_of_mem_word (c := c)
  obtain ⟨c, more, word⟩ : ∃ c more, form.word = c :: more := by
    refine List.exists_cons_of_ne_nil fun none => ?_
    have spelled := form.spelled
    rw [none] at spelled
    cases spelled
  have letter := letters c (word ▸ List.mem_cons_self)
  have solid : isBlank c = false := by
    have table : ("calCAL".toList.all fun c => !isBlank c) = true := by decide
    simpa using List.all_eq_true.mp table c letter
  have unmarked : c ≠ '?' := fun same => absurd (same ▸ letter) (by decide)
  have unbraced : c ≠ '\x7b' := fun same => absurd (same ▸ letter) (by decide)
  obtain ⟨⟨before, braced, behind, result⟩, opening⟩ : ∃ o, form.opening = o := ⟨_, rfl⟩
  have unskipped : dropBlanks (resultText result ++ (form.word ++ (form.gap ++ (form.name ++
      form.tail)))) = resultText result ++ (form.word ++ (form.gap ++ (form.name ++
      form.tail))) := by
    cases result with
    | none =>
      rw [word]
      exact dropBlanks_cons solid _
    | some blanks => exact dropBlanks_cons (by decide) _
  have head : (resultText result ++ (form.word ++ (form.gap ++ (form.name ++
      form.tail)))).head? ≠ some '\x7b' := by
    cases result with
    | none =>
      rw [word]
      exact fun same => unbraced (Option.some.inj same)
    | some blanks => exact fun same => absurd (Option.some.inj same) (by decide)
  have parts : form.text = before ++ sign '\x7b' braced ++ behind ++
      (resultText result ++ (form.word ++ (form.gap ++ (form.name ++ form.tail)))) := by
    rw [text, lead, opening, OpeningForm.text]
    simp only [List.append_assoc]
  rw [parts, skipOptional_sign (by decide) before braced behind (by rwa [unskipped]), unskipped,
    word]
  exact skipResult_text result solid unmarked

/-- **A call in its parts is read** as its name and what stands between its parentheses. -/
theorem parts?_text : parts? form.text = some (form.name, form.arguments.inner) := by
  have started : startsCaseless "call".toList
      (form.word ++ (form.gap ++ (form.name ++ form.tail))) = true :=
    startsCaseless_call_iff.mpr ⟨form.word, _, rfl, form.spelled⟩
  have four : form.word.length = 4 := by
    rw [← List.length_map Char.toLower, form.spelled]
    rfl
  obtain ⟨c, more, name⟩ := List.exists_cons_of_ne_nil form.named.1
  have solid : isBlank c = false :=
    isBlank_of_isNameChar (form.isNameChar_of_mem_name (name ▸ List.mem_cons_self))
  have gap : (leadingBlanks (form.gap ++ (form.name ++ form.tail))).isEmpty = false := by
    rw [leadingBlanks, List.takeWhile_append_of_pos (List.all_eq_true.mp form.gap.property)]
    simpa using fun none => absurd none form.apart
  have named : dropBlanks (form.gap ++ (form.name ++ form.tail)) = form.name ++ form.tail := by
    rw [dropBlanks_blanks_append, name]
    exact dropBlanks_cons solid _
  have ends : form.tail.takeWhile isNameChar = [] ∧
      form.tail.dropWhile isNameChar = form.tail := by
    cases h : form.tail with
    | nil => exact ⟨rfl, rfl⟩
    | cons d rest =>
      have outside := form.isNameChar_of_mem_tail (h ▸ List.mem_cons_self)
      exact ⟨List.takeWhile_cons_of_neg (by simp [outside]),
        List.dropWhile_cons_of_neg (by simp [outside])⟩
  have inside : ∀ d ∈ form.name, isNameChar d = true := fun d => form.isNameChar_of_mem_name
  have taken : (form.name ++ form.tail).takeWhile isNameChar = form.name := by
    rw [List.takeWhile_append_of_pos inside, ends.1, List.append_nil]
  have dropped : (form.name ++ form.tail).dropWhile isNameChar = form.tail := by
    rw [List.dropWhile_append_of_pos inside, ends.2]
  simp only [parts?, form.skipped_text, started, if_true, List.drop_left' four, named, taken,
    dropped, gap]
  rw [if_neg (by simp [name]), tail, arguments?_text]
  rfl

end CallForm

/-- What is skipped before the word is an opening. -/
theorem exists_opening (s : List Char) :
    ∃ o : OpeningForm, s = o.text ++ skipResult (skipOptional '\x7b' (dropBlanks s)) := by
  obtain ⟨before, blanks⟩ := exists_blanks s
  obtain ⟨braced, behind, brace⟩ := exists_skipOptional '\x7b' (dropBlanks s)
  obtain ⟨result, marker⟩ := exists_skipResult (skipOptional '\x7b' (dropBlanks s))
  refine ⟨⟨before, braced, behind, result⟩, ?_⟩
  rw [OpeningForm.text, List.append_assoc, ← marker, List.append_assoc, List.append_assoc,
    ← List.append_assoc (sign _ _), ← brace, ← blanks]

/-- **What is read as a call** is one: its parts are those that the reading went through. -/
theorem exists_of_parts? {s name inner : List Char} {n : Nat} (h : parts? s = some (name, inner))
    (counted : markerCount? inner = some n) :
    ∃ form : CallForm, form.text = s ∧ form.name = name ∧ form.arguments.count = n := by
  simp only [parts?] at h
  split at h
  case isFalse => cases h
  case isTrue started =>
    split at h
    case isTrue => cases h
    case isFalse occupied =>
      obtain ⟨_, read, same⟩ := Option.map_eq_some_iff.mp h
      cases same
      obtain ⟨opening, opened⟩ := exists_opening s
      obtain ⟨word, rest, split, spelled⟩ := startsCaseless_call_iff.mp started
      have four : word.length = 4 := by
        rw [← List.length_map Char.toLower, spelled]
        rfl
      rw [split, List.drop_left' four] at read occupied ⊢
      rw [Bool.or_eq_true, not_or, List.isEmpty_iff, List.isEmpty_iff] at occupied
      obtain ⟨a, e, text, count⟩ := exists_of_arguments? read counted
      obtain ⟨behind, spaced⟩ := exists_blanks ((dropBlanks rest).dropWhile isNameChar)
      let gap : Blanks := ⟨leadingBlanks rest, List.all_takeWhile⟩
      let form : CallForm :=
        { opening, word, spelled, gap, apart := occupied.1
          name := (dropBlanks rest).takeWhile isNameChar
          named := ⟨occupied.2, fun c mem => isNameChar_iff.mp (List.mem_takeWhile_imp mem)⟩
          behind, arguments := a, ending := e }
      have tail : form.tail = (dropBlanks rest).dropWhile isNameChar := by
        rw [spaced, text, ← List.append_assoc]
        rfl
      have body : gap ++ (form.name ++ form.tail) = rest := by
        rw [tail, List.takeWhile_append_dropWhile]
        exact List.takeWhile_append_dropWhile
      refine ⟨form, ?_, rfl, count⟩
      rw [opened, split, ← body]
      simp only [CallForm.text, CallForm.lead, List.append_assoc]
      rfl

/-! ## The texts of calls -/

/-- What no call has in it, whatever else it consists of. -/
inductive Foreign (s : List Char) : Prop where
  /-- A literal. -/
  | literal (quote : '\'' ∈ s)
  /-- Behind a parenthesis something that is no marker and closes nothing, such as a literal or
      another parenthesis. -/
  | argument (before after : List Char) (split : s = before ++ '(' :: after) (c : Char)
      (mem : c ∈ after) (solid : isBlank c = false) (other : c ∉ "?,)\x7d;".toList)
  /-- Behind a semicolon the start of another statement. -/
  | statement (before after : List Char) (split : s = before ++ ';' :: after)
      (more : isAllBlank after = false)

namespace CallForm

variable (form : CallForm)

/-- A text is a call with one name and one number of arguments. -/
theorem eq_of_text_eq {form other : CallForm} (same : form.text = other.text) :
    form.name = other.name ∧ form.arguments.count = other.arguments.count := by
  have parts := parts?_text form
  rw [same, parts?_text] at parts
  obtain ⟨name, inner⟩ := Prod.mk.inj (Option.some.inj parts)
  have count := markerCount?_inner form.arguments
  rw [← inner, markerCount?_inner] at count
  exact ⟨name.symm, (Option.some.inj count).symm⟩

/-- Before the name there are blanks, signs and the letters of the word. -/
theorem mem_lead {c : Char} (mem : c ∈ form.lead) :
    isBlank c = true ∨ c ∈ "\x7b?=calCAL".toList := by
  simp only [lead, OpeningForm.text, List.mem_append] at mem
  rcases mem with ((((blank | brace) | blank) | result) | letter) | blank
  · exact .inl (isBlank_of_mem _ blank)
  · exact .inr (eq_of_mem_sign brace ▸ by decide)
  · exact .inl (isBlank_of_mem _ blank)
  · revert result
    cases form.opening.result with
    | none => exact fun none => nomatch none
    | some between =>
      intro result
      simp only [resultText, List.mem_append, List.mem_cons] at result
      rcases result with (rfl | blank) | (rfl | blank)
      · exact .inr (by decide)
      · exact .inl (isBlank_of_mem _ blank)
      · exact .inr (by decide)
      · exact .inl (isBlank_of_mem _ blank)
  · exact .inr (List.mem_append_right "\x7b?=".toList (form.mem_letters_of_mem_word letter))
  · exact .inl (isBlank_of_mem _ blank)

theorem notMem_name {c : Char} (unnamed : isNameChar c = false) : c ∉ form.name := by
  intro mem
  rw [form.isNameChar_of_mem_name mem] at unnamed
  cases unnamed

/-- A sign that comes behind the name only. -/
theorem notMem_start {c : Char} (solid : isBlank c = false) (unnamed : isNameChar c = false)
    (other : c ∉ "\x7b?=calCAL".toList) : c ∉ form.lead ++ form.name ++ form.behind.val := by
  simp only [List.mem_append, not_or]
  exact ⟨⟨notMem_of_solid form.mem_lead solid other, form.notMem_name unnamed⟩,
    notMem_blanks form.behind solid⟩

/-- Behind its one opening parenthesis a call has the arguments and the ending. -/
theorem eq_of_split_open {before after : List Char} (split : form.text = before ++ '(' :: after) :
    after = form.arguments.inner ++ ')' :: form.ending.text := by
  have start : '(' ∉ form.lead ++ form.name ++ form.behind.val :=
    form.notMem_start (by decide) (by decide +kernel) (by decide)
  have ending : '(' ∉ form.ending.text :=
    notMem_of_solid form.ending.mem_text (by decide) (by decide)
  have inner : '(' ∉ form.arguments.inner :=
    notMem_of_solid form.arguments.mem_inner (by decide) (by decide)
  rcases form.arguments.absent_or_parenthesized with absent | parenthesized
  · have mem : '(' ∈ form.text := split ▸ List.mem_append_right _ List.mem_cons_self
    rw [text, tail, absent, ArgumentForm.text, List.append_nil, ← List.append_assoc,
      List.mem_append] at mem
    exact absurd mem (not_or.mpr ⟨start, ending⟩)
  · have parts : form.text = form.lead ++ form.name ++ form.behind ++
        '(' :: (form.arguments.inner ++ ')' :: form.ending.text) := by
      simp only [text, tail, parenthesized, List.append_assoc, List.cons_append, List.nil_append]
    have behind : '(' ∉ form.arguments.inner ++ ')' :: form.ending.text := by
      rw [List.mem_append, List.mem_cons, not_or, not_or]
      exact ⟨inner, by decide, ending⟩
    rw [parts] at split
    exact ((List.append_cons_inj_of_notMem start behind).mp split).2.2.symm

/-- Behind its one semicolon a call has blanks. -/
theorem eq_of_split_semicolon {before after : List Char}
    (split : form.text = before ++ ';' :: after) : after = form.ending.last := by
  obtain ⟨⟨gap, braced, behind, ended, last⟩, ending⟩ : ∃ e, form.ending = e := ⟨_, rfl⟩
  have front : ';' ∉ form.lead ++ form.name ++ form.behind ++ form.arguments.text ++
      (gap ++ sign '\x7d' braced ++ behind) := by
    have arguments : ';' ∉ form.arguments.text :=
      notMem_of_solid form.arguments.mem_text (by decide) (by decide)
    rw [List.mem_append, List.mem_append (s := form.lead ++ _ ++ _), not_or, not_or]
    refine ⟨⟨form.notMem_start (by decide) (by decide +kernel) (by decide), arguments⟩, ?_⟩
    simp only [List.mem_append, not_or]
    exact ⟨⟨notMem_blanks gap (by decide), fun mem => absurd (eq_of_mem_sign mem) (by decide)⟩,
      notMem_blanks behind (by decide)⟩
  have parts : form.text = form.lead ++ form.name ++ form.behind ++ form.arguments.text ++
      (gap ++ sign '\x7d' braced ++ behind) ++ (sign ';' ended ++ last) := by
    simp only [text, tail, ending, EndingForm.text, List.append_assoc]
  rw [ending]
  cases ended with
  | true =>
    rw [parts] at split
    exact ((List.append_cons_inj_of_notMem front (notMem_blanks last (by decide))).mp
      split).2.2.symm
  | false =>
    have mem : ';' ∈ form.text := split ▸ List.mem_append_right _ List.mem_cons_self
    rw [parts, List.mem_append] at mem
    exact absurd mem (not_or.mpr ⟨front, notMem_blanks last (by decide)⟩)

theorem not_foreign : ¬ Foreign form.text := by
  rintro (quote | ⟨before, after, split, c, mem, solid, other⟩ | ⟨before, after, split, more⟩)
  · simp only [text, List.mem_append] at quote
    rcases quote with (lead | name) | tail
    · exact notMem_of_solid form.mem_lead (by decide) (by decide) lead
    · exact form.notMem_name (by decide +kernel) name
    · exact notMem_of_solid form.mem_tail (by decide) (by decide) tail
  · have sub {small : List Char} (h : small ⊆ "?,)\x7d;".toList) : c ∉ small :=
      fun sign => other (h sign)
    rw [form.eq_of_split_open split, List.mem_append, List.mem_cons] at mem
    rcases mem with inside | rfl | ending
    · exact notMem_of_solid form.arguments.mem_inner solid (sub (by decide)) inside
    · exact other (by decide)
    · exact notMem_of_solid form.ending.mem_text solid (sub (by decide)) ending
  · rw [form.eq_of_split_semicolon split, form.ending.last.property] at more
    cases more

end CallForm

theorem target?_eq_some_iff (sql : String) (n : Nat) (name : String) :
    target? sql n = some name ↔ ∃ form : CallForm,
      form.text = sql.toList ∧ form.name = name.toList ∧ form.arguments.count = n := by
  constructor
  · intro found
    unfold target? at found
    split at found
    case h_1 => cases found
    case h_2 name' inner parts =>
      split at found
      case isFalse => cases found
      case isTrue counted =>
        obtain ⟨form, text, named, count⟩ := exists_of_parts? parts (eq_of_beq counted)
        refine ⟨form, text, ?_, count⟩
        rw [named, ← Option.some.inj found, String.toList_ofList]
  · rintro ⟨form, text, named, rfl⟩
    rw [target?, ← text, form.parts?_text]
    show (if _ then _ else _) = _
    rw [markerCount?_inner, if_pos (beq_self_eq_true _), named, String.ofList_toList]

/-- **A procedure is called by name exactly for calls in which nothing is given but markers**, one
    for each parameter, and the name is the one that stands there. Literals, parentheses in
    parentheses, a second statement or another number of markers: the text is no such call. -/
theorem target?_grammar (sql : String) (n : Nat) :
    (∀ name, target? sql n = some name ↔ ∃ form : CallForm,
      form.text = sql.toList ∧ form.name = name.toList ∧ form.arguments.count = n) ∧
    (Foreign sql.toList → target? sql n = none) ∧
    (∀ form : CallForm, form.text = sql.toList → form.arguments.count ≠ n →
      target? sql n = none) := by
  refine ⟨target?_eq_some_iff sql n, fun foreign => ?_, fun form text mismatch => ?_⟩
  all_goals
    rw [Option.eq_none_iff_forall_ne_some]
    intro name found
    obtain ⟨form', text', -, count⟩ := (target?_eq_some_iff sql n name).mp found
  · exact form'.not_foreign (text' ▸ foreign)
  · exact mismatch ((CallForm.eq_of_text_eq (text.trans text'.symm)).2.trans count)

example : target? "\x7b? = CALL pkg.f ( ?,\n? )\x7d ; " 2 = some "pkg.f" ∧
    target? "call f((?))" 1 = none := by
  decide +kernel

end SqlRunner.CallTarget
