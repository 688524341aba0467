import SqlRunner.Marker

/-!
# Signs — SQL read once, from left to right

Respelling cuts SQL into pieces, and to find a literal it looks far ahead: pairs of quotes are
passed over, a lone quote closes, and where none does the reading goes back to the last pair
(`Marker.literalLength?`). There is a definition of the same thing that never goes back. Read
character by character, a quote opens a literal if there is another one like it anywhere behind it,
the next one like it closes the literal, and a doubled quote is no more than a literal that is
closed and another that is opened. A quote without another like it behind it is an ordinary
character. `Sign.read` is that reading, and its result are the characters of the SQL, of which the
question marks outside of literals are told apart.

`Sign.spell` writes signs in a driver's style. The two together are respelling
(`respell_eq_spell`); what a driver makes of its parameters is then a matter of counting signs.
-/

set_option autoImplicit false

namespace SqlRunner

/-- A character of SQL, as far as parameters are concerned. -/
inductive Sign where
  /-- A question mark outside of literals: the place of a parameter. -/
  | marker
  | char (c : Char)
deriving DecidableEq, Repr

namespace Sign

/-- The character that a sign was read from. -/
def toChar : Sign → Char
  | marker => '?'
  | char c => c

/-- What a character outside of literals is. -/
def ofChar (c : Char) : Sign := if c = '?' then marker else char c

/-- Whether a character may open a literal. -/
def isQuote (c : Char) : Bool := c == '\'' || c == '"'

/-- The signs of a text, read outside of literals or within one that the given quote closes. -/
def read : Option Char → List Char → List Sign
  | _, [] => []
  | some quote, c :: rest => char c :: read (if c = quote then none else some quote) rest
  | none, c :: rest =>
    if isQuote c ∧ c ∈ rest then char c :: read (some c) rest else ofChar c :: read none rest

/-- The signs of SQL. -/
def ofSql (sql : String) : List Sign := read none sql.toList

/-- A character as a style writes it. -/
def written (style : MarkerStyle) (c : Char) : List Char :=
  if style.isPercent ∧ c = '%' then ['%', '%'] else [c]

/-- The name under which the parameter of the `k`-th marker is found, where markers are named. -/
def key (k : Nat) : String := "p" ++ toString k

/-- The `k`-th marker of a style, counted from one. A style that is not known has none. -/
def marking : MarkerStyle → Nat → Option String
  | .question, _ => some "?"
  | .format, _ | .extendedFormat, _ => some "%s"
  | .numeric, k => some (":" ++ toString k)
  | .named, k => some (":" ++ key k)
  | .other _, _ => none

/-- Signs in a style, each question mark as the style's next marker; `k` markers came before. -/
def spell (style : MarkerStyle) : Nat → List Sign → Option (List Char)
  | _, [] => some []
  | k, char c :: rest => (spell style k rest).map (written style c ++ ·)
  | k, marker :: rest => do
    let here ← marking style (k + 1)
    (spell style (k + 1) rest).map (here.toList ++ ·)

/-! ## Reading -/

@[simp] theorem toChar_ofChar (c : Char) : (ofChar c).toChar = c := by
  rw [ofChar]
  split
  case isTrue h => exact h.symm
  case isFalse => rfl

theorem ofChar_of_isQuote {c : Char} (h : isQuote c = true) : ofChar c = char c := by
  rw [ofChar, if_neg]
  rintro rfl
  exact absurd h (by decide)

/-- Reading changes nothing: the characters of the signs are those of the text. -/
theorem map_toChar_read (text : List Char) (state : Option Char) :
    (read state text).map toChar = text := by
  induction text generalizing state with
  | nil => cases state <;> rfl
  | cons c rest ih =>
    cases state with
    | some quote => rw [read, List.map_cons, ih, toChar]
    | none =>
      rw [read]
      split
      case isTrue => rw [List.map_cons, ih, toChar]
      case isFalse => rw [List.map_cons, ih, toChar_ofChar]

theorem map_toChar_ofSql (sql : String) : (ofSql sql).map toChar = sql.toList :=
  map_toChar_read sql.toList none

end Sign

namespace Marker

/-! ## Literals -/

/-- A literal is closed as soon as there is a quote like the one that opened it. -/
theorem literalLength?_eq_none_iff (quote : Char) (text : List Char) :
    literalLength? quote text = none ↔ quote ∉ text := by
  fun_induction literalLength? quote text with
  | case1 => simp
  | case2 c same => simp_all
  | case3 c other => simpa using Ne.symm (by simpa using other)
  | case4 c d rest same pair n found ih => simp_all
  | case5 c d rest same pair missing ih => simp_all
  | case6 c d rest same lone => simp_all
  | case7 c d rest other ih =>
    have differ : quote ≠ c := fun h => other (by simp [h])
    rw [Option.map_eq_none_iff, ih, List.mem_cons (b := c), not_or]
    exact (and_iff_right differ).symm

theorem mem_of_literalLength? {quote : Char} {text : List Char} {n : Nat}
    (h : literalLength? quote text = some n) : quote ∈ text := by
  refine Decidable.of_not_not fun absent => ?_
  rw [(literalLength?_eq_none_iff quote text).mpr absent] at h
  cases h

/-- **A literal is read as one goes.** However far ahead its end was looked for, all of it is read
    as the characters it consists of, and reading is outside of literals at its end: within, a pair
    of quotes closes one literal and opens the next. -/
theorem read_literal {quote : Char} (hq : Sign.isQuote quote = true) {text : List Char} {n : Nat}
    (h : literalLength? quote text = some n) :
    Sign.read (some quote) text =
      (text.take n).map .char ++ Sign.read none (text.drop n) := by
  fun_induction literalLength? quote text generalizing n with
  | case1 => cases h
  | case2 c same =>
    cases h
    simp [Sign.read, eq_of_beq same]
  | case3 c other => cases h
  | case4 c d rest same pair m found ih =>
    cases h
    have more : quote ∈ rest := mem_of_literalLength? found
    rw [eq_of_beq same, eq_of_beq pair, Sign.read, if_pos rfl, Sign.read, if_pos ⟨hq, more⟩,
      ih found]
    rfl
  | case5 c d rest same pair missing ih =>
    cases h
    rw [eq_of_beq same, Sign.read, if_pos rfl]
    rfl
  | case6 c d rest same lone =>
    cases h
    rw [eq_of_beq same, Sign.read, if_pos rfl]
    rfl
  | case7 c d rest other ih =>
    obtain ⟨m, found, rfl⟩ := Option.map_eq_some_iff.mp h
    have differ : c ≠ quote := fun same => other (by simp [same])
    rw [Sign.read, if_neg differ, ih found]
    rfl

/-! ## Pieces and signs -/

/-- The signs that a piece consists of. -/
def Piece.signs : Piece → List Sign
  | literal text => text.map .char
  | marker => [.marker]
  | percent => [.char '%']
  | plain c => [.char c]

theorem signs_pieceOf (c : Char) : (pieceOf c).signs = [Sign.ofChar c] := by
  rw [pieceOf, Sign.ofChar]
  by_cases question : c = '?'
  · simp [question, Piece.signs]
  · by_cases percent : c = '%'
    · simp [percent, Piece.signs]
    · simp [question, percent, Piece.signs]

/-- **Cutting into pieces is reading**: the signs of the pieces are the signs of the text, without
    the characters that still belong to the last literal. -/
theorem signs_piecesFrom (text : List Char) (skip : Nat) :
    (piecesFrom skip text).flatMap Piece.signs = Sign.read none (text.drop skip) := by
  induction text generalizing skip with
  | nil => cases skip <;> rfl
  | cons c rest ih =>
    cases skip with
    | succ skip => exact ih skip
    | zero =>
      rw [piecesFrom, List.drop_zero, Sign.read, ← Sign.isQuote]
      cases quote : Sign.isQuote c with
      | true =>
        rw [if_pos rfl]
        cases found : literalLength? c rest with
        | some n =>
          rw [if_pos ⟨rfl, mem_of_literalLength? found⟩, read_literal quote found, ← ih n]
          rfl
        | none =>
          have last : c ∉ rest := (literalLength?_eq_none_iff c rest).mp found
          rw [if_neg fun opens => last opens.2, Sign.ofChar_of_isQuote quote]
          exact congrArg (Sign.char c :: ·) (ih 0)
      | false =>
        rw [if_neg Bool.false_ne_true, if_neg fun opens => Bool.false_ne_true opens.1,
          List.flatMap_cons, signs_pieceOf]
        exact congrArg (Sign.ofChar c :: ·) (ih 0)

/-- A percent sign is never taken for a plain character. -/
theorem ne_percent_of_plain_mem {c : Char} (text : List Char) (skip : Nat)
    (h : Piece.plain c ∈ piecesFrom skip text) : c ≠ '%' := by
  fun_induction piecesFrom skip text with
  | case1 => cases h
  | case2 skip d rest ih => exact ih h
  | case3 d rest quote n found ih =>
    rcases List.mem_cons.mp h with here | later
    · cases here
    · exact ih later
  | case4 d rest quote missing ih =>
    rcases List.mem_cons.mp h with here | later
    · cases here
      rintro rfl
      exact absurd quote (by decide)
    · exact ih later
  | case5 d rest other ih =>
    rcases List.mem_cons.mp h with here | later
    · rw [pieceOf] at here
      split at here
      · cases here
      · split at here
        · cases here
        · cases here
          simp_all
    · exact ih later

/-! ## Writing -/

theorem written_literal (style : MarkerStyle) (text : List Char) :
    (if style.isPercent then doublePercents text else text) =
      text.flatMap (Sign.written style) := by
  induction text with
  | nil => cases style.isPercent <;> rfl
  | cons c rest ih =>
    rw [List.flatMap_cons, ← ih, Sign.written]
    cases style.isPercent with
    | false => simp
    | true => simp [doublePercents]

/-- Characters are written one by one, and the markers behind them are counted as before. -/
theorem spell_chars (style : MarkerStyle) (text : List Char) (k : Nat) (rest : List Sign) :
    Sign.spell style k (text.map .char ++ rest) =
      (Sign.spell style k rest).map (text.flatMap (Sign.written style) ++ ·) := by
  induction text with
  | nil => simp
  | cons c others ih =>
    rw [List.map_cons, List.cons_append, Sign.spell, ih, Option.map_map]
    simp [Function.comp_def]

/-- What is made of a spelling, which only a style without markers does not have. -/
def spelled {α : Type} (style : MarkerStyle) (spelling : Option α) : Except Fault α :=
  spelling.elim (.error (.unsupportedMarkers style.name)) .ok

theorem spelled_map {α β : Type} (style : MarkerStyle) (spelling : Option α) (f : α → β) :
    spelled style (spelling.map f) = (spelled style spelling).map f := by
  cases spelling with
  | none => rfl
  | some text => rfl

/-- The model's markers are those that a style is known by. -/
theorem marker_eq_marking (style : MarkerStyle) (k : Nat) :
    style.marker k = spelled style ((Sign.marking style k).map String.toList) := by
  cases style with
  | numeric =>
    rw [Sign.marking, Option.map_some, String.toList_append]
    rfl
  | named =>
    rw [Sign.marking, Sign.key, Option.map_some, String.toList_append, String.toList_append]
    rfl
  | _ => rfl

/-- **Writing pieces is spelling their signs**, as long as no percent sign was overlooked. -/
theorem writeFrom_eq_spell (style : MarkerStyle) (parts : List Piece)
    (plain : ∀ c, Piece.plain c ∈ parts → c ≠ '%') (k : Nat) :
    writeFrom style k parts = spelled style (Sign.spell style k (parts.flatMap Piece.signs)) := by
  induction parts generalizing k with
  | nil => rfl
  | cons piece rest ih =>
    have others := ih fun c hc => plain c (List.mem_cons_of_mem piece hc)
    rw [List.flatMap_cons]
    cases piece with
    | literal text =>
      rw [writeFrom, Piece.signs, spell_chars, written_literal, others, spelled_map]
      rfl
    | percent =>
      have here : (if style.isPercent then ['%', '%'] else ['%']) = Sign.written style '%' := by
        simp [Sign.written]
      rw [writeFrom, others, here, Piece.signs, List.singleton_append, Sign.spell, spelled_map]
      rfl
    | plain c =>
      have here : Sign.written style c = [c] :=
        if_neg fun doubled => plain c List.mem_cons_self doubled.2
      rw [writeFrom, others, Piece.signs, List.singleton_append, Sign.spell, here, spelled_map]
      rfl
    | marker =>
      rw [writeFrom, others, Piece.signs, List.singleton_append, Sign.spell, marker_eq_marking]
      cases Sign.marking style (k + 1) with
      | none => rfl
      | some here => exact (spelled_map style _ (here.toList ++ ·)).symm

/-- Question marks are written as what they were read from. -/
theorem spell_question (signs : List Sign) (k : Nat) :
    Sign.spell .question k signs = some (signs.map Sign.toChar) := by
  induction signs generalizing k with
  | nil => rfl
  | cons sign rest ih =>
    cases sign with
    | marker => rw [Sign.spell, ih]; rfl
    | char c => rw [Sign.spell, ih]; rfl

/-- **Respelling is reading once and writing in the style.** -/
theorem respell_eq_spell (sql : String) (style : MarkerStyle) :
    respell sql style =
      spelled style ((Sign.spell style 0 (Sign.ofSql sql)).map String.ofList) := by
  rw [respell]
  split
  case isTrue question =>
    rw [eq_of_beq question, spell_question, Sign.map_toChar_ofSql]
    exact congrArg Except.ok String.ofList_toList.symm
  case isFalse =>
    rw [pieces, writeFrom_eq_spell style _ fun c => ne_percent_of_plain_mem sql.toList 0,
      signs_piecesFrom, spelled_map]
    rfl

/-! ## What cannot be written -/

/-- **The one thing that cannot be written** is a marker in a style without markers. -/
theorem spell_eq_none_iff (style : MarkerStyle) (signs : List Sign) (k : Nat) :
    Sign.spell style k signs = none ↔ (∃ name, style = .other name) ∧ .marker ∈ signs := by
  induction signs generalizing k with
  | nil => simp [Sign.spell]
  | cons sign rest ih =>
    cases sign with
    | char c =>
      rw [Sign.spell, Option.map_eq_none_iff, ih, List.mem_cons]
      simp
    | marker =>
      rw [Sign.spell]
      cases style with
      | other name => simp [Sign.marking]
      | _ => simp [Sign.marking, ih]

end Marker

end SqlRunner
