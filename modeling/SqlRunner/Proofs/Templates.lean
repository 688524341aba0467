import SqlRunner.Pattern.Template
import SqlRunner.Proofs.Account

/-!
# Templates — when a template stands for itself

What is put in the place of a match is read as a template first, and there a backslash is the start
of an escape. A text that was not meant as a template comes out as it went in only if it has no
escapes (`Pattern.isLiteral`): a backslash stays what it is before a character that is neither a
letter nor a numeral nor a backslash. Anything else behind it is refused, or it is gone afterwards
together with the backslash.

That no other text comes out as it went in is a matter of length. An escape takes two characters at
least and gives one, and nothing makes up for that: no part of a template gives more than it takes,
but for a reference to the match. So what is filled in is as long as the template only if there was
no escape in it, or if it is as long as the match at least (`length_filled_readTemplate`). With a
match that is longer than the template the two are told apart (`filled_eq_self_iff`).
-/

set_option autoImplicit false

namespace SqlRunner.Pattern

variable {α β : Type}

/-! ## Texts that stand for themselves -/

/-- Whether a text has no backslash but before characters that need no escape: those other than
    letters, numerals and the backslash. -/
def isLiteral : List Char → Bool
  | [] => true
  | ['\\'] => false
  | '\\' :: c :: rest => !(c.isAlphanum || c == '\\') && isLiteral rest
  | _ :: rest => isLiteral rest

/-- Whether a template gives the token as it is written. -/
def Token.isLiteral : Token → Bool
  | plain _ => true
  | escaped c => !(c.isAlphanum || c == '\\')

theorem isLiteral_of_notMem {text : List Char} (h : '\\' ∉ text) : isLiteral text = true := by
  induction text with
  | nil => rfl
  | cons c rest ih =>
    rw [List.mem_cons, not_or] at h
    rw [isLiteral]
    · exact ih h.2
    · rintro rfl
      exact absurd rfl h.1
    · rintro c' rest' rfl
      exact absurd rfl h.1

/-- A text is its tokens, and the lone backslash behind them. -/
theorem tokensText_ofText (text : List Char) :
    tokensText (Token.ofText text).1 ++ (if (Token.ofText text).2 then ['\\'] else []) = text := by
  fun_induction Token.ofText text with
  | case1 => rfl
  | case2 => rfl
  | case3 c rest tokens dangling here ih =>
    rw [here] at ih
    exact congrArg ('\\' :: c :: ·) ih
  | case4 c rest _ _ tokens dangling here ih =>
    rw [here] at ih
    exact congrArg (c :: ·) ih

theorem isLiteral_iff (text : List Char) :
    isLiteral text = true ↔
      (Token.ofText text).2 = false ∧ ∀ token ∈ (Token.ofText text).1, token.isLiteral = true := by
  fun_induction Token.ofText text with
  | case1 => simp [isLiteral]
  | case2 => simp [isLiteral]
  | case3 c rest tokens dangling here ih =>
    rw [here] at ih
    rw [isLiteral, Bool.and_eq_true, ih, List.forall_mem_cons]
    exact and_left_comm
  | case4 c rest lone escape tokens dangling here ih =>
    rw [here] at ih
    rw [isLiteral, ih, List.forall_mem_cons]
    · exact ⟨fun h => ⟨h.1, rfl, h.2⟩, fun h => ⟨h.1, h.2.2⟩⟩
    · rintro rfl rfl
      exact lone rfl rfl
    · rintro c' rest' rfl rfl
      exact escape c' rest' rfl rfl

/-! ## Steps of a reader -/

/-- A step of reading that goes back nowhere, and what is known of its answer. -/
def Yields (s : Scan) (step : ScanM α) (holds : α → Prop) : Prop :=
  ∀ value s', step.run s = .ok (value, s') →
    (tokensText s'.tokens).length ≤ (tokensText s.tokens).length ∧ holds value

namespace Yields

variable {s : Scan} {step : ScanM α} {holds : α → Prop} {later : β → Prop}

theorem pure {value : α} (h : holds value) : Yields s (pure value) holds := by
  intro found s' run
  cases run
  exact ⟨Nat.le_refl _, h⟩

theorem bind {next : α → ScanM β} (first : Yields s step holds)
    (second : ∀ s' value, holds value → Yields s' (next value) later) :
    Yields s (step >>= next) later := by
  intro result s₂ run
  obtain ⟨⟨value, s₁⟩, here, rest⟩ := of_bind_eq_ok run
  obtain ⟨shorter, known⟩ := first value s₁ here
  obtain ⟨shorter', found⟩ := second s₁ value known result s₂ rest
  exact ⟨Nat.le_trans shorter' shorter, found⟩

theorem get_bind {next : Scan → ScanM β} (h : Yields s (next s) later) :
    Yields s (get >>= next) later := h

theorem set_bind {s' : Scan} {next : PUnit → ScanM β}
    (shorter : (tokensText s'.tokens).length ≤ (tokensText s.tokens).length)
    (h : Yields s' (next ⟨⟩) later) : Yields s (set s' >>= next) later :=
  fun result s₂ run => (h result s₂ run).imp_left (Nat.le_trans · shorter)

theorem fail (flaw : Flaw) (back : Nat) : Yields s (Scan.fail flaw back : ScanM α) holds := by
  intro value s' run
  cases run

theorem fail_bind (flaw : Flaw) (back : Nat) (next : α → ScanM β) :
    Yields s (Scan.fail flaw back >>= next) later :=
  (fail flaw back : Yields s _ fun _ => False).bind fun _ _ impossible => impossible.elim

end Yields

open Scan

theorem length_tokensText_drop_le (tokens : List Token) (n : Nat) :
    (tokensText (tokens.drop n)).length ≤ (tokensText tokens).length := by
  have all : tokensText tokens = tokensText (tokens.take n) ++ tokensText (tokens.drop n) := by
    rw [tokensText, tokensText, tokensText, ← List.flatMap_append, List.take_append_drop]
  rw [all, List.length_append]
  exact Nat.le_add_left _ _

section Steps

variable (s : Scan)

theorem checkDangling_yields : Yields s checkDangling fun _ => True := by
  refine .get_bind ?_
  split
  · intro value s' run
    cases run
  · exact .pure trivial

theorem next?_yields : Yields s next? fun _ => True := by
  refine .get_bind ?_
  split
  case h_1 => exact .pure trivial
  case h_2 token rest ahead =>
    refine .set_bind ?_ ((checkDangling_yields _).bind fun _ _ _ => .pure trivial)
    have shorter := length_tokensText_drop_le s.tokens 1
    rwa [ahead] at shorter ⊢

theorem peek?_yields : Yields s peek? fun _ => True := .get_bind (.pure trivial)

theorem accept_yields (c : Char) : Yields s (accept c) fun _ => True := by
  refine (peek?_yields s).bind fun s₁ _ _ => ?_
  split
  · exact (next?_yields s₁).bind fun _ _ _ => .pure trivial
  · exact .pure trivial

theorem takeWhile_yields (holds : Char → Bool) (count : Nat) :
    Yields s (Scan.takeWhile holds count) fun _ => True := by
  induction count generalizing s with
  | zero => exact .pure trivial
  | succ count ih =>
    refine (peek?_yields s).bind fun s₁ _ _ => ?_
    split
    case h_1 c =>
      split
      · exact (next?_yields s₁).bind fun s₂ _ _ => (ih s₂).bind fun _ _ _ => .pure trivial
      · exact .pure trivial
    case h_2 => exact .pure trivial

theorem takeName_yields (closer : Char) (what : String) :
    Yields s (takeName closer what) fun _ => True := by
  refine .get_bind ?_
  dsimp only
  split
  case h_1 =>
    refine .set_bind (Nat.zero_le _) ((checkDangling_yields _).bind fun _ _ _ => ?_)
    split <;> exact .fail _ _
  case h_2 token rest behind =>
    refine .set_bind ?_ ((checkDangling_yields _).bind fun _ _ _ => ?_)
    · have shorter := length_tokensText_drop_le s.tokens
        ((s.tokens.takeWhile (· != .plain closer)).length + 1)
      rwa [← List.drop_drop, behind] at shorter
    · split
      · exact .fail _ _
      · exact .pure trivial

/-! ## What an escape gives -/

/-- What an escape gives, if it gives anything and there are no groups: the match or a single
    character. -/
def Piece.Resolved (piece : Piece) : Prop := piece = .group 0 ∨ ∃ c, piece = .text [c]

theorem groupPiece_yields (number back : Nat) :
    Yields s (groupPiece 0 number back) Piece.Resolved := by
  unfold groupPiece
  split
  case isTrue => exact .fail_bind _ _ _
  case isFalse none => exact .pure (.inl (by rw [Nat.eq_zero_of_not_pos none]))

theorem readDigitPiece_yields (c : Char) : Yields s (readDigitPiece 0 c) Piece.Resolved := by
  refine (takeWhile_yields s _ _).bind fun s₁ second _ => ?_
  dsimp only
  split
  case isTrue =>
    refine (takeWhile_yields s₁ _ _).bind fun _ third _ => ?_
    split
    case isTrue =>
      split
      · exact .fail_bind _ _ _
      · exact .pure (.inr ⟨_, rfl⟩)
    case isFalse => exact groupPiece_yields _ _ _
  case isFalse => exact groupPiece_yields _ _ _

theorem readNamedPiece_yields : Yields s (readNamedPiece 0 []) Piece.Resolved := by
  refine (accept_yields s _).bind fun s₁ _ _ => ?_
  dsimp only
  split
  case isTrue => exact .fail_bind _ _ _
  case isFalse =>
    refine (takeName_yields s₁ _ _).bind fun _ name _ => ?_
    split
    case isTrue =>
      -- no group has a name
      intro piece s₂ run
      cases run
    case isFalse =>
      split
      case h_1 number =>
        split
        · exact .fail_bind _ _ _
        · exact groupPiece_yields _ _ _
      case h_2 => exact .fail _ _

theorem readEscapedPiece_yields {c : Char} (escapes : (Token.escaped c).isLiteral = false) :
    Yields s (readEscapedPiece 0 [] c) Piece.Resolved := by
  unfold readEscapedPiece
  by_cases named : c = 'g'
  · rw [if_pos (beq_iff_eq.mpr named)]
    exact readNamedPiece_yields s
  rw [if_neg (by rwa [beq_iff_eq])]
  by_cases zero : c = '0'
  · rw [if_pos (beq_iff_eq.mpr zero)]
    exact (takeWhile_yields s _ _).bind fun _ _ _ => .pure (.inr ⟨_, rfl⟩)
  rw [if_neg (by rwa [beq_iff_eq])]
  by_cases digit : c.isDigit = true
  · rw [if_pos digit]
    exact readDigitPiece_yields s c
  rw [if_neg digit]
  cases control : controlEscape? c with
  | some point => exact .pure (.inr ⟨_, rfl⟩)
  | none =>
    have letter : c.isAlpha = true := by
      have backslash : c ≠ '\\' := by
        rintro rfl
        cases control
      simpa [Token.isLiteral, Char.isAlphanum, digit, backslash] using escapes
    exact (if_pos letter).symm ▸ .fail _ _

end Steps

theorem controlEscape?_of_literal {c : Char} (literal : (Token.escaped c).isLiteral = true) :
    controlEscape? c = none := by
  unfold controlEscape?
  split
  case h_9 => rfl
  all_goals exact absurd literal (by decide)

/-- A character that needs no escape keeps its backslash. -/
theorem readEscapedPiece_of_literal {c : Char} (literal : (Token.escaped c).isLiteral = true) :
    readEscapedPiece 0 [] c = pure (.text ['\\', c]) := by
  have sign (d : Char) (h : (Token.escaped d).isLiteral = false) : (c == d) = false := by
    rw [beq_eq_false_iff_ne]
    rintro rfl
    cases literal.symm.trans h
  have apart : c.isAlpha = false ∧ c.isDigit = false := by
    rw [Token.isLiteral, Char.isAlphanum, Bool.not_eq_true', Bool.or_eq_false_iff,
      Bool.or_eq_false_iff] at literal
    exact literal.1
  rw [readEscapedPiece, sign 'g' (by decide), sign '0' (by decide), apart.2,
    controlEscape?_of_literal literal, isAsciiLetter, apart.1]
  rfl

/-! ## What a row of tokens gives -/

/-- A template filled in, with the match for every reference. -/
def filled (found : List Char) (pieces : List Piece) : List Char :=
  expandPieces (fun number => if number = 0 then some found else none) pieces

theorem filled_text (found chars : List Char) (pieces : List Piece) :
    filled found (.text chars :: pieces) = chars ++ filled found pieces := rfl

theorem filled_group (found : List Char) (pieces : List Piece) :
    filled found (.group 0 :: pieces) = found ++ filled found pieces := rfl

theorem filled_texts (found : List Char) (tokens : List Token) :
    filled found (tokens.map fun token => .text token.text) = tokensText tokens := by
  rw [filled, expandPieces, List.flatMap_map, tokensText]

theorem eq_nil_of_length_tokensText {tokens : List Token} (h : (tokensText tokens).length = 0) :
    tokens = [] := by
  cases tokens with
  | nil => rfl
  | cons token rest => cases token <;> cases h

variable {s : Scan}

theorem of_next? {token? : Option Token} {s' : Scan} (run : next?.run s = .ok (token?, s')) :
    (token? = none ∧ s.tokens = []) ∨
      ∃ token, token? = some token ∧ s.tokens = token :: s'.tokens := by
  obtain ⟨text, tokens, dangling, offset⟩ := s
  cases tokens with
  | nil =>
    cases run
    exact .inl ⟨rfl, rfl⟩
  | cons token rest =>
    cases rest <;> cases dangling <;> cases run <;> exact .inr ⟨token, rfl, rfl⟩

theorem exists_next? {token : Token} {rest : List Token} (ahead : s.tokens = token :: rest)
    (complete : s.dangling = false) :
    ∃ s', next?.run s = .ok (some token, s') ∧ s'.tokens = rest ∧ s'.dangling = false := by
  obtain ⟨text, tokens, dangling, offset⟩ := s
  cases ahead
  cases complete
  cases rest <;> exact ⟨_, rfl, rfl, rfl⟩

/-- A token that stands for itself is read as its text, and nothing behind it is. -/
theorem readPieces_of_literal {token : Token} {s' : Scan}
    (next : next?.run s = .ok (some token, s')) (literal : token.isLiteral = true) (fuel : Nat) :
    (readPieces 0 [] (fuel + 1)).run s =
      (readPieces 0 [] fuel).run s' >>= fun read =>
        .ok (.text token.text :: read.1, read.2) := by
  rw [readPieces, StateT.run_bind, next]
  cases token with
  | plain c => rfl
  | escaped c =>
    show (readEscapedPiece 0 [] c >>= fun piece =>
      (return piece :: (← readPieces 0 [] fuel) : ScanM (List Piece))).run s' = _
    rw [readEscapedPiece_of_literal literal]
    rfl

/-- **Tokens give less than they are unless all of them stand for themselves**, or as much as the
    match at least. -/
theorem length_filled_readPieces (found : List Char) {fuel : Nat} {pieces : List Piece}
    {s' : Scan} (run : (readPieces 0 [] fuel).run s = .ok (pieces, s')) :
    found.length ≤ (filled found pieces).length ∨
      (filled found pieces).length ≤ (tokensText s.tokens).length ∧
        ((filled found pieces).length = (tokensText s.tokens).length →
          ∀ token ∈ s.tokens, token.isLiteral = true) := by
  induction fuel generalizing s pieces s' with
  | zero =>
    cases run
    refine .inr ⟨Nat.zero_le _, fun same => ?_⟩
    rw [eq_nil_of_length_tokensText same.symm]
    exact List.forall_mem_nil _
  | succ fuel ih =>
    obtain ⟨⟨token?, s₁⟩, next, rest⟩ := of_bind_eq_ok run
    rcases of_next? next with ⟨rfl, none⟩ | ⟨token, rfl, ahead⟩
    · cases rest
      rw [none]
      exact .inr ⟨Nat.zero_le _, fun _ => List.forall_mem_nil _⟩
    have length : (tokensText s.tokens).length =
        token.text.length + (tokensText s₁.tokens).length := by
      rw [ahead, tokensText, List.flatMap_cons, List.length_append, tokensText]
    rw [length, ahead, List.forall_mem_cons]
    cases literal : token.isLiteral with
    | true =>
      rw [readPieces_of_literal next literal] at run
      obtain ⟨⟨later, _⟩, behind, same⟩ := of_bind_eq_ok run
      cases same
      rw [filled_text, List.length_append]
      rcases ih behind with long | ⟨shorter, exact⟩
      · exact .inl (Nat.le_trans long (Nat.le_add_left _ _))
      · exact .inr ⟨Nat.add_le_add_left shorter _,
          fun same => ⟨rfl, exact (Nat.add_left_cancel same)⟩⟩
    | false =>
      cases token with
      | plain c => cases literal
      | escaped c =>
        obtain ⟨⟨piece, s₂⟩, here, rest⟩ := of_bind_eq_ok rest
        obtain ⟨⟨later, _⟩, behind, same⟩ := of_bind_eq_ok rest
        cases same
        obtain ⟨shorter, resolved⟩ := readEscapedPiece_yields s₁ literal piece s₂ here
        rcases resolved with rfl | ⟨d, rfl⟩
        · rw [filled_group, List.length_append]
          exact .inl (Nat.le_add_right _ _)
        · -- one character for two, which nothing behind makes up for
          rw [filled_text, List.length_append]
          have two : (Token.escaped c).text.length = [d].length + 1 := rfl
          rcases ih behind with long | ⟨shorter', -⟩
          · exact .inl (Nat.le_trans long (Nat.le_add_left _ _))
          · exact .inr ⟨by omega, fun same => by omega⟩

/-- Tokens that stand for themselves are read. -/
theorem exists_readPieces {fuel : Nat} (complete : s.dangling = false)
    (literal : ∀ token ∈ s.tokens, token.isLiteral = true) (enough : s.tokens.length < fuel) :
    ∃ s', (readPieces 0 [] fuel).run s = .ok (s.tokens.map fun token => .text token.text, s') := by
  induction fuel generalizing s with
  | zero => cases enough
  | succ fuel ih =>
    cases ahead : s.tokens with
    | nil =>
      obtain ⟨text, tokens, dangling, offset⟩ := s
      cases ahead
      exact ⟨_, rfl⟩
    | cons token rest =>
      obtain ⟨s₁, next, rfl, complete⟩ := exists_next? ahead complete
      rw [ahead, List.forall_mem_cons] at literal
      rw [ahead, List.length_cons, Nat.add_lt_add_iff_right] at enough
      obtain ⟨s', behind⟩ := ih complete literal.2 enough
      rw [readPieces_of_literal next literal.1, behind]
      exact ⟨s', rfl⟩

/-! ## What a template gives -/

theorem checkDangling_run (s : Scan) :
    checkDangling.run s =
      if s.tokens.isEmpty && s.dangling then
        .error (.flawed .danglingBackslash s.text (some (s.text.length - 1)))
      else .ok (⟨⟩, s) := by
  have opened : checkDangling.run s =
      (if s.tokens.isEmpty && s.dangling then failAt .danglingBackslash (s.text.length - 1)
        else pure ⟨⟩ : ScanM Unit).run s := rfl
  rw [opened]
  split <;> rfl

theorem readTemplate_eq (text : String) :
    readTemplate 0 [] text =
      checkDangling.run (Scan.start text) >>= fun start =>
        (readPieces 0 [] (start.2.tokens.length + 1)).run start.2 >>= fun read => .ok read.1 := by
  rw [readTemplate]
  show (checkDangling.run (Scan.start text) >>= fun start =>
      (readPieces 0 [] (start.2.tokens.length + 1)).run start.2) >>= _ = _
  rw [bind_assoc]
  rfl

/-- **A template that stands for itself** is read, and filled in with anything it is its text. -/
theorem exists_readTemplate {text : String} (literal : isLiteral text.toList = true) :
    ∃ pieces, readTemplate 0 [] text = .ok pieces ∧
      ∀ found, filled found pieces = text.toList := by
  obtain ⟨complete, literal⟩ := (isLiteral_iff text.toList).mp literal
  obtain ⟨s', read⟩ :=
    exists_readPieces (s := Scan.start text) complete literal (Nat.lt_succ_self _)
  have all := tokensText_ofText text.toList
  rw [complete, if_neg Bool.false_ne_true, List.append_nil] at all
  refine ⟨_, ?_, fun found => (filled_texts found _).trans all⟩
  have start : checkDangling.run (Scan.start text) = .ok (⟨⟩, Scan.start text) := by
    rw [checkDangling_run, show (Scan.start text).dangling = false from complete, Bool.and_false]
    rfl
  rw [readTemplate_eq, start]
  exact congrArg (· >>= fun read => .ok read.1) read

/-- A template gives less than it is unless it stands for itself, or as much as the match at
    least. -/
theorem length_filled_readTemplate (found : List Char) {text : String} {pieces : List Piece}
    (read : readTemplate 0 [] text = .ok pieces) :
    found.length ≤ (filled found pieces).length ∨
      (filled found pieces).length ≤ text.toList.length ∧
        ((filled found pieces).length = text.toList.length → isLiteral text.toList = true) := by
  rw [readTemplate_eq] at read
  obtain ⟨⟨_, s⟩, start, rest⟩ := of_bind_eq_ok read
  obtain ⟨⟨pieces, s'⟩, here, same⟩ := of_bind_eq_ok rest
  cases same
  rw [checkDangling_run] at start
  split at start <;> cases start
  have all := congrArg List.length (tokensText_ofText text.toList)
  rw [List.length_append] at all
  refine (length_filled_readPieces found here).imp_right fun ⟨shorter, exact⟩ =>
    ⟨Nat.le_trans shorter (all ▸ Nat.le_add_right _ _), fun same => ?_⟩
  rw [isLiteral_iff]
  cases dangling : (Token.ofText text.toList).2 with
  | true =>
    -- the lone backslash is not among the tokens
    rw [dangling, if_pos rfl, List.length_singleton] at all
    exact absurd (same.trans all.symm) (Nat.ne_of_lt (Nat.lt_succ_of_le shorter))
  | false =>
    rw [dangling, if_neg Bool.false_ne_true] at all
    exact ⟨rfl, exact (same.trans all.symm)⟩

/-- **A template comes out as it went in exactly if it stands for itself**, in the place of a match
    that is longer than it. -/
theorem filled_eq_self_iff {found : List Char} {text : String} {pieces : List Piece}
    (read : readTemplate 0 [] text = .ok pieces) (longer : text.toList.length < found.length) :
    filled found pieces = text.toList ↔ isLiteral text.toList = true := by
  constructor
  · intro same
    rcases length_filled_readTemplate found read with long | ⟨-, exact⟩
    · exact absurd (same ▸ long) (Nat.not_le_of_lt longer)
    · exact exact (congrArg List.length same)
  · intro literal
    obtain ⟨pieces', read', same⟩ := exists_readTemplate literal
    cases read.symm.trans read'
    exact same found

end SqlRunner.Pattern
