import SqlRunner.Proofs.Account.Handle
import SqlRunner.Proofs.Binding
import SqlRunner.Proofs.CallGrammar

/-!
# Call routes — what the driver of a call by name and of a call as text is given

There are two ways to make a call on a raw cursor. Drivers that can are given the procedure's name
and the parameters; the others are given the text with its markers respelled, and the parameters as
the style wants them. Which calls may be made by name is settled by counting the markers between the
parentheses (`CallTarget.target?`), and what a driver does with the text is a matter of all of the
text's markers (`Arguments.Fits`).

These are not the same number. In front of the word there may be one more marker, for the result of
the call, which is read and not counted (`CallForm.markers_text`). A call without it is the same
call on either way. With it the call by name gives the parameters to the arguments and nobody gets
the result, and the call as text has a marker more than there are parameters (`call_routes`).
-/

set_option autoImplicit false

namespace SqlRunner

open Text

/-! ## Counting without reading -/

namespace Sign

theorem isQuote_of_notMem {s : List Char} (single : '\'' ∉ s) (double : '"' ∉ s) :
    ∀ c ∈ s, isQuote c = false := by
  intro c mem
  have differ : c ≠ '\'' ∧ c ≠ '"' :=
    ⟨fun same => single (same ▸ mem), fun same => double (same ▸ mem)⟩
  simp [isQuote, differ]

/-- Without quotes there are no literals, and markers are question marks. -/
theorem markers_read_append {plain : List Char} (h : ∀ c ∈ plain, isQuote c = false)
    (rest : List Char) :
    markers (read none (plain ++ rest)) = plain.count '?' + markers (read none rest) := by
  induction plain with
  | nil => simp
  | cons c others ih =>
    have unquoted := h c List.mem_cons_self
    rw [List.cons_append, read, if_neg fun opens => by simp [unquoted] at opens, markers,
      List.count_cons, ← markers, ih fun d mem => h d (List.mem_cons_of_mem c mem),
      List.count_cons]
    have same : (ofChar c == marker) = (c == '?') := by
      by_cases question : c = '?'
      · simp [question, ofChar]
      · simp [question, ofChar]
    rw [same]
    omega

/-- Behind a text that has no question marks, and closes what literals it opens, markers are
    question marks too. -/
theorem markers_read_name (name : List Char) {plain : List Char}
    (unmarked : '?' ∉ name) (h : ∀ c ∈ plain, isQuote c = false) (state : Option Char)
    (closes : ∀ quote ∈ state, quote ∈ name) :
    markers (read state (name ++ plain)) = plain.count '?' := by
  induction name generalizing state with
  | nil =>
    cases state with
    | some quote => cases closes quote rfl
    | none =>
      have counted := markers_read_append h []
      rwa [List.append_nil] at counted
  | cons c rest ih =>
    rw [List.mem_cons, not_or] at unmarked
    have ordinary (sign : Sign) (differ : sign ≠ .marker) (signs : List Sign) :
        markers (sign :: signs) = markers signs := List.count_cons_of_ne differ
    cases state with
    | some quote =>
      rw [List.cons_append, read, ordinary _ (by simp)]
      refine ih unmarked.2 _ fun other mem => ?_
      split at mem
      case isTrue => cases mem
      case isFalse lone =>
        cases mem
        exact (List.mem_cons.mp (closes quote rfl)).resolve_left (Ne.symm lone)
    | none =>
      rw [List.cons_append, read]
      split
      case isTrue opens =>
        rw [ordinary _ (by simp)]
        refine ih unmarked.2 _ fun other mem => ?_
        cases mem
        -- what closes the literal stands in the name, since there are no quotes behind it
        refine (List.mem_append.mp opens.2).resolve_right fun behind => ?_
        rw [h c behind] at opens
        cases opens.1
      case isFalse =>
        rw [ordinary _ (by simp [ofChar, Ne.symm unmarked.1])]
        exact ih unmarked.2 none fun other mem => by cases mem

end Sign

namespace CallTarget

/-! ## Question marks in calls -/

theorem count_blanks (blanks : Blanks) : blanks.val.count '?' = 0 :=
  List.count_eq_zero.mpr (notMem_blanks blanks (by decide))

theorem count_sign {c : Char} (other : c ≠ '?') (present : Bool) :
    (sign c present).count '?' = 0 :=
  List.count_eq_zero.mpr fun mem => other (eq_of_mem_sign mem).symm

theorem count_moreText (others : List MarkerForm) :
    (moreText others).count '?' = others.length := by
  induction others with
  | nil => rfl
  | cons m rest ih =>
    rw [moreText, List.flatMap_cons, List.count_append, ← moreText, ih, MarkerForm.text]
    simp [count_blanks, Nat.add_comm]

/-- The markers of a call's arguments are its question marks behind the name. -/
theorem CallForm.count_tail (form : CallForm) :
    form.tail.count '?' = form.arguments.count := by
  have ending : form.ending.text.count '?' = 0 :=
    List.count_eq_zero.mpr (notMem_of_solid form.ending.mem_text (by decide) (by decide))
  have arguments : form.arguments.text.count '?' = form.arguments.count := by
    cases form.arguments with
    | absent => rfl
    | empty blanks => simp [ArgumentForm.text, ArgumentForm.inner, ArgumentForm.count, count_blanks]
    | markers first others =>
      simp [ArgumentForm.text, ArgumentForm.inner, ArgumentForm.count, MarkerForm.text,
        count_blanks, count_moreText]
  rw [tail, List.count_append, List.count_append, ending, arguments, count_blanks,
    Nat.zero_add, Nat.add_zero]

/-- The question marks before the name of a call are those of its result. -/
theorem CallForm.count_lead (form : CallForm) :
    form.lead.count '?' = if form.opening.result.isSome then 1 else 0 := by
  have word : form.word.count '?' = 0 :=
    List.count_eq_zero.mpr fun mem => absurd (form.mem_letters_of_mem_word mem) (by decide)
  rw [lead, List.count_append, List.count_append, word, OpeningForm.text]
  cases form.opening.result with
  | none => simp [resultText, count_blanks, count_sign]
  | some between => simp [resultText, count_blanks, count_sign]

/-- **The markers of a call** are those of its arguments, and one more where it has a result. -/
theorem CallForm.markers_text (form : CallForm) :
    Sign.markers (Sign.read none form.text) =
      form.arguments.count + if form.opening.result.isSome then 1 else 0 := by
  have lead : ∀ c ∈ form.lead, Sign.isQuote c = false :=
    Sign.isQuote_of_notMem (notMem_of_solid form.mem_lead (by decide) (by decide))
      (notMem_of_solid form.mem_lead (by decide) (by decide))
  have tail : ∀ c ∈ form.tail, Sign.isQuote c = false :=
    Sign.isQuote_of_notMem (notMem_of_solid form.mem_tail (by decide) (by decide))
      (notMem_of_solid form.mem_tail (by decide) (by decide))
  have name : '?' ∉ form.name := form.notMem_name (by decide +kernel)
  rw [text, List.append_assoc, Sign.markers_read_append lead,
    Sign.markers_read_name form.name name tail none (by simp), count_lead, count_tail,
    Nat.add_comm]

/-- A call may be made by name though it has more markers than there are parameters. -/
theorem target?_drops_result :
    target? "\x7b? = call f(?)\x7d" [Datum.int 7].length = some "f" ∧
    Sign.markers (Sign.ofSql "\x7b? = call f(?)\x7d") ≠ [Datum.int 7].length := by
  decide +kernel

end CallTarget

namespace Handle

open CallTarget

/-- **Both ways of making a call** are given the same parameters. By name they are the arguments,
    and as text they are bound to the markers of the text, which are as many exactly if the call
    has no marker for its result. -/
theorem call_routes (h : Handle .callable) {style : MarkerStyle} {rowCount : Option Int}
    (hb : h.backing = .cursor style rowCount) {name : String}
    (found : target? h.sql h.parameters.length = some name) :
    (∀ w : World, w.behavior.callsByName = true → w.behavior.refusal? name = none →
      ((h.perform call).run w).2.journal = w.journal ++ [.cursorCalled name h.parameters]) ∧
    (∀ (w : World) (text : String), w.behavior.callsByName = false →
      Marker.respell h.sql style = .ok text → w.behavior.refusal? text = none →
      ((h.perform call).run w).2.journal =
        w.journal ++ [.cursorRan text (some (Marker.bind h.parameters style))]) ∧
    ∃ form : CallForm, form.text = h.sql.toList ∧ form.name = name.toList ∧
      Sign.markers (Sign.ofSql h.sql) =
        h.parameters.length + (if form.opening.result.isSome then 1 else 0) ∧
      ((Marker.bind h.parameters style).Fits style (Sign.markers (Sign.ofSql h.sql)) ↔
        form.opening.result = none) := by
  have entries (w : World) :
      ((h.perform call).run w).2.journal = w.journal ++ (call.stint h w.behavior).entries := by
    rw [Session.run_eq, perform_account]
    rfl
  refine ⟨fun w able accepted => ?_, fun w text unable respelled accepted => ?_, ?_⟩
  · have byName : h.calledByName? w.behavior = some name := by
      rw [calledByName?, able, if_pos rfl, found]
    rw [entries, call_stint_named h w.behavior hb byName, accepted]
    rfl
  · have byText : h.calledByName? w.behavior = none := by
      rw [calledByName?, unable, if_neg Bool.false_ne_true]
    rw [entries, call_stint_text h w.behavior hb byText, respelled]
    show w.journal ++ (h.request (w.behavior.refusal? text) _ _).entries = _
    rw [accepted]
    rfl
  · obtain ⟨form, text, named, count⟩ := (target?_eq_some_iff _ _ _).mp found
    have markers := form.markers_text
    rw [text, count] at markers
    refine ⟨form, text, named, markers, ?_⟩
    rw [Marker.bind_fits_iff, Sign.ofSql, markers]
    cases form.opening.result with
    | none => simp
    | some between => simp

/-- The handle of a call with a result, on a cursor of a driver that calls by name. -/
def resultCall : Handle .callable :=
  { backing := .cursor .format none, sql := "\x7b? = call f(?)\x7d", parameters := [.int 7] }

/-- The value is the argument of the call by name, and not enough for the call as text. -/
theorem call_routes_result :
    (((resultCall.perform call).run { behavior := { callsByName := true } }).2.journal =
      [.cursorCalled "f" [.int 7]]) ∧
    (((resultCall.perform call).run {}).2.journal =
      [.cursorRan "\x7b%s = call f(%s)\x7d" (some (.positional [.int 7]))]) ∧
    ¬ (Marker.bind resultCall.parameters .format).Fits .format
      (Sign.markers (Sign.ofSql resultCall.sql)) := by
  have found : target? resultCall.sql resultCall.parameters.length = some "f" := by
    decide +kernel
  obtain ⟨named, text, form, -, -, markers, fits⟩ := call_routes resultCall rfl found
  refine ⟨named _ rfl rfl, text _ _ rfl (by cbv) rfl, fun fit => ?_⟩
  have two : Sign.markers (Sign.ofSql resultCall.sql) = 2 := by decide +kernel
  rw [fits.mp fit, two] at markers
  exact absurd markers (by decide)

end Handle

end SqlRunner
