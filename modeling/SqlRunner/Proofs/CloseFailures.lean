import Mathlib.Data.List.Forall2
import SqlRunner.Proofs.Bracketing

/-!
# Close failures — nobody sees that something could not be closed

Closing is the last thing that is done with a handle or a cursor, and it may be refused. A refusal
is reported and goes no further, so two databases that differ only in how they close
(`Behavior.closingAs`) cannot be told apart by whoever asks for rows, counts or calls: the answers
are the same, failures included, the journals are the same, and so are the traces but for the
reports themselves (`told`).

This compares two runs, and it is proved as such. Two accounts are *alike* if they differ in nothing
but such reports, and a step is *indifferent* if its accounts are alike whatever is refused to be
closed. Indifferent steps stay so one after another. Every request of a handle is indifferent since
it is answered without a look at how things close; closing a cursor and releasing a handle are
indifferent since a failure ends there. A caller that closes its handle itself is not: it does see
the failure.
-/

set_option autoImplicit false

namespace SqlRunner

variable {α β : Type} {shape : Shape}

/-- The same database, but for how it closes: as another one does. -/
def Behavior.closingAs (b other : Behavior) : Behavior :=
  { b with failClose := other.failClose, onClose := other.onClose }

/-- What a trace tells apart from failures to close. -/
def told (events : List Event) : List Event :=
  events.filter fun event => event.name != "release_failed"

theorem told_append (first second : List Event) :
    told (first ++ second) = told first ++ told second := List.filter_append ..

/-- A release tells nothing. -/
theorem told_releaseEvents (outcome : Except Failure Unit) :
    told (Session.releaseEvents outcome) = [] := by
  cases outcome <;> rfl

/-! ## Accounts that are alike -/

namespace Account

/-- Two accounts that differ in nothing but reports of failures to close. -/
structure Alike (a a' : Account α) : Prop where
  outcome : a.outcome = a'.outcome
  entries : a.entries = a'.entries
  events : told a.events = told a'.events

theorem Alike.refl (a : Account α) : a.Alike a := ⟨rfl, rfl, rfl⟩

theorem Alike.bind {a a' : Account α} {next next' : α → Account β} (ha : a.Alike a')
    (hn : ∀ value, (next value).Alike (next' value)) : (a.bind next).Alike (a'.bind next') := by
  cases ho : a.outcome with
  | error failure =>
    rw [bind_of_error ho, bind_of_error (ha.outcome.symm.trans ho)]
    exact ⟨rfl, ha.entries, ha.events⟩
  | ok value =>
    rw [bind_of_ok ho, bind_of_ok (ha.outcome.symm.trans ho)]
    refine ⟨(hn value).outcome, ?_, ?_⟩
    · simp only [ha.entries, (hn value).entries]
    · simp only [told_append, ha.events, (hn value).events]

end Account

/-- A step of a session whose accounts are alike whatever is refused to be closed. -/
class Session.Indifferent (step : Session α) : Prop where
  isLocal : step.Local
  alike : ∀ b other, (step.account b).Alike (step.account (b.closingAs other))

/-- A step on a handle that is indifferent and leaves the same handle. -/
class HandleStep.Indifferent (step : HandleStep shape α) : Prop where
  isLocal : step.Local
  alike : ∀ h b other,
    (step.stint h b).toAccount.Alike (step.stint h (b.closingAs other)).toAccount
  handle : ∀ h b other,
    (step.stint h b).handle = (step.stint h (b.closingAs other)).handle

/-! ## Indifference follows the way steps are put together -/

namespace Session

/-- A step that does not look at what is refused to be closed. -/
theorem indifferent_of_eq {step : Session α} [isLocal : step.Local]
    (same : ∀ b other, step.account b = step.account (b.closingAs other)) :
    step.Indifferent :=
  ⟨isLocal, fun b other => same b other ▸ .refl _⟩

theorem Indifferent.bind {step : Session α} {next : α → Session β} (hs : step.Indifferent)
    (hn : ∀ value, (next value).Indifferent) : (step >>= next).Indifferent := by
  refine ⟨hs.isLocal.bind fun value => (hn value).isLocal, fun b other => ?_⟩
  rw [hs.isLocal.account_bind fun value => (hn value).isLocal,
    hs.isLocal.account_bind fun value => (hn value).isLocal]
  exact (hs.alike b other).bind fun value => (hn value).alike b other

instance indifferent_bind (step : Session α) (next : α → Session β) [hs : step.Indifferent]
    [hn : ∀ value, (next value).Indifferent] : (step >>= next).Indifferent := hs.bind hn

instance indifferent_pure (value : α) : (pure value : Session α).Indifferent :=
  indifferent_of_eq fun _ _ => by rw [account_pure, account_pure]

instance indifferent_fail (failure : Failure) : (fail failure : Session α).Indifferent :=
  indifferent_of_eq fun _ _ => by rw [account_fail, account_fail]

instance indifferent_ofExcept (result : Except Failure α) : (ofExcept result).Indifferent :=
  indifferent_of_eq fun _ _ => by rw [account_ofExcept, account_ofExcept]

instance indifferent_ofFault (result : Except Fault α) : (ofFault result).Indifferent :=
  inferInstanceAs (ofExcept _).Indifferent

instance indifferent_failIf (failure? : Option Failure) : (failIf failure?).Indifferent :=
  indifferent_of_eq fun _ _ => by rw [account_failIf, account_failIf]

instance indifferent_report (name : String) (fields : Fields) :
    (report name fields).Indifferent :=
  indifferent_of_eq fun _ _ => by rw [account_report, account_report]

end Session

namespace HandleStep

theorem indifferent_of_eq {step : HandleStep shape α} [isLocal : step.Local]
    (same : ∀ h b other, step.stint h b = step.stint h (b.closingAs other)) :
    step.Indifferent :=
  ⟨isLocal, fun h b other => same h b other ▸ .refl _,
    fun h b other => congrArg Stint.handle (same h b other)⟩

theorem Indifferent.bind {step : HandleStep shape α} {next : α → HandleStep shape β}
    (hs : step.Indifferent) (hn : ∀ value, (next value).Indifferent) :
    (step >>= next).Indifferent := by
  have := hs.isLocal
  have := fun value => (hn value).isLocal
  have both (h : Handle shape) (b other : Behavior) :
      ((step >>= next).stint h b).toAccount.Alike
          ((step >>= next).stint h (b.closingAs other)).toAccount ∧
        ((step >>= next).stint h b).handle =
          ((step >>= next).stint h (b.closingAs other)).handle := by
    have first := hs.alike h b other
    rw [stint_bind, stint_bind]
    cases ho : (step.stint h b).outcome with
    | error failure =>
      rw [Stint.bind_of_error ho, Stint.bind_of_error (first.outcome.symm.trans ho)]
      exact ⟨⟨rfl, first.entries, first.events⟩, hs.handle h b other⟩
    | ok value =>
      -- the rest starts from the same answer and the same handle
      have rest := (hn value).alike (step.stint h b).handle b other
      rw [Stint.bind_of_ok ho, Stint.bind_of_ok (first.outcome.symm.trans ho),
        ← hs.handle h b other]
      refine ⟨⟨rest.outcome, ?_, ?_⟩, (hn value).handle _ b other⟩
      · simp only [first.entries, rest.entries]
      · simp only [told_append, first.events, rest.events]
  exact ⟨inferInstance, fun h b other => (both h b other).1,
    fun h b other => (both h b other).2⟩

/-- An attempt turns the same failure into the same answer. -/
theorem Indifferent.attempt {step : HandleStep shape α} (hs : step.Indifferent) :
    (HandleStep.attempt step).Indifferent := by
  have := hs.isLocal
  refine ⟨inferInstance, fun h b other => ?_, fun h b other => ?_⟩
  · have same := hs.alike h b other
    rw [stint_attempt, stint_attempt]
    exact ⟨congrArg Except.ok same.outcome, same.entries, same.events⟩
  · rw [stint_attempt, stint_attempt]
    exact hs.handle h b other

instance indifferent_bind (step : HandleStep shape α) (next : α → HandleStep shape β)
    [hs : step.Indifferent] [hn : ∀ value, (next value).Indifferent] :
    (step >>= next).Indifferent := hs.bind hn

instance indifferent_lift (step : Session α) [hs : step.Indifferent] :
    (liftM step : HandleStep shape α).Indifferent := by
  have := hs.isLocal
  refine ⟨inferInstance, fun h b other => ?_, fun h b other => ?_⟩
  · rw [stint_lift, stint_lift]
    exact hs.alike b other
  · rw [stint_lift, stint_lift]

instance indifferent_pure (value : α) : (pure value : HandleStep shape α).Indifferent :=
  indifferent_of_eq fun _ _ _ => by rw [stint_pure, stint_pure]

instance indifferent_throw (failure : Failure) :
    (throw failure : HandleStep shape α).Indifferent :=
  indifferent_of_eq fun _ _ _ => by rw [stint_throw, stint_throw]

instance indifferent_get : (get : HandleStep shape (Handle shape)).Indifferent :=
  indifferent_of_eq fun _ _ _ => by rw [stint_get, stint_get]

instance indifferent_ite (p : Prop) [Decidable p] (yes no : HandleStep shape α)
    [yes.Indifferent] [no.Indifferent] : (if p then yes else no).Indifferent := by
  split <;> infer_instance

end HandleStep

/-! ## What is done on a handle -/

/-- A result is the same whether or not its cursor can be closed. -/
instance Cursor.indifferent_materialize (c : Cursor) : c.materialize.Indifferent := by
  refine ⟨inferInstance, fun b other => ?_⟩
  rw [materialize_account, materialize_account]
  refine ⟨rfl, rfl, ?_⟩
  simp only [Session.account_release, close_account, Account.closing, List.nil_append,
    told_releaseEvents]

namespace Handle

/-! Requests are answered without a look at how things close. -/

instance indifferent_bind (parameters : List Datum) :
    (bind parameters : HandleStep shape Unit).Indifferent :=
  HandleStep.indifferent_of_eq fun h b other => by rw [bind_stint, bind_stint]; rfl

instance indifferent_execute (sql : String) : (execute sql).Indifferent :=
  HandleStep.indifferent_of_eq fun h b other => by rw [execute_stint, execute_stint]; rfl

instance indifferent_query (sql : String) : (query sql).Indifferent :=
  HandleStep.indifferent_of_eq fun h b other => by rw [query_stint, query_stint]; rfl

instance indifferent_update (sql : String) : (update sql).Indifferent :=
  HandleStep.indifferent_of_eq fun h b other => by rw [update_stint, update_stint]; rfl

instance indifferent_setEscapeProcessing (enabled : Bool) :
    (setEscapeProcessing enabled).Indifferent :=
  HandleStep.indifferent_of_eq fun h b other => by
    rw [setEscapeProcessing_stint, setEscapeProcessing_stint]; rfl

instance indifferent_executePrepared : executePrepared.Indifferent :=
  HandleStep.indifferent_of_eq fun h b other => by
    rw [executePrepared_stint, executePrepared_stint]; rfl

instance indifferent_queryPrepared : queryPrepared.Indifferent :=
  HandleStep.indifferent_of_eq fun h b other => by
    rw [queryPrepared_stint, queryPrepared_stint]; rfl

instance indifferent_updatePrepared : updatePrepared.Indifferent :=
  HandleStep.indifferent_of_eq fun h b other => by
    rw [updatePrepared_stint, updatePrepared_stint]; rfl

instance indifferent_call : call.Indifferent := by
  refine HandleStep.indifferent_of_eq fun h b other => ?_
  cases hb : h.backing with
  | scripted =>
    rw [call_stint_scripted h b hb, call_stint_scripted h _ hb]
    rfl
  | cursor style rowCount =>
    -- the driver is the same one, so it makes the call by name in both runs or in neither
    cases hn : h.calledByName? b with
    | some name =>
      rw [call_stint_named h b hb hn, call_stint_named h (b.closingAs other) hb hn]
      rfl
    | none =>
      rw [call_stint_text h b hb hn, call_stint_text h (b.closingAs other) hb hn]
      rfl

end Handle

/-- **A caller that leaves closing to the owner sees nothing of it**, whatever it looks at. -/
theorem Conduct.run_indifferent {conduct : Conduct} (h : conduct.LeavesOpen) :
    conduct.run.Indifferent := by
  induction conduct with
  | answer value => exact HandleStep.indifferent_pure value
  | fail failure => exact HandleStep.indifferent_throw failure
  | look next ih => exact HandleStep.indifferent_get.bind fun handle => ih handle (h handle)
  | bind parameters next ih =>
    exact (Handle.indifferent_bind parameters).attempt.bind fun outcome => ih outcome (h outcome)
  | call next ih => exact Handle.indifferent_call.attempt.bind fun outcome => ih outcome (h outcome)
  | close next => exact h.elim

theorem Handle.handOver_indifferent {conduct : Option Conduct}
    (h : ∀ c ∈ conduct, c.LeavesOpen) : (handOver conduct).Indifferent := by
  cases conduct with
  | none => exact indifferent_call
  | some c => exact Conduct.run_indifferent (h c rfl)

/-! ## Acquisitions -/

namespace Connection

instance indifferent_openScripted (sql : String) (entry : Entry) :
    (openScripted sql entry : Session (Handle shape)).Indifferent :=
  Session.indifferent_of_eq fun b other => by
    rw [openScripted_account, openScripted_account]; rfl

instance indifferent_openCursor (style : MarkerStyle) : (openCursor style).Indifferent :=
  Session.indifferent_of_eq fun b other => by rw [openCursor_account, openCursor_account]; rfl

instance indifferent_refuseHandle (url : String) : (refuseHandle url : Session α).Indifferent :=
  Session.indifferent_fail _

instance indifferent_createStatement (c : Connection) : c.createStatement.Indifferent := by
  unfold createStatement
  split <;> infer_instance

instance indifferent_prepareStatement (sql : String) (c : Connection) :
    (c.prepareStatement sql).Indifferent := by
  unfold prepareStatement
  split <;> infer_instance

instance indifferent_prepareCall (sql : String) (c : Connection) :
    (c.prepareCall sql).Indifferent := by
  unfold prepareCall
  split <;> infer_instance

end Connection

/-! ## Operations -/

namespace Runner

/-- **The bracket of an operation does not let a failure to close through**: the handle is released
    in both runs, and the release ends no differently. -/
instance indifferent_withHandle (r : Runner) (acquire : Session (Handle shape))
    (sql : List String) (operation : String) (action : HandleStep shape α)
    [ha : acquire.Indifferent] [hs : action.Indifferent] :
    (r.withHandle acquire sql operation action).Indifferent := by
  have := ha.isLocal
  have := hs.isLocal
  refine ⟨inferInstance, fun b other => ?_⟩
  have acquired := ha.alike b other
  rw [withHandle_account, withHandle_account, ← acquired.outcome]
  cases (acquire.account b).outcome with
  | error failure => exact ⟨rfl, acquired.entries, acquired.events⟩
  | ok handle =>
    have stint := hs.alike handle b other
    have left := hs.handle handle b other
    refine ⟨?_, ?_, ?_⟩
    · simp only [stint.outcome]
    · simp only [acquired.entries, stint.entries, left]
    · simp only [told_append, acquired.events, stint.events, Handle.releaseEvents,
        told_releaseEvents]

instance indifferent_ensureOnline (r : Runner) : r.ensureOnline.Indifferent :=
  Session.indifferent_of_eq fun b other => by rw [ensureOnline_account, ensureOnline_account]

instance indifferent_announce (event sql : String) : (announce event sql).Indifferent :=
  Session.indifferent_report _ _

instance indifferent_renderSingle (r : Runner) (statement : Statement) (visitors : List Visitor)
    (operation : String) : (r.renderSingle statement visitors operation).Indifferent :=
  Session.indifferent_ofExcept _

instance indifferent_render (r : Runner) (statement : Statement) (visitors : List Visitor) :
    (r.render statement visitors).Indifferent :=
  Session.indifferent_ofFault _

instance indifferent_queryRendered (r : Runner) (statement : Statement) (sql : String) :
    (r.queryRendered statement sql).Indifferent := by
  unfold queryRendered
  split <;> infer_instance

instance indifferent_query (r : Runner) (statement : Statement) (visitors : List Visitor) :
    (r.query statement visitors).Indifferent := by
  rw [query_eq]
  infer_instance

instance indifferent_updateRendered (r : Runner) (statement : Statement) (sql : String) :
    (r.updateRendered statement sql).Indifferent := by
  unfold updateRendered
  split <;> infer_instance

instance indifferent_update (r : Runner) (statement : Statement) (visitors : List Visitor) :
    (r.update statement visitors).Indifferent := by
  rw [update_eq]
  infer_instance

/-- Strings one after another; one that fails is the last. -/
instance indifferent_runEach (r : Runner) (strings : List String) :
    (r.runEach strings).Indifferent := by
  induction strings with
  | nil => exact HandleStep.indifferent_pure ()
  | cons sql rest ih =>
    rw [runEach]
    infer_instance

instance indifferent_executePrepared (r : Runner) (sql : String) (parameters : List Datum) :
    (r.executePrepared sql parameters).Indifferent := by
  unfold executePrepared
  infer_instance

instance indifferent_executeCommand (r : Runner) (visitors : List Visitor) (command : Command) :
    (r.executeCommand visitors command).Indifferent := by
  refine r.indifferent_ensureOnline.bind fun _ => ?_
  split <;> infer_instance

/-- Commands one after another; one that fails is the last. -/
instance indifferent_executeAll (r : Runner) (visitors : List Visitor) (commands : List Command) :
    (r.executeAll visitors commands).Indifferent := by
  induction commands with
  | nil => exact Session.indifferent_pure ()
  | cons command rest ih =>
    rw [executeAll]
    infer_instance

instance indifferent_executeChange (r : Runner) (statement : Statement)
    (visitors : List Visitor) : (r.executeChange statement visitors).Indifferent := by
  unfold executeChange
  infer_instance

instance indifferent_execute (r : Runner) (statement : Statement) (visitors : List Visitor) :
    (r.execute statement visitors).Indifferent := by
  unfold execute
  split <;> infer_instance

theorem executeCallable_indifferent (r : Runner) (statement : Statement)
    (conduct : Option Conduct) (visitors : List Visitor) (keeps : ∀ c ∈ conduct, c.LeavesOpen) :
    (r.executeCallable statement conduct visitors).Indifferent := by
  refine r.indifferent_ensureOnline.bind fun _ =>
    (r.indifferent_render statement visitors).bind fun rendered => ?_
  cases rendered with
  | nil => exact Session.indifferent_fail _
  | cons sql rest =>
    have := Handle.handOver_indifferent keeps
    infer_instance

/-- **No operation shows what could not be closed.** -/
theorem perform_indifferent (r : Runner) {operation : Operation} (h : operation.LeavesClosing) :
    (r.perform operation).Indifferent := by
  cases operation with
  | call statement conduct visitors =>
    refine (r.executeCallable_indifferent statement conduct visitors fun c hc => ?_).bind fun _ =>
      inferInstance
    cases hc
    exact h
  | comment message => exact (Session.indifferent_report _ _).bind fun _ => inferInstance
  | _ => exact .bind inferInstance fun _ => inferInstance

end Runner

/-! ## Runs -/

/-- Turns of the same operation that differ in how the database closes, and in nothing else. -/
structure Turn.AlikeButClosing (turn turn' : Turn) : Prop where
  operation : turn'.operation = turn.operation
  behavior : ∃ other, turn'.behavior = turn.behavior.closingAs other

/-- Worlds whose drivers were asked the same, and that differ in reports of failures to close. -/
structure World.Alike (w w' : World) : Prop where
  journal : w'.journal = w.journal
  keeping : w'.trace.keeping = w.trace.keeping
  events : told w'.trace.events = told w.trace.events

/-- A recorder keeps what it is given, all of it or nothing. -/
theorem Recorder.foldl_record_eq (events : List Event) (r : Recorder) :
    events.foldl Recorder.record r =
      { r with events := if r.keeping then r.events ++ events else r.events } := by
  induction events generalizing r with
  | nil => cases r with | mk keeping kept => cases keeping <;> simp
  | cons event rest ih =>
    rw [List.foldl_cons, ih]
    cases r with | mk keeping kept => cases keeping <;> simp [record]

/-- Alike worlds stay so after steps whose accounts are. -/
theorem World.Alike.after {w w' : World} (alike : w.Alike w') {a a' : Account α}
    (same : a.Alike a') : (w.after a).Alike (w'.after a') := by
  refine ⟨?_, ?_, ?_⟩
  · rw [World.after_journal, World.after_journal, alike.journal, same.entries]
  · simp only [World.after, Recorder.foldl_record_eq, alike.keeping]
  · simp only [World.after, Recorder.foldl_record_eq, alike.keeping]
    split
    case isTrue => rw [told_append, told_append, alike.events, same.events]
    case isFalse => exact alike.events

theorem World.Alike.under {w w' : World} (alike : w.Alike w') (b b' : Behavior) :
    (w.under b).Alike (w'.under b') := ⟨alike.journal, alike.keeping, alike.events⟩

namespace Runner

theorem performAll_alike (r : Runner) {w w' : World} (alike : w.Alike w')
    {turns turns' : List Turn} (same : List.Forall₂ Turn.AlikeButClosing turns turns')
    (h : ∀ turn ∈ turns, turn.operation.LeavesClosing) :
    (r.performAll w' turns').1 = (r.performAll w turns).1 ∧
      (r.performAll w turns).2.Alike (r.performAll w' turns').2 := by
  induction same generalizing w w' with
  | nil => exact ⟨rfl, alike⟩
  | @cons turn turn' rest rest' first _ ih =>
    obtain ⟨other, behavior⟩ := first.behavior
    have performed := (r.perform_indifferent (h turn List.mem_cons_self)).alike turn.behavior other
    obtain ⟨answers, later⟩ := ih ((alike.under turn.behavior turn'.behavior).after performed)
      fun t mem => h t (List.mem_cons_of_mem turn mem)
    rw [← behavior] at answers later performed
    simp only [performAll, Session.run_eq, first.operation, World.under_behavior]
    exact ⟨by rw [answers, performed.outcome], later⟩

/-- **Failures to close are invisible to callers.** Whatever is asked of a runner, as long as no
    caller that is handed a handle closes it: over a database that at any time refuses to close
    other resources, or for other reasons, the answers are the same, values and failures alike, the
    journal is the same, and so is the trace but for the reports of such failures. -/
theorem performAll_refusingToClose (r : Runner) (w : World) {turns turns' : List Turn}
    (same : List.Forall₂ Turn.AlikeButClosing turns turns')
    (h : ∀ turn ∈ turns, turn.operation.LeavesClosing) :
    (r.performAll w turns').1 = (r.performAll w turns).1 ∧
      (r.performAll w turns').2.journal = (r.performAll w turns).2.journal ∧
      told (r.performAll w turns').2.trace.events =
        told (r.performAll w turns).2.trace.events := by
  obtain ⟨answers, after⟩ := r.performAll_alike (⟨rfl, rfl, rfl⟩ : w.Alike w) same h
  exact ⟨answers, after.journal, after.events⟩

/-- A query that cannot be read, and a call whose caller fails, over a database that closes
    everything and over one that closes nothing. -/
theorem performAll_refusingToClose_anything :
    let query := Operation.query (.command (.prepared "SELECT ?" [.int 7])) []
    let callback : Callback := ⟨[.bind [.int 8], .call], .failure (.fault .zeroInPath)⟩
    let call := Operation.executeCallable (.command (.call "CALL p(?)" [.int 7])) callback []
    let turns : List Turn := [⟨query, { failFetch := true }⟩, ⟨call, {}⟩]
    let turns' : List Turn := [⟨query, { failFetch := true, failClose := Resource.all }⟩,
      ⟨call, { failClose := Resource.all }⟩]
    let runner : Runner := { connection := .scripted "db" false, dialect := .sqlite }
    List.Forall₂ Turn.AlikeButClosing turns turns' ∧
      (∀ turn ∈ turns, turn.operation.LeavesClosing) ∧
      (runner.performAll {} turns').1 = (runner.performAll {} turns).1 ∧
      (runner.performAll {} turns').2.trace.events ≠
        (runner.performAll {} turns).2.trace.events := by
  intro query callback call turns turns' runner
  have same : List.Forall₂ Turn.AlikeButClosing turns turns' :=
    .cons ⟨rfl, { failClose := Resource.all }, rfl⟩
      (.cons ⟨rfl, { failClose := Resource.all }, rfl⟩ .nil)
  have leave : ∀ turn ∈ turns, turn.operation.LeavesClosing := by
    intro turn mem
    simp only [turns, List.mem_cons, List.not_mem_nil, or_false] at mem
    rcases mem with rfl | rfl
    · trivial
    · exact Operation.leavesClosing_executeCallable _ _ rfl
  refine ⟨same, leave, (runner.performAll_refusingToClose {} same leave).1, fun equal => ?_⟩
  exact absurd (congrArg List.length equal) (by decide +kernel)

end Runner

end SqlRunner
