import SqlRunner.Proofs.Account.Runner
import SqlRunner.Proofs.Holding
import SqlRunner.Proofs.Spelling

/-!
# Bracketing — every operation gives back what it took

The life of a handle is decided in two places, and neither knows the other. `withHandle` acquires
and releases, and everything in between is a step on the handle that may do what it likes; a step
may end anywhere, for any reason. So the argument has two halves:

* a step *keeps* its handle (`HandleStep.Keeps`) when all that it writes is in place while the
  handle is held, up to wherever it ends, and the handle is held still. Steps that keep their handle
  do so one after another, so only the operations of handles have to be looked at. A query alone
  does not keep its handle, for its cursor is open after it; a query that is read in full does;
* around a step that keeps its handle `withHandle` is a bracket, whether or not there is a failure
  before, in or after the step (`withHandle_settles`).

What a caller does with a handle is a step like any other if it leaves closing to the owner. One
thing is not bracketed: a raw cursor whose template cannot be respelled never becomes a handle, and
what is no handle cannot be released. That takes a driver whose markers are unknown.
-/

set_option autoImplicit false

namespace SqlRunner

variable {α β : Type} {shape : Shape}

/-! ## Steps that keep their handle -/

namespace HandleStep

/-- A step after which its handle is held as it was before, everything written being in place. -/
def Keeps (step : HandleStep shape α) : Prop :=
  ∀ (h : Handle shape) (b : Behavior),
    (step.stint h b).handle.backing = h.backing ∧ (step.stint h b).handle.closed = h.closed ∧
      (Holding.handle h.resource).follow (step.stint h b).entries = some (.handle h.resource)

/-- The handle counts as the same resource as long as the same thing is behind it. -/
theorem resource_congr {h left : Handle shape} (same : left.backing = h.backing) :
    left.resource = h.resource := by
  simp only [Handle.resource, same]

theorem Keeps.bind {step : HandleStep shape α} {next : α → HandleStep shape β} [step.Local]
    [∀ value, (next value).Local] (hs : step.Keeps) (hn : ∀ value, (next value).Keeps) :
    (step >>= next).Keeps := by
  intro h b
  obtain ⟨backing, closed, used⟩ := hs h b
  rw [stint_bind]
  cases ho : (step.stint h b).outcome with
  | error failure =>
    rw [Stint.bind_of_error ho]
    exact ⟨backing, closed, used⟩
  | ok value =>
    obtain ⟨backing', closed', used'⟩ := hn value (step.stint h b).handle b
    -- by now the handle is another one, but it stands for the same resource
    rw [resource_congr backing] at used'
    rw [Stint.bind_of_ok ho]
    refine ⟨backing'.trans backing, closed'.trans closed, ?_⟩
    rw [Holding.follow_append_of used, used']

/-- A step that writes nothing and leaves the handle alone. -/
theorem keeps_lift {step : Session α} [step.Local] (silent : ∀ b, (step.account b).entries = []) :
    (liftM step : HandleStep shape α).Keeps := by
  intro h b
  rw [stint_lift, silent]
  exact ⟨rfl, rfl, rfl⟩

theorem keeps_pure (value : α) : (pure value : HandleStep shape α).Keeps := by
  intro h b
  rw [stint_pure]
  exact ⟨rfl, rfl, rfl⟩

theorem keeps_throw (failure : Failure) : (throw failure : HandleStep shape α).Keeps := by
  intro h b
  rw [stint_throw]
  exact ⟨rfl, rfl, rfl⟩

/-- An attempt leaves what the step leaves. -/
theorem Keeps.attempt {step : HandleStep shape α} [step.Local] (h : step.Keeps) :
    (HandleStep.attempt step).Keeps := by
  intro handle b
  rw [stint_attempt]
  exact h handle b

theorem keeps_get : (get : HandleStep shape (Handle shape)).Keeps := by
  intro h b
  rw [stint_get]
  exact ⟨rfl, rfl, rfl⟩

/-- A request keeps the handle if what it writes is in place: refused, it writes nothing. -/
theorem keeps_request {h left : Handle shape} {refusal? : Option Failure} {answer : α}
    {entries : List Entry} (backing : left.backing = h.backing) (closed : left.closed = h.closed)
    (used : (Holding.handle h.resource).follow entries = some (.handle h.resource)) :
    (left.request refusal? answer entries).handle.backing = h.backing ∧
      (left.request refusal? answer entries).handle.closed = h.closed ∧
        (Holding.handle h.resource).follow (left.request refusal? answer entries).entries =
          some (.handle h.resource) := by
  refine ⟨backing, closed, ?_⟩
  cases refusal? with
  | some failure => rfl
  | none => exact used

end HandleStep

namespace Handle

theorem bind_keeps (hs : shape ≠ .plain) (parameters : List Datum) :
    (bind parameters : HandleStep shape Unit).Keeps := by
  intro h b
  rw [bind_stint]
  refine HandleStep.keeps_request rfl rfl ?_
  rcases h with ⟨_ | ⟨style, count⟩, template, before, mode, closed⟩
  · cases shape with
    | plain => exact absurd rfl hs
    | prepared => rfl
    | callable => rfl
  · rfl

/-- Writing through a handle leaves no cursor behind. -/
theorem follow_ran {verb : Verb} (writes : verb ≠ .query) (sql : String) (h : Handle .plain) :
    (Holding.handle h.resource).follow [h.backing.ran verb sql] = some (.handle h.resource) := by
  rcases h with ⟨_ | ⟨style, count⟩, template, parameters, mode, closed⟩
  · cases verb with
    | query => exact absurd rfl writes
    | update => rfl
    | execute => rfl
  · rfl

theorem follow_ranPrepared {verb : Verb} (writes : verb ≠ .query) (h : Handle .prepared) :
    (Holding.handle h.resource).follow [h.backing.ranPrepared verb h.sql h.parameters] =
      some (.handle h.resource) := by
  rcases h with ⟨_ | ⟨style, count⟩, template, parameters, mode, closed⟩
  · cases verb with
    | query => exact absurd rfl writes
    | update => rfl
    | execute => rfl
  · rfl

theorem execute_keeps (sql : String) : (execute sql).Keeps := by
  intro h b
  rw [execute_stint]
  exact HandleStep.keeps_request rfl rfl (follow_ran (by decide) sql h)

theorem update_keeps (sql : String) : (update sql).Keeps := by
  intro h b
  rw [update_stint]
  exact HandleStep.keeps_request rfl rfl (follow_ran (by decide) sql h)

theorem executePrepared_keeps : executePrepared.Keeps := by
  intro h b
  rw [executePrepared_stint]
  exact HandleStep.keeps_request rfl rfl (follow_ranPrepared (by decide) h)

theorem updatePrepared_keeps : updatePrepared.Keeps := by
  intro h b
  rw [updatePrepared_stint]
  exact HandleStep.keeps_request rfl rfl (follow_ranPrepared (by decide) h)

theorem setEscapeProcessing_keeps (enabled : Bool) : (setEscapeProcessing enabled).Keeps := by
  intro h b
  rw [setEscapeProcessing_stint]
  refine HandleStep.keeps_request rfl rfl ?_
  rcases h with ⟨_ | ⟨style, count⟩, template, parameters, mode, closed⟩
  · rfl
  · -- a driver that has no escape mode is not asked, and nothing is written
    rw [Backing.escapes]
    split <;> rfl

theorem call_keeps : call.Keeps := by
  intro h b
  cases hb : h.backing with
  | scripted =>
    rw [call_stint_scripted h b hb, ← hb]
    refine HandleStep.keeps_request rfl rfl ?_
    simp only [resource, hb]
    rfl
  | cursor style count =>
    obtain ⟨refusal?, answer, entry, stint, used⟩ := call_stint_cursor h b hb
    rw [stint, ← hb]
    refine HandleStep.keeps_request rfl rfl ?_
    simp only [resource, hb]
    rcases used with ⟨name, rfl⟩ | ⟨sql, rfl⟩
    · rfl
    · rfl

/-- **A query that is read in full keeps its handle**: its cursor is closed before anything else
    is done, and where there is no cursor to close, none was opened. -/
theorem reading_keeps {step : HandleStep shape Cursor} [step.Local]
    (reads : ∀ h b, ∃ refusal? entries,
      step.stint h b = h.request refusal? (cursorOf h.backing) entries ∧
        (Holding.handle h.resource).follow (entries ++ (cursorOf h.backing).closing) =
          some (.handle h.resource)) :
    HandleStep.Keeps (do (← step).materialize) := by
  intro h b
  obtain ⟨refusal?, entries, stint, used⟩ := reads h b
  rw [HandleStep.stint_bind, stint]
  cases refusal? with
  | some failure => exact ⟨rfl, rfl, rfl⟩
  | none =>
    rw [request, Account.request_none, Stint.ok_bind, HandleStep.stint_lift,
      Cursor.materialize_account]
    exact ⟨rfl, rfl, used⟩

theorem query_materialize_keeps (sql : String) :
    HandleStep.Keeps (do (← query sql).materialize) := by
  refine reading_keeps fun h b => ⟨_, _, query_stint sql h b, ?_⟩
  rcases h with ⟨_ | ⟨style, count⟩, template, parameters, mode, closed⟩
  · rfl
  · rfl

theorem queryPrepared_materialize_keeps :
    HandleStep.Keeps (do (← queryPrepared).materialize) := by
  refine reading_keeps fun h b => ⟨_, _, queryPrepared_stint h b, ?_⟩
  rcases h with ⟨_ | ⟨style, count⟩, template, parameters, mode, closed⟩
  · rfl
  · rfl

end Handle

/-- **A caller that leaves closing to the owner keeps the handle**, whatever its requests come
    to. -/
theorem Conduct.run_keeps {conduct : Conduct} (h : conduct.LeavesOpen) : conduct.run.Keeps := by
  induction conduct with
  | answer value => exact HandleStep.keeps_pure value
  | fail failure => exact HandleStep.keeps_throw failure
  | look next ih => exact HandleStep.keeps_get.bind fun handle => ih handle (h handle)
  | bind parameters next ih =>
    exact (Handle.bind_keeps (by decide) parameters).attempt.bind fun outcome =>
      ih outcome (h outcome)
  | call next ih => exact Handle.call_keeps.attempt.bind fun outcome => ih outcome (h outcome)
  | close next => exact h.elim

theorem Handle.handOver_keeps {conduct : Option Conduct} (h : ∀ c ∈ conduct, c.LeavesOpen) :
    (handOver conduct).Keeps := by
  cases conduct with
  | none => exact call_keeps
  | some c => exact Conduct.run_keeps (h c rfl)

/-! ## Acquisitions -/

namespace Connection

/-- Whether the markers of the driver behind a connection are known. There is no question where
    there is no driver. -/
def knowsMarkers : Connection → Bool
  | adapted _ (.other _) => false
  | adapted _ _ | scripted _ _ | offline _ => true

/-- What comes of an acquisition: an open handle, which is then held, or nothing. Over a connection
    of unknown markers a raw cursor may be left that no handle stands for. -/
def Opens (c : Connection) (acquired : Account (Handle shape)) : Prop :=
  (∃ handle, acquired.outcome = .ok handle ∧ handle.closed = false ∧
    Holding.nothing.follow acquired.entries = some (.handle handle.resource)) ∨
  (∃ failure, acquired.outcome = .error failure ∧
    (acquired.entries = [] ∨ c.knowsMarkers = false ∧ acquired.entries = [.cursorOpened]))

theorem opens_request {c : Connection} {refusal? : Option Failure} {handle : Handle shape}
    {entry : Entry} (closed : handle.closed = false)
    (opened : Holding.nothing.step entry = some (.handle handle.resource)) :
    c.Opens (.request refusal? handle [entry]) := by
  cases refusal? with
  | some failure => exact .inr ⟨failure, rfl, .inl rfl⟩
  | none =>
    refine .inl ⟨handle, rfl, closed, ?_⟩
    simp only [Account.request_none, Holding.follow, opened]

theorem opens_refuseHandle (c : Connection) (url : String) (b : Behavior) :
    c.Opens ((refuseHandle url : Session (Handle shape)).account b) := by
  rw [refuseHandle, Session.account_fail]
  exact .inr ⟨_, rfl, .inl rfl⟩

theorem createStatement_opens (c : Connection) (b : Behavior) :
    c.Opens (c.createStatement.account b) := by
  cases c with
  | scripted url withoutDatabase =>
    rw [createStatement, openScripted_account]
    exact opens_request rfl rfl
  | adapted url style =>
    rw [createStatement_adapted]
    exact opens_request rfl rfl
  | offline url => exact opens_refuseHandle _ url b

theorem prepareCall_opens (sql : String) (c : Connection) (b : Behavior) :
    c.Opens ((c.prepareCall sql).account b) := by
  cases c with
  | scripted url withoutDatabase =>
    rw [prepareCall, openScripted_account]
    exact opens_request rfl rfl
  | adapted url style =>
    rw [prepareCall_adapted]
    exact opens_request rfl rfl
  | offline url => exact opens_refuseHandle _ url b

theorem prepareStatement_opens (sql : String) (c : Connection) (b : Behavior) :
    c.Opens ((c.prepareStatement sql).account b) := by
  cases c with
  | scripted url withoutDatabase =>
    rw [prepareStatement, openScripted_account]
    exact opens_request rfl rfl
  | offline url => exact opens_refuseHandle _ url b
  | adapted url style =>
    rw [prepareStatement_adapted]
    cases b.acquireFailure? .cursor with
    | some failure => exact .inr ⟨failure, rfl, .inl rfl⟩
    | none =>
      cases hs : style.spells sql with
      | true =>
        obtain ⟨respelled, hr⟩ := Marker.respell_of_spells hs
        rw [hr]
        exact .inl ⟨_, rfl, rfl, rfl⟩
      | false =>
        obtain ⟨name, rfl, hr⟩ := Marker.respell_of_not_spells hs
        rw [hr]
        exact .inr ⟨_, rfl, .inr ⟨rfl, rfl⟩⟩

end Connection

/-! ## Operations -/

/-- The journal of something that is over: bracketed, or bracketed up to a raw cursor that was
    opened last, for markers that are unknown, and with which it all ended in a failure. -/
def Account.Settled (c : Connection) (a : Account α) : Prop :=
  Bracketed a.entries ∨
    c.knowsMarkers = false ∧ (∃ failure, a.outcome = .error failure) ∧
      ∃ before, Bracketed before ∧ a.entries = before ++ [.cursorOpened]

theorem Account.settled_of_silent {c : Connection} {a : Account α} (h : a.entries = []) :
    a.Settled c := .inl (by rw [h]; exact .nil)

/-- A step that is settled under every behavior. -/
structure Session.Settles (c : Connection) (step : Session α) : Prop where
  isLocal : step.Local
  settled : ∀ b, (step.account b).Settled c

namespace Session

/-- A step that writes nothing. -/
theorem settles_of_silent {c : Connection} {step : Session α} [h : step.Local]
    (silent : ∀ b, (step.account b).entries = []) : step.Settles c :=
  ⟨h, fun b => Account.settled_of_silent (silent b)⟩

/-- Nothing follows once a raw cursor was left behind, so what is settled stays settled. -/
theorem Settles.bind {c : Connection} {step : Session α} {next : α → Session β}
    (hs : step.Settles c) (hn : ∀ value, (next value).Settles c) : (step >>= next).Settles c := by
  refine ⟨hs.isLocal.bind fun value => (hn value).isLocal, fun b => ?_⟩
  rw [hs.isLocal.account_bind fun value => (hn value).isLocal]
  cases ho : (step.account b).outcome with
  | error failure =>
    rw [Account.bind_of_error ho]
    rcases hs.settled b with done | ⟨unknown, -, left⟩
    · exact .inl done
    · exact .inr ⟨unknown, ⟨failure, rfl⟩, left⟩
  | ok value =>
    rw [Account.bind_of_ok ho]
    rcases hs.settled b with done | ⟨-, ⟨failure, failed⟩, -⟩
    · rcases (hn value).settled b with done' | ⟨unknown, failed, before, done', left⟩
      · exact .inl (done.append done')
      · refine .inr ⟨unknown, failed, (step.account b).entries ++ before, done.append done', ?_⟩
        simp only [left, List.append_assoc]
    · rw [ho] at failed
      cases failed

theorem settles_pure (c : Connection) (value : α) : (pure value : Session α).Settles c :=
  settles_of_silent fun b => by rw [account_pure]

theorem settles_fail (c : Connection) (failure : Failure) :
    (fail failure : Session α).Settles c :=
  settles_of_silent fun b => by rw [account_fail]

theorem settles_ofExcept (c : Connection) (result : Except Failure α) :
    (ofExcept result).Settles c :=
  settles_of_silent fun b => by rw [account_ofExcept]

end Session

namespace Runner

/-- **Around a step that keeps its handle an operation is a bracket**, wherever it fails. -/
theorem withHandle_settles (r : Runner) {acquire : Session (Handle shape)} {sql : List String}
    {operation : String} {action : HandleStep shape α} [acquire.Local] [action.Local]
    (opens : ∀ b, r.connection.Opens (acquire.account b)) (keeps : action.Keeps) :
    (r.withHandle acquire sql operation action).Settles r.connection := by
  refine ⟨inferInstance, fun b => ?_⟩
  rw [withHandle_account]
  rcases opens b with ⟨handle, ho, closed, opened⟩ | ⟨failure, ho, left⟩
  · obtain ⟨backing', closed', used⟩ := keeps handle b
    -- the release closes what was acquired, for the action neither closed nor replaced it
    have closes : (action.stint handle b).handle.closes = true := by
      cases hb : handle.backing with
      | scripted => simp only [Handle.closes, backing', hb]
      | cursor style count =>
        simp only [Handle.closes, backing', hb, closed', closed, Bool.not_false]
    have closing : (action.stint handle b).handle.closing = [.closed handle.resource] := by
      rw [Handle.closing, if_pos closes, HandleStep.resource_congr backing']
    left
    simp only [ho, closing]
    rw [Bracketed, Holding.follow_append_of opened, Holding.follow_append_of used]
    simp only [Holding.follow, Holding.step, if_true]
  -- no handle, hence no release; a raw cursor that was left is the last entry
  · simp only [ho]
    rcases left with none | ⟨unknown, cursor⟩
    · exact Account.settled_of_silent none
    · exact .inr ⟨unknown, ⟨_, rfl⟩, [], .nil, cursor⟩

theorem ensureOnline_settles (r : Runner) (c : Connection) : r.ensureOnline.Settles c := by
  refine Session.settles_of_silent fun b => ?_
  rw [ensureOnline_account]
  cases r.offlineFailure? <;> rfl

theorem announce_keeps (event sql : String) :
    (liftM (announce event sql) : HandleStep shape Unit).Keeps :=
  HandleStep.keeps_lift fun b => by rw [announce_account]

theorem queryRendered_settles (r : Runner) (statement : Statement) (sql : String) :
    (r.queryRendered statement sql).Settles r.connection := by
  unfold queryRendered
  split
  · exact r.withHandle_settles (Connection.prepareStatement_opens sql _)
      ((announce_keeps _ sql).bind fun _ => (Handle.bind_keeps (by decide) _).bind fun _ =>
        Handle.queryPrepared_materialize_keeps)
  · exact r.withHandle_settles (Connection.createStatement_opens _)
      ((announce_keeps _ sql).bind fun _ => Handle.query_materialize_keeps sql)

theorem query_settles (r : Runner) (statement : Statement) (visitors : List Visitor) :
    (r.query statement visitors).Settles r.connection := by
  rw [query_eq]
  exact (r.ensureOnline_settles _).bind fun _ => (Session.settles_ofExcept _ _).bind
    (r.queryRendered_settles statement)

theorem updateRendered_settles (r : Runner) (statement : Statement) (sql : String) :
    (r.updateRendered statement sql).Settles r.connection := by
  unfold updateRendered
  split
  · exact r.withHandle_settles (Connection.prepareStatement_opens sql _)
      ((announce_keeps _ sql).bind fun _ => (Handle.bind_keeps (by decide) _).bind fun _ =>
        Handle.updatePrepared_keeps.bind fun _ => HandleStep.keeps_pure _)
  · exact r.withHandle_settles (Connection.createStatement_opens _)
      ((announce_keeps _ sql).bind fun _ => (Handle.update_keeps sql).bind fun _ =>
        HandleStep.keeps_pure _)

theorem update_settles (r : Runner) (statement : Statement) (visitors : List Visitor) :
    (r.update statement visitors).Settles r.connection := by
  rw [update_eq]
  refine Session.Settles.bind (Session.settles_of_silent fun b => ?_) fun _ =>
    (r.ensureOnline_settles _).bind fun _ => (Session.settles_ofExcept _ _).bind
      (r.updateRendered_settles statement)
  rw [Session.account_failIf]
  cases updateRefusal? statement <;> rfl

theorem runEach_keeps (r : Runner) (strings : List String) : (r.runEach strings).Keeps := by
  induction strings with
  | nil => exact HandleStep.keeps_pure ()
  | cons sql rest ih =>
    rw [runEach]
    refine (announce_keeps _ sql).bind fun _ => ?_
    split
    · exact (Handle.setEscapeProcessing_keeps false).bind fun _ =>
        (Handle.execute_keeps sql).bind fun _ => ih
    · exact (Handle.execute_keeps sql).bind fun _ => ih

theorem executePrepared_settles (r : Runner) (sql : String) (parameters : List Datum) :
    (r.executePrepared sql parameters).Settles r.connection := by
  refine Session.Settles.bind (Session.settles_of_silent fun b => ?_) fun _ => ?_
  · rw [announce_account]
  · exact r.withHandle_settles (Connection.prepareStatement_opens sql _)
      ((Handle.bind_keeps (by decide) _).bind fun _ => Handle.executePrepared_keeps)

theorem executeCommand_settles (r : Runner) (visitors : List Visitor) (command : Command) :
    (r.executeCommand visitors command).Settles r.connection := by
  refine (r.ensureOnline_settles _).bind fun _ => ?_
  split
  · exact r.executePrepared_settles _ _
  · refine (Session.settles_ofExcept _ _).bind fun rendered => ?_
    exact r.withHandle_settles (Connection.createStatement_opens _) (r.runEach_keeps rendered)

/-- Commands one after another; one that fails is the last. -/
theorem executeAll_settles (r : Runner) (visitors : List Visitor) (commands : List Command) :
    (r.executeAll visitors commands).Settles r.connection := by
  induction commands with
  | nil => exact Session.settles_pure _ ()
  | cons command rest ih => exact (r.executeCommand_settles visitors command).bind fun _ => ih

theorem executeChange_settles (r : Runner) (statement : Statement) (visitors : List Visitor) :
    (r.executeChange statement visitors).Settles r.connection :=
  (r.ensureOnline_settles _).bind fun _ => (Session.settles_ofExcept _ _).bind fun commands =>
    r.executeAll_settles visitors commands

theorem execute_settles (r : Runner) (statement : Statement) (visitors : List Visitor) :
    (r.execute statement visitors).Settles r.connection := by
  cases statement with
  | command command => exact r.executeCommand_settles visitors command
  | change change => exact r.executeChange_settles _ visitors

theorem executeCallable_settles (r : Runner) (statement : Statement) (conduct : Option Conduct)
    (visitors : List Visitor) (keeps : ∀ c ∈ conduct, c.LeavesOpen) :
    (r.executeCallable statement conduct visitors).Settles r.connection := by
  refine (r.ensureOnline_settles _).bind fun _ =>
    (Session.settles_ofExcept _ _).bind fun rendered => ?_
  cases rendered with
  | nil => exact Session.settles_fail _ _
  | cons sql rest =>
    exact r.withHandle_settles (Connection.prepareCall_opens sql _)
      ((announce_keeps _ sql).bind fun _ => (Handle.bind_keeps (by decide) _).bind fun _ =>
        Handle.handOver_keeps keeps)

end Runner

/-- Closing is left to the runner. Only a caller that is handed a handle could do otherwise. -/
def Operation.LeavesClosing : Operation → Prop
  | .call _ (some conduct) _ => conduct.LeavesOpen
  | _ => True

/-- Of a callback it can be read off its moves. -/
theorem Operation.leavesClosing_executeCallable (statement : Statement) (visitors : List Visitor)
    {callback : Callback} (h : callback.neverCloses = true) :
    (executeCallable statement (some callback) visitors).LeavesClosing :=
  Callback.conduct_leavesOpen h

namespace Runner

/-- **Every operation is settled**, whatever it is asked to do and wherever it fails. -/
theorem perform_settles (r : Runner) {operation : Operation} (h : operation.LeavesClosing) :
    (r.perform operation).Settles r.connection := by
  cases operation with
  | query statement visitors =>
    exact (r.query_settles statement visitors).bind fun _ => Session.settles_pure _ _
  | update statement visitors =>
    exact (r.update_settles statement visitors).bind fun _ => Session.settles_pure _ _
  | execute statement visitors =>
    exact (r.execute_settles statement visitors).bind fun _ => Session.settles_pure _ _
  | executeChange statement visitors =>
    exact (r.executeChange_settles statement visitors).bind fun _ => Session.settles_pure _ _
  | call statement conduct visitors =>
    refine (r.executeCallable_settles statement conduct visitors fun c hc => ?_).bind fun _ =>
      Session.settles_pure _ _
    cases hc
    exact h
  | comment message =>
    refine Session.Settles.bind (Session.settles_of_silent fun b => ?_) fun _ =>
      Session.settles_pure _ _
    rw [comment, Session.account_report]

/-- **Histories are well bracketed.** Over any connection and from any world, with a database that
    may behave differently from one operation to the next, operations one after another write down
    what each of them adds. Where the markers of the driver are known, and where there is no driver,
    each adds a bracketed journal: what it opened it closed, once, in the right order and before it
    ended, with one handle at a time; and so the history is bracketed as a whole. For a driver of
    unknown markers there may be one more entry, a raw cursor that never became a handle; every
    handle is bracketed there too. -/
theorem performAll_bracketed (r : Runner) (w : World) (turns : List Turn)
    (h : ∀ turn ∈ turns, turn.operation.LeavesClosing) :
    (r.performAll w turns).2.journal = w.journal ++ (r.segments w turns).flatten ∧
      (r.segments w turns).length = turns.length ∧
      (r.connection.knowsMarkers = true →
        (∀ segment ∈ r.segments w turns, Bracketed segment ∧ Balanced segment) ∧
          Bracketed (r.segments w turns).flatten) ∧
      ∀ segment ∈ r.segments w turns, ∃ before, Bracketed before ∧
        (segment = before ∨ segment = before ++ [.cursorOpened]) := by
  have settled : ∀ segment ∈ r.segments w turns, Bracketed segment ∨
      r.connection.knowsMarkers = false ∧
        ∃ before, Bracketed before ∧ segment = before ++ [.cursorOpened] := by
    intro segment hs
    rw [segments_eq] at hs
    obtain ⟨turn, ht, rfl⟩ := List.mem_map.mp hs
    rcases (r.perform_settles (h turn ht)).settled turn.behavior with done | ⟨unknown, -, left⟩
    · exact .inl done
    · exact .inr ⟨unknown, left⟩
  refine ⟨r.performAll_journal w turns, by rw [segments_eq, List.length_map], ?_, ?_⟩
  · intro known
    have bracketed : ∀ segment ∈ r.segments w turns, Bracketed segment := by
      intro segment hs
      rcases settled segment hs with done | ⟨unknown, -⟩
      · exact done
      · rw [known] at unknown
        cases unknown
    exact ⟨fun segment hs => ⟨bracketed segment hs, (bracketed segment hs).balanced⟩,
      .flatten bracketed⟩
  · intro segment hs
    rcases settled segment hs with done | ⟨-, before, done, left⟩
    · exact ⟨segment, done, .inl rfl⟩
    · exact ⟨before, done, .inr left⟩

/-- Operations over a scripted connection that refuses first rows and then SQL, and closes nothing
    meanwhile. The second is handed to a caller that goes on when its call has failed. -/
theorem performAll_bracketed_refusing :
    let conduct : Conduct := .call fun _ => .bind [.int 8] fun _ => .fail (.fault .zeroInPath)
    let turns : List Turn := [
      { operation := .query (.command (.prepared "SELECT ?" [.int 7])) []
        behavior := { failClose := Resource.all, failFetch := true } },
      { operation := .call (.command (.call "CALL p(?)" [.int 7])) (some conduct) []
        behavior := { failClose := [.callable], refused := [⟨"CALL", none, .driver⟩] } }]
    (∀ turn ∈ turns, turn.operation.LeavesClosing) ∧
      ∀ segment ∈ ({ connection := .scripted "db" false, dialect := .sqlite : Runner }).segments
        {} turns, Bracketed segment ∧ Balanced segment := by
  intro conduct turns
  have leave : ∀ turn ∈ turns, turn.operation.LeavesClosing := by
    intro turn mem
    simp only [turns, List.mem_cons, List.not_mem_nil, or_false] at mem
    rcases mem with rfl | rfl
    · trivial
    · exact fun _ _ => trivial
  exact ⟨leave, ((performAll_bracketed _ _ turns leave).2.2.1 rfl).1⟩

end Runner

end SqlRunner
