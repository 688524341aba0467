import SqlRunner.Bench
import SqlRunner.Proofs.Stranding

/-!
# What is handed out — who closes a raw cursor

A handle over a driver owns its raw cursor and closes it when it is first asked to. What it hands
out should leave that to it. The cursor of a query does: it is a view, and closing a view closes
nothing. A call that is run by its text does not: it hands out the raw cursor itself, and whoever
holds that closes it, before the handle or after it, as often as it is asked to.

`Held.ask_heeded` says what comes of one request to anything that a client of a driver can hold. It
closes the raw cursor if and only if it is a request to close that is made of an open handle or of
the raw cursor itself, and what is answered can be held in turn. A handle is the same kind of handle
afterwards, and everything else is left as it was.
-/

set_option autoImplicit false

namespace SqlRunner

variable {α β : Type} {shape : Shape}

/-! ## What is held -/

/-- Whether it is the raw cursor of a driver. -/
def Datum.isRawCursor : Datum → Bool
  | .cursor .raw => true
  | _ => false

/-- Whether the handle can hand out the raw cursor. -/
def Wish.calls : Wish → Bool
  | .callable _ => true
  | _ => false

/-- Whether it is the request to close. -/
def Request.isClose : Request → Bool
  | .close => true
  | _ => false

namespace Held

/-- Whether it was closed, if it is a handle. -/
def closed? : Held → Option Bool
  | plain h => some h.closed
  | prepared h | releasing h => some h.closed
  | callable h => some h.closed
  | cursor _ | data _ => none

/-- Whether it is a handle. -/
def isHandle (held : Held) : Bool := held.closed?.isSome

/-- Whether it is the raw cursor of a driver. -/
def isRawCursor : Held → Bool
  | data value => value.isRawCursor
  | _ => false

/-- What a client of a driver can hold: handles over a raw cursor, views, and values. A raw cursor
    comes from a callable handle only. -/
def Proper (calls : Bool) : Held → Prop
  | plain h => h.backing ≠ .scripted
  | prepared h | releasing h => h.backing ≠ .scripted
  | callable h => h.backing ≠ .scripted ∧ calls = true
  | cursor c => c ≠ .scripted
  | data value => value.isRawCursor = true → calls = true

theorem isRawCursor_of_handle {held : Held} {was : Bool} (h : held.closed? = some was) :
    held.isRawCursor = false := by
  cases held with
  | cursor c => cases h
  | data value => cases h
  | _ => rfl

theorem Proper.rawCursor {calls : Bool} {held : Held} (h : held.Proper calls)
    (raw : held.isRawCursor = true) : calls = true := by
  cases held with
  | data value => exact h raw
  | _ => cases raw

/-- An answer that a client may hold. -/
def Good (calls : Bool) (reply? : Option Reply) : Prop :=
  ∀ reply, reply? = some reply → (ofReply reply).Proper calls

theorem good_none (calls : Bool) : Good calls none := nofun

theorem good_data {calls : Bool} {value : Datum} (h : value.isRawCursor = false) :
    Good calls (some (.data value)) := by
  rintro _ ⟨⟩
  exact fun raw => absurd (h.symm.trans raw) Bool.false_ne_true

theorem good_call (value : Datum) : Good true (some (.data value)) := by
  rintro _ ⟨⟩
  exact fun _ => rfl

theorem good_cursor {calls : Bool} {c : Cursor} (h : c ≠ .scripted) :
    Good calls (some (.cursor c)) := by
  rintro _ ⟨⟩
  exact h

theorem good_count (calls : Bool) (count? : Option Int) : Good calls (some (.count count?)) := by
  cases count? <;> exact good_data rfl

theorem good_description (calls : Bool) (labels? : Option (List Datum)) :
    Good calls (some (.description labels?)) := by
  cases labels? <;> exact good_data rfl

theorem good_propertyOf (calls : Bool) (h : Handle shape) (name : String) :
    Good calls (propertyOf h name) := by
  unfold propertyOf
  split
  · exact good_data rfl
  · exact good_data rfl
  · exact good_data rfl
  · exact good_none calls

/-! ### Handles -/

/-- Closing a handle, without an answer. -/
def closing : HandleStep shape (Option Reply) := do
  Handle.close
  return some .nothing

instance local_closing : (closing : HandleStep shape (Option Reply)).Local := by
  unfold closing
  infer_instance

theorem closing_stint (h : Handle shape) (b : Behavior) :
    closing.stint h b =
      ⟨⟨(h.closeFailure? b).elim (.ok (some .nothing)) .error, h.closing, []⟩,
        { h with closed := true }⟩ := by
  rw [closing, HandleStep.stint_bind, Handle.close_stint, Account.closing]
  cases h.closeFailure? b with
  | some failure => rfl
  | none =>
    rw [Option.elim_none, Stint.ok_bind, HandleStep.stint_pure, List.append_nil]
    rfl

/-- What a handle does on a request: the first request to close closes its raw cursor, and nothing
    else does. -/
def Heeds (calls : Bool) (request : Request) (step : HandleStep shape (Option Reply)) : Prop :=
  ∀ (h : Handle shape) (b : Behavior), h.backing ≠ .scripted →
    (step.stint h b).handle.backing = h.backing ∧
      (step.stint h b).handle.closed = (h.closed || request.isClose) ∧
      cursorLife (step.stint h b).entries =
        (if request.isClose && !h.closed then [.closed] else []) ∧
      ∀ reply, (step.stint h b).outcome = .ok (some reply) → (ofReply reply).Proper calls

theorem heeds_closing (calls : Bool) :
    Heeds calls .close (closing : HandleStep shape (Option Reply)) := by
  intro h b raw
  rw [closing_stint]
  refine ⟨rfl, (Bool.or_true h.closed).symm, ?_, fun reply given => ?_⟩
  · rcases h with ⟨_ | ⟨style, count⟩, template, parameters, mode, closed⟩
    · exact absurd rfl raw
    · cases closed <;> rfl
  · cases hc : h.closeFailure? b with
    | some failure =>
      rw [hc] at given
      cases given
    | none =>
      rw [hc] at given
      cases given
      exact nofun

theorem heeds_of_leaves {calls : Bool} {request : Request}
    {step : HandleStep shape (Option Reply)} (other : request.isClose = false)
    (leaves : step.Leaves (Good calls)) : Heeds calls request step := by
  intro h b raw
  obtain ⟨backing, closed, life, gives⟩ := leaves h b raw
  rw [other, Bool.or_false, Bool.false_and]
  exact ⟨backing, closed, life, fun reply given => gives _ given reply rfl⟩

instance local_askPlain (request : Request) : (askPlain request).Local := by
  unfold askPlain
  split <;> infer_instance

instance local_askTemplate (request : Request) : (askTemplate request).Local := by
  unfold askTemplate
  split <;> infer_instance

instance local_askPrepared (request : Request) : (askPrepared request).Local := by
  unfold askPrepared
  split <;> infer_instance

instance local_askCallable (request : Request) : (askCallable request).Local := by
  unfold askCallable
  split <;> infer_instance

/-- A step without an answer of its own. -/
theorem leaves_nothing {calls : Bool} {step : HandleStep shape Unit} [step.Local]
    (h : step.Leaves fun _ => True) :
    HandleStep.Leaves (Good calls) (do
      step
      return some .nothing) :=
  h.bind fun _ _ => HandleStep.leaves_pure (good_data rfl)

/-- Something that is read off the handle. -/
theorem leaves_read {calls : Bool} {read : Handle shape → Option Reply}
    (good : ∀ h, Good calls (read h)) :
    HandleStep.Leaves (Good calls) (do return read (← get)) := by
  intro h b raw
  rw [HandleStep.stint_get_bind, HandleStep.stint_pure]
  exact ⟨rfl, rfl, Account.spares_ok (good h)⟩

theorem askPlain_heeds (calls : Bool) (request : Request) :
    Heeds calls request (askPlain request) := by
  -- the cases are the rows of `askPlain`; the last three of them have no answer
  unfold askPlain
  split
  case h_1 => exact heeds_of_leaves rfl (leaves_read fun h => good_data rfl)
  case h_2 => exact heeds_of_leaves rfl (leaves_read fun h => good_data rfl)
  case h_3 sql => exact heeds_of_leaves rfl (leaves_nothing (Handle.execute_leaves sql))
  case h_4 sql =>
    exact heeds_of_leaves rfl ((Handle.query_leaves sql).bind fun _ view =>
      HandleStep.leaves_pure (good_cursor view))
  case h_5 sql =>
    exact heeds_of_leaves rfl ((Handle.update_leaves sql).bind fun count? _ =>
      HandleStep.leaves_pure (good_count calls count?))
  case h_6 enabled =>
    exact heeds_of_leaves rfl (leaves_nothing (Handle.setEscapeProcessing_leaves enabled))
  case h_7 => exact heeds_closing calls
  case h_8 => exact heeds_of_leaves rfl (HandleStep.leaves_pure (good_none calls))
  case h_9 => exact heeds_of_leaves rfl (HandleStep.leaves_pure (good_none calls))
  case h_10 => exact heeds_of_leaves rfl (HandleStep.leaves_pure (good_none calls))

theorem askTemplate_heeds (calls : Bool) (request : Request) :
    Heeds calls request (askTemplate request) := by
  cases request with
  | close => exact heeds_closing calls
  | bind parameters => exact heeds_of_leaves rfl (leaves_nothing (Handle.bind_leaves parameters))
  | run verb sql =>
    refine heeds_of_leaves rfl ?_
    cases verb with
    | execute => exact leaves_nothing Handle.executePrepared_leaves
    | query =>
      exact Handle.queryPrepared_leaves.bind fun _ view =>
        HandleStep.leaves_pure (good_cursor view)
    | update =>
      exact Handle.updatePrepared_leaves.bind fun count? _ =>
        HandleStep.leaves_pure (good_count calls count?)
  | property name => exact heeds_of_leaves rfl (HandleStep.leaves_pure (good_none calls))
  | setEscapeProcessing enabled =>
    exact heeds_of_leaves rfl (HandleStep.leaves_pure (good_none calls))
  | fetchAll => exact heeds_of_leaves rfl (HandleStep.leaves_pure (good_none calls))

theorem askPrepared_heeds (calls : Bool) (request : Request) :
    Heeds calls request (askPrepared request) := by
  cases request with
  | property name =>
    exact heeds_of_leaves rfl (leaves_read fun h => good_propertyOf calls h name)
  | _ => exact askTemplate_heeds calls _

/-- A call may hand out the raw cursor. -/
theorem askCallable_heeds (request : Request) : Heeds true request (askCallable request) := by
  cases request with
  | close => exact heeds_closing true
  | property name => exact heeds_of_leaves rfl (leaves_read fun h => good_propertyOf true h name)
  | bind parameters => exact heeds_of_leaves rfl (leaves_nothing (Handle.bind_leaves parameters))
  | run verb sql =>
    refine heeds_of_leaves rfl ?_
    cases verb with
    | execute =>
      exact Handle.call_leaves.bind fun answer _ => HandleStep.leaves_pure (good_call answer)
    | query => exact HandleStep.leaves_pure (good_none true)
    | update => exact HandleStep.leaves_pure (good_none true)
  | setEscapeProcessing enabled =>
    exact heeds_of_leaves rfl (HandleStep.leaves_pure (good_none true))
  | fetchAll => exact heeds_of_leaves rfl (HandleStep.leaves_pure (good_none true))

/-! ### Whatever is held -/

/-- The raw cursor is closed by a request to close, made of a handle that is open or of the raw
    cursor. -/
def closes (request : Request) (held : Held) : Bool :=
  request.isClose && (held.closed? == some false || held.isRawCursor)

theorem closes_cursor (c : Cursor) (request : Request) : (cursor c).closes request = false :=
  Bool.and_false _

theorem closes_data (value : Datum) (request : Request) :
    (data value).closes request = (request.isClose && value.isRawCursor) := rfl

/-- The reply to a request, by what came of asking. -/
def replyTo (held : Held) (request : Request) :
    Except Failure (Option Reply) → Except Failure Reply
  | .ok (some reply) => .ok reply
  | .ok none => held.refuse request
  | .error failure => .error failure

theorem of_replyTo_eq_ok {held : Held} {request : Request}
    {outcome : Except Failure (Option Reply)} {given : Reply}
    (h : held.replyTo request outcome = .ok given) : outcome = .ok (some given) := by
  rcases outcome with failure | _ | reply
  · cases h
  · cases h
  · cases h
    rfl

/-- What comes of a request to something held: what is held afterwards is of the same kind, what is
    answered may be held as well, and the raw cursor is closed if the request closes it. -/
structure Heeded (calls : Bool) (request : Request) (held : Held)
    (a : Account (Except Failure Reply × Held)) : Prop where
  answered : ∃ reply after, a.outcome = .ok (reply, after) ∧ after.Proper calls ∧
    after.closed? = held.closed?.map (· || request.isClose) ∧
    ∀ given, reply = .ok given → (ofReply given).Proper calls
  life : cursorLife a.entries = if held.closes request then [.closed] else []

theorem askHandle_account (hold : Handle shape → Held) (h : Handle shape) (request : Request)
    (step : HandleStep shape (Option Reply)) [step.Local] (b : Behavior) :
    (askHandle hold h request step).account b =
      ⟨.ok ((hold h).replyTo request (step.stint h b).outcome, hold (step.stint h b).handle),
        (step.stint h b).entries, (step.stint h b).events⟩ := by
  rw [askHandle, Session.account_bind, Handle.perform_account, Account.noting_bind,
    Session.account_pure, List.append_nil, List.append_nil]
  cases (step.stint h b).outcome with
  | error failure => rfl
  | ok reply? => cases reply? <;> rfl

theorem askHandle_heeded {calls : Bool} {request : Request} (hold : Handle shape → Held)
    {step : HandleStep shape (Option Reply)} [step.Local] (heeds : Heeds calls request step)
    (proper : ∀ h, h.backing ≠ .scripted → (hold h).Proper calls)
    (closed : ∀ h, (hold h).closed? = some h.closed)
    (raw : ∀ h, (hold h).isRawCursor = false) {h : Handle shape} (backing : h.backing ≠ .scripted)
    (b : Behavior) :
    Heeded calls request (hold h) ((askHandle hold h request step).account b) := by
  obtain ⟨backing', closed', life, gives⟩ := heeds h b backing
  rw [askHandle_account]
  refine ⟨⟨_, _, rfl, proper _ (backing' ▸ backing), ?_,
    fun given same => gives given (of_replyTo_eq_ok same)⟩, ?_⟩
  · rw [closed, closed, closed']
    rfl
  · rw [closes, closed, raw, life]
    cases h.closed <;> rfl

instance local_askCursor (c : Cursor) (request : Request) : (askCursor c request).Local := by
  unfold askCursor
  split <;> infer_instance

instance local_askRawCursor (request : Request) : (askRawCursor request).Local := by
  unfold askRawCursor
  split <;> infer_instance

instance local_askData (request : Request) (value : Datum) : (askData request value).Local := by
  unfold askData
  split <;> infer_instance

theorem askUnchanged_account (held : Held) (request : Request) (step : Session (Option Reply))
    [step.Local] (b : Behavior) :
    (askUnchanged held request step).account b =
      ⟨.ok (held.replyTo request (step.account b).outcome, held), (step.account b).entries,
        (step.account b).events⟩ := by
  refine Session.account_attempt_bind step (fun outcome => (held.replyTo request outcome, held))
    (fun outcome => ?_) b
  rcases outcome with failure | _ | reply <;> rfl

/-- A request that closes nothing, to something that it leaves as it is. -/
theorem askUnchanged_heeded {calls : Bool} {request : Request} {held : Held}
    {step : Session (Option Reply)} [step.Local] {b : Behavior} (proper : held.Proper calls)
    (none : held.closed? = none)
    (life : cursorLife (step.account b).entries = if held.closes request then [.closed] else [])
    (gives : ∀ reply?, (step.account b).outcome = .ok reply? → Good calls reply?) :
    Heeded calls request held ((askUnchanged held request step).account b) := by
  rw [askUnchanged_account]
  exact ⟨⟨_, _, rfl, proper, by rw [none]; rfl,
    fun given same => gives _ (of_replyTo_eq_ok same) given rfl⟩, life⟩

theorem fetchAll_account (c : Cursor) (b : Behavior) :
    (do return some (.rows (← c.fetchAll)) : Session (Option Reply)).account b =
      .request b.fetchFailure? (some (.rows b.rows)) [] := by
  simp only [Cursor.fetchAll, Session.account_bind, Session.account_behavior,
    Session.account_pure, Session.account_failIf, Account.ok_bind]
  cases b.fetchFailure? <;> rfl

/-- Something that is read off the behavior. -/
theorem spares_read {calls : Bool} {read : Behavior → Option Reply}
    (good : ∀ b, Good calls (read b)) (b : Behavior) :
    ((do return read (← Session.behavior) : Session (Option Reply)).account b).Spares
      (Good calls) := by
  rw [Session.account_bind, Session.account_behavior, Account.ok_bind, Session.account_pure]
  exact Account.spares_ok (good b)

theorem spares_fetchAll (calls : Bool) (c : Cursor) (b : Behavior) :
    ((do return some (.rows (← c.fetchAll)) : Session (Option Reply)).account b).Spares
      (Good calls) := by
  rw [fetchAll_account]
  exact Account.spares_request rfl (good_data rfl)

theorem spares_pure {calls : Bool} {reply? : Option Reply} (good : Good calls reply?)
    (b : Behavior) : ((pure reply? : Session (Option Reply)).account b).Spares (Good calls) := by
  rw [Session.account_pure]
  exact Account.spares_ok good

/-- A view closes nothing and hands out values. -/
theorem askCursor_spares (calls : Bool) {c : Cursor} (view : c ≠ .scripted) (request : Request)
    (b : Behavior) : ((askCursor c request).account b).Spares (Good calls) := by
  unfold askCursor
  split
  case h_1 => exact spares_read (fun b => good_description calls b.columns) b
  case h_2 count => exact spares_pure (good_count calls count) b
  case h_3 => exact spares_fetchAll calls _ b
  case h_4 =>
    cases c with
    | scripted => exact absurd rfl view
    | view count => exact spares_pure (good_data rfl) b
  case h_5 => exact spares_pure (good_none calls) b

/-- Asked for anything else than to close, a raw cursor is not closed either. -/
theorem askRawCursor_spares (calls : Bool) {request : Request} (other : request.isClose = false)
    (b : Behavior) : ((askRawCursor request).account b).Spares (Good calls) := by
  unfold askRawCursor
  split
  case h_1 => exact spares_read (fun b => good_description calls b.columns) b
  case h_2 => exact spares_read (fun b => good_count calls b.rowCount) b
  case h_3 sql =>
    have checked : (Account.request (b.refusal? sql) () []).Spares fun _ => True :=
      Account.spares_request rfl trivial
    rw [Session.account_bind, Handle.checkSql_account]
    refine checked.bind fun _ _ => ?_
    rw [Session.account_bind, Session.account_write, Account.noting_bind, Session.account_pure]
    exact ⟨rfl, fun _ same => Except.ok.inj same ▸ good_data rfl⟩
  case h_4 => exact spares_fetchAll calls _ b
  case h_5 => cases other
  case h_6 => exact spares_pure (good_none calls) b

/-- A raw cursor is closed as often as it is asked to. -/
theorem askRawCursor_close_account (b : Behavior) :
    (askRawCursor .close).account b =
      ⟨(b.closeFailure? .cursor).elim (.ok (some .nothing)) .error, [.closed .cursor], []⟩ := by
  show Session.account (do
    Session.write (.closed .cursor)
    Session.failIf ((← Session.behavior).closeFailure? .cursor)
    return some Reply.nothing) b = _
  simp only [Session.account_bind, Session.account_write, Session.account_behavior,
    Session.account_failIf, Session.account_pure, Account.noting_bind]
  cases b.closeFailure? .cursor <;> rfl

theorem askData_life (request : Request) (value : Datum) (b : Behavior) :
    cursorLife ((askData request value).account b).entries =
        (if (data value).closes request then [.closed] else []) ∧
      ∀ calls reply?, ((askData request value).account b).outcome = .ok reply? →
        Good calls reply? := by
  unfold askData
  split
  case h_1 =>
    cases hr : request.isClose with
    | false =>
      rw [closes_data, hr]
      exact ⟨(askRawCursor_spares false hr b).1, fun calls => (askRawCursor_spares calls hr b).2⟩
    | true =>
      cases request with
      | close =>
        rw [askRawCursor_close_account]
        refine ⟨rfl, fun calls reply? given => ?_⟩
        cases hc : b.closeFailure? .cursor with
        | some failure =>
          rw [hc] at given
          cases given
        | none =>
          rw [hc] at given
          cases given
          exact good_data rfl
      | _ => cases hr
  case h_2 other =>
    have tame : value.isRawCursor = false := by
      unfold Datum.isRawCursor
      split
      · exact absurd rfl other
      · rfl
    rw [Session.account_pure, closes_data, tame, Bool.and_false]
    exact ⟨rfl, fun calls reply? given => Except.ok.inj given ▸ good_none calls⟩

instance local_ask (request : Request) (held : Held) : (held.ask request).Local := by
  cases held with
  | cursor c =>
    refine .bind inferInstance fun outcome => ?_
    split <;> infer_instance
  | data value =>
    refine .bind inferInstance fun outcome => ?_
    split <;> infer_instance
  | _ => exact .bind inferInstance fun _ => inferInstance

/-- **What comes of a request to anything that a client of a driver can hold.** -/
theorem ask_heeded {calls : Bool} {held : Held} (proper : held.Proper calls) (request : Request)
    (b : Behavior) : Heeded calls request held ((held.ask request).account b) := by
  cases held with
  | plain h =>
    exact askHandle_heeded plain (askPlain_heeds calls request) (fun _ raw => raw)
      (fun _ => rfl) (fun _ => rfl) proper b
  | prepared h =>
    exact askHandle_heeded prepared (askPrepared_heeds calls request) (fun _ raw => raw)
      (fun _ => rfl) (fun _ => rfl) proper b
  | releasing h =>
    exact askHandle_heeded releasing (askTemplate_heeds calls request) (fun _ raw => raw)
      (fun _ => rfl) (fun _ => rfl) proper b
  | callable h =>
    obtain ⟨raw, rfl⟩ := proper
    exact askHandle_heeded callable (askCallable_heeds request) (fun _ raw => ⟨raw, rfl⟩)
      (fun _ => rfl) (fun _ => rfl) raw b
  | cursor c =>
    obtain ⟨life, gives⟩ := askCursor_spares calls proper request b
    exact askUnchanged_heeded proper rfl (by rw [life, closes_cursor]; rfl) gives
  | data value =>
    obtain ⟨life, gives⟩ := askData_life request value b
    exact askUnchanged_heeded proper rfl life (gives calls)

end Held

end SqlRunner
