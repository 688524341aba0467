import SqlRunner.Proofs.Account.Runner

/-!
# The life of raw cursors — what is done with one that became a handle

Over an adapted connection a handle is a raw cursor, and the cursor of a query is only a view of it.
So of everything an operation writes down, two kinds of entries matter: a raw cursor was opened, and
a raw cursor was closed. `cursorLife` is the journal with everything else left out. An operation
that leaks nothing and closes nothing twice has a life of pairs, open and close, as many as it had
handles.

A step on a handle `Leaves` the closing of its cursor to others if it says nothing of raw cursors.
Every request does but one, which is to close. A step `Minds` its cursor if the release after it
closes what a release at once would have closed. Every step does, closing included, and so does
every sequence of them. A caller that is handed a handle may therefore close it, as often as it
likes: a raw cursor is closed once.
-/

set_option autoImplicit false

namespace SqlRunner

variable {α β : Type} {shape : Shape}

/-- What happens to a raw cursor. -/
inductive CursorEvent where
  | opened
  | closed
deriving DecidableEq, Repr

/-- What an entry says of raw cursors. Over an adapted connection nothing else has a cursor that
    could be closed. -/
def Entry.cursorEvent? : Entry → Option CursorEvent
  | .cursorOpened => some .opened
  | .closed .cursor => some .closed
  | _ => none

/-- The raw cursors of a journal: opened and closed, in order. -/
def cursorLife (journal : List Entry) : List CursorEvent := journal.filterMap Entry.cursorEvent?

@[simp] theorem cursorLife_append (first second : List Entry) :
    cursorLife (first ++ second) = cursorLife first ++ cursorLife second :=
  List.filterMap_append

/-- Cursors one after another, each closed before the next is opened. -/
def closedCursors (n : Nat) : List CursorEvent :=
  (List.replicate n [CursorEvent.opened, .closed]).flatten

theorem closedCursors_add (m n : Nat) :
    closedCursors (m + n) = closedCursors m ++ closedCursors n := by
  rw [closedCursors, ← List.replicate_append_replicate, List.flatten_append]
  rfl

theorem count_opened_closedCursors (n : Nat) : (closedCursors n).count .opened = n := by
  induction n with
  | zero => rfl
  | succ n ih => rw [Nat.add_comm, closedCursors_add, List.count_append, ih]; rfl

theorem count_closed_closedCursors (n : Nat) : (closedCursors n).count .closed = n := by
  induction n with
  | zero => rfl
  | succ n ih => rw [Nat.add_comm, closedCursors_add, List.count_append, ih]; rfl

/-! ## Steps that spare the raw cursor -/

/-- An account that says nothing of raw cursors and gives only what is good. -/
def Account.Spares (good : α → Prop) (a : Account α) : Prop :=
  cursorLife a.entries = [] ∧ ∀ value, a.outcome = .ok value → good value

namespace Account

variable {good : α → Prop} {good' : β → Prop}

theorem spares_ok {value : α} (h : good value) : (⟨.ok value, [], []⟩ : Account α).Spares good :=
  ⟨rfl, fun _ same => Except.ok.inj same ▸ h⟩

theorem spares_error (failure : Failure) :
    (⟨.error failure, [], []⟩ : Account α).Spares good :=
  ⟨rfl, fun _ same => nomatch same⟩

theorem spares_request {refusal? : Option Failure} {answer : α} {entries : List Entry}
    (none : cursorLife entries = []) (h : good answer) :
    (Account.request refusal? answer entries).Spares good := by
  cases refusal? with
  | some failure => exact spares_error failure
  | none => exact ⟨none, fun _ same => Except.ok.inj same ▸ h⟩

theorem Spares.bind {a : Account α} {next : α → Account β} (h : a.Spares good)
    (hn : ∀ value, good value → (next value).Spares good') : (a.bind next).Spares good' := by
  obtain ⟨life, gives⟩ := h
  cases ho : a.outcome with
  | error failure =>
    rw [Account.bind_of_error ho]
    exact ⟨life, fun _ same => nomatch same⟩
  | ok value =>
    obtain ⟨life', gives'⟩ := hn value (gives value ho)
    rw [Account.bind_of_ok ho]
    exact ⟨by rw [cursorLife_append, life, life', List.append_nil], gives'⟩

end Account

namespace HandleStep

variable {good : α → Prop} {good' : β → Prop}

/-- A step that leaves the closing of its raw cursor to others. -/
def Leaves (good : α → Prop) (step : HandleStep shape α) : Prop :=
  ∀ (h : Handle shape) (b : Behavior), h.backing ≠ .scripted →
    (step.stint h b).handle.backing = h.backing ∧ (step.stint h b).handle.closed = h.closed ∧
      (step.stint h b).toAccount.Spares good

theorem Leaves.bind {step : HandleStep shape α} {next : α → HandleStep shape β} [step.Local]
    [∀ value, (next value).Local] (hs : step.Leaves good)
    (hn : ∀ value, good value → (next value).Leaves good') : (step >>= next).Leaves good' := by
  intro h b raw
  obtain ⟨backing, closed, life, gives⟩ := hs h b raw
  rw [stint_bind]
  cases ho : (step.stint h b).outcome with
  | error failure =>
    rw [Stint.bind_of_error ho]
    exact ⟨backing, closed, life, fun _ same => nomatch same⟩
  | ok value =>
    obtain ⟨backing', closed', life', gives'⟩ :=
      hn value (gives value ho) (step.stint h b).handle b (backing ▸ raw)
    rw [Stint.bind_of_ok ho]
    exact ⟨backing'.trans backing, closed'.trans closed,
      by rw [cursorLife_append, life, life', List.append_nil], gives'⟩

theorem leaves_pure {value : α} (h : good value) :
    (pure value : HandleStep shape α).Leaves good := by
  intro handle b raw
  rw [stint_pure]
  exact ⟨rfl, rfl, Account.spares_ok h⟩

/-- A request to the driver, from a handle that differs in neither. -/
theorem leaves_of_request {step : HandleStep shape α} {left : Handle shape → Handle shape}
    {refusal? : Handle shape → Behavior → Option Failure} {answer : Handle shape → Behavior → α}
    {entries : Handle shape → Behavior → List Entry}
    (stint : ∀ h b, step.stint h b = (left h).request (refusal? h b) (answer h b) (entries h b))
    (backing : ∀ h, (left h).backing = h.backing) (closed : ∀ h, (left h).closed = h.closed)
    (none : ∀ h b, cursorLife (entries h b) = [])
    (gives : ∀ h b, h.backing ≠ .scripted → good (answer h b)) : step.Leaves good := by
  intro h b raw
  rw [stint h b]
  exact ⟨backing h, closed h, Account.spares_request (none h b) (gives h b raw)⟩

/-- A step of the session that spares all raw cursors. -/
theorem leaves_lift {step : Session α} [step.Local] (h : ∀ b, (step.account b).Spares good) :
    (liftM step : HandleStep shape α).Leaves good := by
  intro handle b raw
  rw [stint_lift]
  exact ⟨rfl, rfl, h b⟩

end HandleStep

/-! ## Steps that mind the raw cursor -/

namespace HandleStep

/-- A step that minds its raw cursor: with the release after it, it closes what a release at once
    would have closed, and it opens nothing. -/
def Minds (step : HandleStep shape α) : Prop :=
  ∀ (h : Handle shape) (b : Behavior), h.backing ≠ .scripted →
    (step.stint h b).handle.backing = h.backing ∧
      cursorLife ((step.stint h b).entries ++ (step.stint h b).handle.closing) =
        cursorLife h.closing

theorem Minds.bind {step : HandleStep shape α} {next : α → HandleStep shape β} [step.Local]
    [∀ value, (next value).Local] (hs : step.Minds) (hn : ∀ value, (next value).Minds) :
    (step >>= next).Minds := by
  intro h b raw
  obtain ⟨backing, life⟩ := hs h b raw
  rw [stint_bind]
  cases ho : (step.stint h b).outcome with
  | error failure =>
    rw [Stint.bind_of_error ho]
    exact ⟨backing, life⟩
  | ok value =>
    obtain ⟨backing', life'⟩ := hn value (step.stint h b).handle b (backing ▸ raw)
    rw [Stint.bind_of_ok ho]
    refine ⟨backing'.trans backing, ?_⟩
    -- after `next` the release closes what it would have closed after `step`
    rw [List.append_assoc, cursorLife_append, life', ← cursorLife_append, life]

/-- A step that leaves the closing to others minds its cursor: the release is one of them. -/
theorem Leaves.minds {good : α → Prop} {step : HandleStep shape α} (h : step.Leaves good) :
    step.Minds := by
  intro handle b raw
  obtain ⟨backing, closed, life, -⟩ := h handle b raw
  refine ⟨backing, ?_⟩
  rw [cursorLife_append, life, Handle.closing_congr backing closed]
  rfl

theorem minds_lift {step : Session α} [step.Local] (silent : ∀ b, (step.account b).entries = []) :
    (liftM step : HandleStep shape α).Minds := by
  intro h b raw
  rw [stint_lift, silent]
  exact ⟨rfl, rfl⟩

theorem minds_pure (value : α) : (pure value : HandleStep shape α).Minds := by
  intro h b raw
  rw [stint_pure]
  exact ⟨rfl, rfl⟩

theorem minds_throw (failure : Failure) : (throw failure : HandleStep shape α).Minds := by
  intro h b raw
  rw [stint_throw]
  exact ⟨rfl, rfl⟩

theorem minds_get : (get : HandleStep shape (Handle shape)).Minds := by
  intro h b raw
  rw [stint_get]
  exact ⟨rfl, rfl⟩

end HandleStep

/-! What is written while a handle is used says nothing of raw cursors, whatever is behind it. -/

namespace Backing

variable (backing : Backing)

theorem cursorLife_bound (parameters : List Datum) :
    cursorLife (backing.bound parameters) = [] := by
  cases backing with
  | scripted => rfl
  | cursor style count => rfl

theorem cursorLife_ran (verb : Verb) (sql : String) :
    cursorLife [backing.ran verb sql] = [] := by
  cases backing with
  | scripted => rfl
  | cursor style count => rfl

theorem cursorLife_ranPrepared (verb : Verb) (sql : String) (parameters : List Datum) :
    cursorLife [backing.ranPrepared verb sql parameters] = [] := by
  cases backing with
  | scripted => rfl
  | cursor style count => rfl

theorem cursorLife_escapes (enabled : Bool) (b : Behavior) :
    cursorLife (backing.escapes enabled b) = [] := by
  cases backing with
  | scripted => rfl
  | cursor style count =>
    rw [escapes]
    split <;> rfl

end Backing

namespace Handle

theorem bind_leaves (parameters : List Datum) :
    (bind parameters : HandleStep shape Unit).Leaves fun _ => True :=
  HandleStep.leaves_of_request (bind_stint parameters) (fun _ => rfl) (fun _ => rfl)
    (fun h _ => h.backing.cursorLife_bound parameters) fun _ _ _ => trivial

theorem execute_leaves (sql : String) : (execute sql).Leaves fun _ => True :=
  HandleStep.leaves_of_request (execute_stint sql) (fun _ => rfl) (fun _ => rfl)
    (fun h _ => h.backing.cursorLife_ran .execute sql) fun _ _ _ => trivial

theorem update_leaves (sql : String) : (update sql).Leaves fun _ => True :=
  HandleStep.leaves_of_request (update_stint sql) (fun _ => rfl) (fun _ => rfl)
    (fun h _ => h.backing.cursorLife_ran .update sql) fun _ _ _ => trivial

theorem setEscapeProcessing_leaves (enabled : Bool) :
    (setEscapeProcessing enabled).Leaves fun _ => True :=
  HandleStep.leaves_of_request (setEscapeProcessing_stint enabled) (fun _ => rfl)
    (fun _ => rfl) (fun h b => h.backing.cursorLife_escapes enabled b) fun _ _ _ => trivial

theorem executePrepared_leaves : executePrepared.Leaves fun _ => True :=
  HandleStep.leaves_of_request executePrepared_stint (fun _ => rfl) (fun _ => rfl)
    (fun h _ => h.backing.cursorLife_ranPrepared .execute h.sql _) fun _ _ _ => trivial

theorem updatePrepared_leaves : updatePrepared.Leaves fun _ => True :=
  HandleStep.leaves_of_request updatePrepared_stint (fun _ => rfl) (fun _ => rfl)
    (fun h _ => h.backing.cursorLife_ranPrepared .update h.sql _) fun _ _ _ => trivial

/-- Over a raw cursor, what a query gives is a view of it. -/
theorem cursorOf_ne_scripted {backing : Backing} (raw : backing ≠ .scripted) :
    cursorOf backing ≠ .scripted := by
  cases backing with
  | scripted => exact absurd rfl raw
  | cursor style count => exact nofun

theorem query_leaves (sql : String) : (query sql).Leaves (· ≠ .scripted) :=
  HandleStep.leaves_of_request (query_stint sql) (fun _ => rfl) (fun _ => rfl)
    (fun h _ => h.backing.cursorLife_ran .query sql) fun _ _ raw => cursorOf_ne_scripted raw

theorem queryPrepared_leaves : queryPrepared.Leaves (· ≠ .scripted) :=
  HandleStep.leaves_of_request queryPrepared_stint (fun _ => rfl) (fun _ => rfl)
    (fun h _ => h.backing.cursorLife_ranPrepared .query h.sql _)
    fun _ _ raw => cursorOf_ne_scripted raw

theorem call_leaves : call.Leaves fun _ => True := by
  intro h b raw
  cases hb : h.backing with
  | scripted => exact absurd hb raw
  | cursor style count =>
    obtain ⟨refusal?, answer, entry, stint, used⟩ := call_stint_cursor h b hb
    rw [stint]
    refine ⟨hb, rfl, Account.spares_request ?_ trivial⟩
    rcases used with ⟨name, rfl⟩ | ⟨sql, rfl⟩
    · rfl
    · rfl

/-- The cursor of a query is a view of the raw one, and reading it closes nothing. -/
theorem materialize_leaves {c : Cursor} (view : c ≠ .scripted) :
    (liftM c.materialize : HandleStep shape QueryResult).Leaves fun _ => True := by
  refine HandleStep.leaves_lift fun b => ?_
  rw [Cursor.materialize_account]
  cases c with
  | scripted => exact absurd rfl view
  | view count => exact ⟨rfl, fun _ _ => trivial⟩

theorem query_materialize_minds (sql : String) :
    HandleStep.Minds (do (← query sql).materialize) :=
  ((query_leaves sql).bind fun _ view => materialize_leaves view).minds

theorem queryPrepared_materialize_minds :
    HandleStep.Minds (do (← queryPrepared).materialize) :=
  (queryPrepared_leaves.bind fun _ view => materialize_leaves view).minds

/-- Closing a raw cursor leaves nothing for the release. -/
theorem close_minds : (close : HandleStep shape Unit).Minds := by
  intro h b raw
  rw [close_stint]
  refine ⟨rfl, ?_⟩
  rcases h with ⟨_ | ⟨style, count⟩, template, parameters, mode, closed⟩
  · exact absurd rfl raw
  -- what is closed here is not closed again by the release
  · rw [cursorLife_append]
    exact List.append_nil _

end Handle

/-- An attempt leaves what the step leaves. -/
theorem HandleStep.Minds.attempt {step : HandleStep shape α} [step.Local] (h : step.Minds) :
    (HandleStep.attempt step).Minds := by
  intro handle b raw
  rw [stint_attempt]
  exact h handle b raw

/-- **No caller can leak its cursor or close it twice**, whatever it does with the handle. -/
theorem Conduct.run_minds (conduct : Conduct) : conduct.run.Minds := by
  induction conduct with
  | answer value => exact HandleStep.minds_pure value
  | fail failure => exact HandleStep.minds_throw failure
  | look next ih => exact HandleStep.minds_get.bind ih
  | bind parameters next ih => exact (Handle.bind_leaves parameters).minds.attempt.bind ih
  | call next ih => exact Handle.call_leaves.minds.attempt.bind ih
  | close next ih => exact Handle.close_minds.attempt.bind ih

theorem Handle.handOver_minds (conduct : Option Conduct) : (handOver conduct).Minds := by
  cases conduct with
  | none => exact call_leaves.minds
  | some c => exact c.run_minds

end SqlRunner
