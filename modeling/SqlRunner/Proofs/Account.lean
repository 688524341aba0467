import SqlRunner.Session

/-!
# Accounts — what a step does, as a function of the database alone

A step of a session is a function on worlds, and most of what a world holds it could not care less
about: it reads the behavior of the database, and to the journal and the trace it only adds. An
`Account` says what is added and how the step ends. The accounts of a step for every behavior say
all there is to say about it (`Session.Does`), whatever the journal and the trace were before.

Everything that is built from the steps of `Session` has such accounts. That is the class
`Session.Local`, whose instances follow the way steps are put together; `Session.account` reads the
accounts off a run in a world where nothing has happened yet. A proof about a step therefore unfolds
it once, to find its account, and reasons about two lists from then on.
-/

set_option autoImplicit false

namespace SqlRunner

variable {α β : Type}

@[simp] theorem mapError_ok {ε ε' : Type} (f : ε → ε') (value : α) :
    (Except.ok value : Except ε α).mapError f = .ok value := rfl

@[simp] theorem mapError_error {ε ε' : Type} (f : ε → ε') (error : ε) :
    (Except.error error : Except ε α).mapError f = .error (f error) := rfl

/-- What comes of two computations in a row comes of the second, behind an answer of the first. -/
theorem of_bind_eq_ok {ε : Type} {first : Except ε α} {next : α → Except ε β} {result : β}
    (h : (first >>= next) = .ok result) :
    ∃ value, first = .ok value ∧ next value = .ok result := by
  cases first with
  | error failure => cases h
  | ok value => exact ⟨value, rfl, h⟩

theorem of_map_eq_ok {ε : Type} {first : Except ε α} {f : α → β} {result : β}
    (h : first.map f = .ok result) : ∃ value, first = .ok value ∧ f value = result := by
  cases first with
  | error failure => cases h
  | ok value => exact ⟨value, rfl, Except.ok.inj h⟩

theorem of_mapError_eq_ok {ε ε' : Type} {first : Except ε α} {f : ε → ε'} {value : α}
    (h : first.mapError f = .ok value) : first = .ok value := by
  cases first with
  | error failure => cases h
  | ok result => exact congrArg Except.ok (Except.ok.inj h)

/-- What a step does: how it ends, the entries it adds to the journal, and the events it reports. -/
structure Account (α : Type) where
  outcome : Except Failure α
  entries : List Entry := []
  events : List Event := []

/-- The world after a step of which this is the account. -/
def World.after (w : World) (a : Account α) : World :=
  { w with journal := w.journal ++ a.entries, trace := a.events.foldl Recorder.record w.trace }

@[simp] theorem World.after_behavior (w : World) (a : Account α) :
    (w.after a).behavior = w.behavior := rfl

@[simp] theorem World.after_journal (w : World) (a : Account α) :
    (w.after a).journal = w.journal ++ a.entries := rfl

/-- Only what was added matters to the world afterwards, and not how the step ended. -/
theorem World.after_congr {w : World} {a : Account α} {b : Account β}
    (entries : a.entries = b.entries) (events : a.events = b.events) : w.after a = w.after b := by
  simp only [World.after, entries, events]

/-- A recorder that keeps events keeps all of them. -/
theorem Recorder.foldl_record (events kept : List Event) :
    events.foldl Recorder.record { events := kept } = { events := kept ++ events } := by
  induction events generalizing kept with
  | nil => simp
  | cons event rest ih =>
    rw [List.foldl_cons, Recorder.record, if_pos rfl, ih, List.append_assoc, List.singleton_append]

/-- From a world where nothing has happened, the account can be read off the world afterwards. -/
theorem World.after_fresh (b : Behavior) (a : Account α) :
    ({ behavior := b } : World).after a =
      { behavior := b, journal := a.entries, trace := { events := a.events } } := by
  simp [World.after, Recorder.foldl_record]

namespace Account

/-- One account after another: the second starts from the answer of the first, and there is none
    after a failure. -/
def bind (first : Account α) (next : α → Account β) : Account β :=
  match first.outcome with
  | .error failure => ⟨.error failure, first.entries, first.events⟩
  | .ok value =>
    ⟨(next value).outcome, first.entries ++ (next value).entries,
      first.events ++ (next value).events⟩

theorem bind_of_ok {first : Account α} {next : α → Account β} {value : α}
    (h : first.outcome = .ok value) :
    first.bind next = ⟨(next value).outcome, first.entries ++ (next value).entries,
      first.events ++ (next value).events⟩ := by
  simp only [Account.bind, h]

theorem bind_of_error {first : Account α} {next : α → Account β} {failure : Failure}
    (h : first.outcome = .error failure) :
    first.bind next = ⟨.error failure, first.entries, first.events⟩ := by
  simp only [Account.bind, h]

@[simp] theorem ok_bind (value : α) (next : α → Account β) :
    (⟨.ok value, [], []⟩ : Account α).bind next = next value := rfl

@[simp] theorem noting_bind (value : α) (entries : List Entry) (events : List Event)
    (next : α → Account β) :
    (⟨.ok value, entries, events⟩ : Account α).bind next =
      ⟨(next value).outcome, entries ++ (next value).entries, events ++ (next value).events⟩ := rfl

@[simp] theorem error_bind (failure : Failure) (entries : List Entry) (events : List Event)
    (next : α → Account β) :
    (⟨.error failure, entries, events⟩ : Account α).bind next =
      ⟨.error failure, entries, events⟩ := rfl

/-- What comes of one request to a driver: it is refused and leaves nothing behind, or it is
    answered and written down. -/
def request (refusal? : Option Failure) (answer : α) (entries : List Entry) : Account α :=
  match refusal? with
  | some failure => ⟨.error failure, [], []⟩
  | none => ⟨.ok answer, entries, []⟩

@[simp] theorem request_none (answer : α) (entries : List Entry) :
    request none answer entries = ⟨.ok answer, entries, []⟩ := rfl

@[simp] theorem request_some (failure : Failure) (answer : α) (entries : List Entry) :
    request (some failure) answer entries = ⟨.error failure, [], []⟩ := rfl

theorem request_outcome (refusal? : Option Failure) (answer : α) (entries : List Entry) :
    (request refusal? answer entries).outcome = refusal?.elim (.ok answer) .error := by
  cases refusal? with
  | some failure => rfl
  | none => rfl

/-- What comes of an attempt to close something: it is written down before it can fail. -/
def closing (failure? : Option Failure) (entries : List Entry) : Account Unit :=
  ⟨failure?.elim (.ok ()) .error, entries, []⟩

end Account

namespace Session

/-- Running two steps in a row. -/
theorem run_bind (step : Session α) (next : α → Session β) (w : World) :
    (step >>= next).run w =
      match step.run w with
      | (.ok value, after) => (next value).run after
      | (.error failure, after) => (.error failure, after) := by
  show (ExceptT.run (ExceptT.bind step next)) w = _
  simp only [ExceptT.run, ExceptT.bind, ExceptT.mk, Bind.bind, StateT.bind]
  cases h : step w with
  | mk outcome after => cases outcome <;> rfl

/-- The accounts of a step for every behavior: `step` does in every world what they say. -/
def Does (step : Session α) (acc : Behavior → Account α) : Prop :=
  ∀ w : World, step.run w = ((acc w.behavior).outcome, w.after (acc w.behavior))

/-- The account of a step, read off a run in a world where nothing has happened. -/
def account (step : Session α) (b : Behavior) : Account α :=
  let (outcome, w) := step.run { behavior := b }
  ⟨outcome, w.journal, w.trace.events⟩

/-- A step that reads the behavior of the world and only adds to the rest of it. -/
class Local (step : Session α) : Prop where
  does : step.Does step.account

/-- **Accounts are unique**: whichever accounts a step has, they are the ones read off it. -/
theorem Does.account_eq {step : Session α} {acc : Behavior → Account α} (h : step.Does acc) :
    step.account = acc := by
  funext b
  simp only [account, h { behavior := b }, World.after_fresh]

theorem Does.local {step : Session α} {acc : Behavior → Account α} (h : step.Does acc) :
    step.Local :=
  ⟨h.account_eq ▸ h⟩

/-- How a local step runs in a world. -/
theorem run_eq (step : Session α) [h : step.Local] (w : World) :
    step.run w = ((step.account w.behavior).outcome, w.after (step.account w.behavior)) :=
  h.does w

/-! ## The steps that others are built from -/

theorem pure_does (value : α) : (pure value : Session α).Does fun _ => ⟨.ok value, [], []⟩ := by
  intro w
  simp only [World.after, List.append_nil, List.foldl_nil]
  rfl

theorem fail_does (failure : Failure) :
    (fail failure : Session α).Does fun _ => ⟨.error failure, [], []⟩ := by
  intro w
  simp only [World.after, List.append_nil, List.foldl_nil]
  rfl

theorem behavior_does : behavior.Does fun b => ⟨.ok b, [], []⟩ := by
  intro w
  simp only [World.after, List.append_nil, List.foldl_nil]
  rfl

theorem write_does (entry : Entry) : (write entry).Does fun _ => ⟨.ok (), [entry], []⟩ :=
  fun _ => rfl

theorem report_does (name : String) (fields : Fields) :
    (report name fields).Does fun _ => ⟨.ok (), [], [⟨name, fields⟩]⟩ := by
  intro w
  simp only [World.after, List.append_nil, List.foldl_cons, List.foldl_nil]
  rfl

theorem Does.bind {step : Session α} {next : α → Session β} {acc : Behavior → Account α}
    {accNext : α → Behavior → Account β} (hs : step.Does acc)
    (hn : ∀ value, (next value).Does (accNext value)) :
    (step >>= next).Does fun b => (acc b).bind fun value => accNext value b := by
  intro w
  rw [run_bind, hs w]
  cases h : (acc w.behavior).outcome with
  | error failure =>
    -- nothing is run after a failure, so what was added is what the first step added
    simp only [Account.bind_of_error h]
    exact congrArg _ (World.after_congr rfl rfl)
  | ok value =>
    simp only [hn value (w.after (acc w.behavior)), World.after_behavior, Account.bind_of_ok h]
    simp only [World.after, List.append_assoc, List.foldl_append]

/-- The outcome of an attempt is an answer either way; what was added stays added. -/
theorem Does.attempt {step : Session α} {acc : Behavior → Account α} (h : step.Does acc) :
    (Session.attempt step).Does
      fun b => ⟨.ok (acc b).outcome, (acc b).entries, (acc b).events⟩ := by
  intro w
  show (Except.ok (step.run w).1, (step.run w).2) = _
  rw [h w]
  rfl

/-! ## Locality follows the way steps are put together -/

instance local_pure (value : α) : (pure value : Session α).Local := (pure_does value).local

instance local_fail (failure : Failure) : (fail failure : Session α).Local :=
  (fail_does failure).local

instance local_behavior : behavior.Local := behavior_does.local

instance local_write (entry : Entry) : (write entry).Local := (write_does entry).local

instance local_report (name : String) (fields : Fields) : (report name fields).Local :=
  (report_does name fields).local

theorem Local.bind {step : Session α} {next : α → Session β} (hs : step.Local)
    (hn : ∀ value, (next value).Local) : (step >>= next).Local :=
  (hs.does.bind fun value => (hn value).does).local

instance local_bind (step : Session α) (next : α → Session β) [hs : step.Local]
    [hn : ∀ value, (next value).Local] : (step >>= next).Local := hs.bind hn

instance local_ite (p : Prop) [Decidable p] (yes no : Session α) [yes.Local] [no.Local] :
    (if p then yes else no).Local := by
  split <;> infer_instance

instance local_failIf (failure? : Option Failure) : (failIf failure?).Local := by
  unfold failIf
  split <;> infer_instance

instance local_ofExcept (result : Except Failure α) : (ofExcept result).Local := by
  unfold ofExcept
  split <;> infer_instance

instance local_ofFault (result : Except Fault α) : (ofFault result).Local :=
  inferInstanceAs (ofExcept _).Local

instance local_attempt (step : Session α) [h : step.Local] : (attempt step).Local :=
  h.does.attempt.local

instance local_release (close : Session Unit) [close.Local] : (release close).Local := by
  refine Local.bind inferInstance fun outcome => ?_
  split <;> infer_instance

instance local_thenRelease (step : Session α) (close : Session Unit) [step.Local] [close.Local] :
    (thenRelease step close).Local :=
  inferInstanceAs (Session.attempt step >>= fun outcome => release close >>= fun _ =>
    ofExcept outcome).Local

/-! ## Their accounts -/

@[simp] theorem account_pure (value : α) (b : Behavior) :
    (pure value : Session α).account b = ⟨.ok value, [], []⟩ :=
  congrFun (pure_does value).account_eq b

@[simp] theorem account_fail (failure : Failure) (b : Behavior) :
    (fail failure : Session α).account b = ⟨.error failure, [], []⟩ :=
  congrFun (fail_does failure).account_eq b

@[simp] theorem account_behavior (b : Behavior) : behavior.account b = ⟨.ok b, [], []⟩ :=
  congrFun behavior_does.account_eq b

@[simp] theorem account_write (entry : Entry) (b : Behavior) :
    (write entry).account b = ⟨.ok (), [entry], []⟩ :=
  congrFun (write_does entry).account_eq b

@[simp] theorem account_report (name : String) (fields : Fields) (b : Behavior) :
    (report name fields).account b = ⟨.ok (), [], [⟨name, fields⟩]⟩ :=
  congrFun (report_does name fields).account_eq b

theorem Local.account_bind {step : Session α} {next : α → Session β} (hs : step.Local)
    (hn : ∀ value, (next value).Local) (b : Behavior) :
    (step >>= next).account b = (step.account b).bind fun value => (next value).account b :=
  congrFun (hs.does.bind fun value => (hn value).does).account_eq b

theorem account_bind (step : Session α) (next : α → Session β) [hs : step.Local]
    [hn : ∀ value, (next value).Local] (b : Behavior) :
    (step >>= next).account b = (step.account b).bind fun value => (next value).account b :=
  hs.account_bind hn b

theorem account_ite (p : Prop) [Decidable p] (yes no : Session α) (b : Behavior) :
    (if p then yes else no).account b = if p then yes.account b else no.account b := by
  split <;> rfl

/-- Behind a step that only answers, the rest is all there is. -/
theorem account_bind_of_answer {step : Session α} [step.Local] (next : α → Session β)
    {b : Behavior} {value : α} (h : step.account b = ⟨.ok value, [], []⟩) :
    (step >>= next).account b = (next value).account b := by
  -- `next` need not be local: it is run in the same fresh world that `step` was run in
  have run : step.run { behavior := b } = (.ok value, { behavior := b }) := by
    rw [run_eq, h, World.after_fresh]
  simp only [account, run_bind, run]

/-- Behind a failure there is nothing. -/
theorem account_bind_of_failure {step : Session α} [step.Local] (next : α → Session β)
    {b : Behavior} {failure : Failure} {entries : List Entry} {events : List Event}
    (h : step.account b = ⟨.error failure, entries, events⟩) :
    (step >>= next).account b = ⟨.error failure, entries, events⟩ := by
  have run : step.run { behavior := b } =
      (.error failure, { behavior := b, journal := entries, trace := { events := events } }) := by
    rw [run_eq, h, World.after_fresh]
  simp only [account, run_bind, run]

@[simp] theorem account_failIf (failure? : Option Failure) (b : Behavior) :
    (failIf failure?).account b = .request failure? () [] := by
  cases failure? with
  | none => exact account_pure () b
  | some failure => exact account_fail failure b

@[simp] theorem account_ofExcept (result : Except Failure α) (b : Behavior) :
    (ofExcept result).account b = ⟨result, [], []⟩ := by
  cases result with
  | ok value => exact account_pure value b
  | error failure => exact account_fail failure b

@[simp] theorem account_ofFault (result : Except Fault α) (b : Behavior) :
    (ofFault result).account b = ⟨result.mapError Failure.fault, [], []⟩ :=
  account_ofExcept _ b

@[simp] theorem account_attempt (step : Session α) [h : step.Local] (b : Behavior) :
    (Session.attempt step).account b =
      ⟨.ok (step.account b).outcome, (step.account b).entries, (step.account b).events⟩ :=
  congrFun h.does.attempt.account_eq b

/-- An attempt from whose outcome alone it is clear what is answered. -/
theorem account_attempt_bind (step : Session α) [step.Local] {next : Except Failure α → Session β}
    (answer : Except Failure α → β) (h : ∀ outcome, next outcome = pure (answer outcome))
    (b : Behavior) :
    (Session.attempt step >>= next).account b =
      ⟨.ok (answer (step.account b).outcome), (step.account b).entries,
        (step.account b).events⟩ := by
  obtain rfl : next = fun outcome => pure (answer outcome) := funext h
  rw [account_bind, account_attempt, Account.noting_bind, account_pure, List.append_nil,
    List.append_nil]

/-- What is reported of an attempt to close something. -/
def releaseEvents : Except Failure Unit → List Event
  | .ok () => []
  | .error failure => [⟨"release_failed", [("error", .text failure.message)]⟩]

/-- **A release never fails**: it makes its attempt, and a refusal is no more than an event. -/
theorem account_release (close : Session Unit) [close.Local] (b : Behavior) :
    (release close).account b = ⟨.ok (), (close.account b).entries,
      (close.account b).events ++ releaseEvents (close.account b).outcome⟩ := by
  -- what follows the attempt matches on how it ended, so its locality is not inferred
  have hn (outcome : Except Failure Unit) : Session.Local (match outcome with
      | .ok () => pure ()
      | .error failure => report "release_failed" [("error", .text failure.message)]) := by
    split <;> infer_instance
  rw [release, account_bind, account_attempt, Account.bind_of_ok rfl]
  cases (close.account b).outcome with
  | ok value => simp [releaseEvents]
  | error failure => simp [releaseEvents]

/-- A step that is followed by a release ends as it would without. -/
theorem account_thenRelease (step : Session α) (close : Session Unit) [step.Local] [close.Local]
    (b : Behavior) :
    (thenRelease step close).account b =
      ⟨(step.account b).outcome, (step.account b).entries ++ (close.account b).entries,
        (step.account b).events ++ ((release close).account b).events⟩ := by
  rw [thenRelease, account_bind, account_attempt, Account.bind_of_ok rfl, account_bind,
    account_release, Account.bind_of_ok rfl, account_ofExcept]
  simp only [List.append_nil]

end Session

end SqlRunner
