import SqlRunner.Proofs.Account.Runner

/-!
# The schedule of an execution — what is run, in which order, and up to where

Executing a statement walks over its leaves, the commands it expands to, and over the strings of
each leaf. A leaf is rendered when its turn comes, not before, and a template is not rendered at
all. What is run nevertheless follows from the statement alone: `Statement.plan` is the list of
leaves with their strings, and `Leaf.calls` are the calls that a leaf makes if nothing is refused,
its acquisition first.

A driver accepts the calls of a plan one after another, up to the first that it refuses
(`Behavior.carry`). The two loops of the runner, one over leaves and one over strings, are one such
walk: `executeAll_follows` is the induction over leaves, `runEach_follows` the one over strings. The
entries that close handles come in between and are left out of it; after a refusal they are the only
ones that may still come.
-/

set_option autoImplicit false

namespace SqlRunner

variable {shape : Shape}

/-! ## What a journal says of an execution -/

namespace Entry

/-- The SQL that was run. -/
def executed? : Entry → Option String
  | .ran _ sql | .ranPrepared _ sql _ | .called sql _ | .cursorRan sql _ => some sql
  | _ => none

/-- What was acquired. -/
def acquired? : Entry → Option Resource
  | .created => some .statement
  | .prepared _ => some .prepared
  | .preparedCall _ => some .callable
  | .cursorOpened => some .cursor
  | _ => none

/-- Whether something was closed. -/
def isClose : Entry → Bool
  | .closed _ => true
  | _ => false

end Entry

/-- The strings that were run, in order. -/
def executed (journal : List Entry) : List String := journal.filterMap Entry.executed?

/-- The handles that were asked for, in order. -/
def acquired (journal : List Entry) : List Resource := journal.filterMap Entry.acquired?

/-- The calls that closed nothing. -/
def callsOf (journal : List Entry) : List Entry := journal.filter fun e => !e.isClose

theorem executed_append (first second : List Entry) :
    executed (first ++ second) = executed first ++ executed second := List.filterMap_append

theorem acquired_append (first second : List Entry) :
    acquired (first ++ second) = acquired first ++ acquired second := List.filterMap_append

theorem callsOf_append (first second : List Entry) :
    callsOf (first ++ second) = callsOf first ++ callsOf second := List.filter_append ..

/-- Closing is no call. -/
theorem callsOf_closes {closes : List Entry} (h : ∀ e ∈ closes, e.isClose = true) :
    callsOf closes = [] := by
  rw [callsOf, List.filter_eq_nil_iff]
  intro e he
  rw [h e he]
  decide

theorem executed_callsOf (journal : List Entry) :
    executed (callsOf journal) = executed journal := by
  rw [executed, callsOf, List.filterMap_filter]
  refine congrArg (fun f => journal.filterMap f) (funext fun e => ?_)
  cases e <;> rfl

theorem acquired_callsOf (journal : List Entry) :
    acquired (callsOf journal) = acquired journal := by
  rw [acquired, callsOf, List.filterMap_filter]
  refine congrArg (fun f => journal.filterMap f) (funext fun e => ?_)
  cases e <;> rfl

/-! ## Plans -/

/-- A command that an execution comes to. -/
inductive Leaf where
  /-- A template, which is run as it is written. -/
  | template (sql : String) (parameters : List Datum)
  /-- Anything else, with the strings it is rendered to. -/
  | text (strings : List String)

namespace Leaf

/-- The leaf of a command. -/
def ofCommand (dialect : Dialect) (visitors : List Visitor) : Command → Except Fault Leaf
  | .prepared sql parameters => .ok (template sql parameters)
  | command => (Rendering.render dialect visitors (.command command)).map text

/-- The leaves of commands, in order. -/
def ofCommands (dialect : Dialect) (visitors : List Visitor) :
    List Command → Except Fault (List Leaf)
  | [] => .ok []
  | command :: rest => do
    let first ← ofCommand dialect visitors command
    let others ← ofCommands dialect visitors rest
    return first :: others

/-- The strings that are run for a leaf. -/
def strings : Leaf → List String
  | template sql _ => [sql]
  | text strings => strings

/-- The handle that a leaf takes. -/
def takes : Leaf → Resource
  | template _ _ => .prepared
  | text _ => .statement

/-- How it is taken. -/
def acquisition : Leaf → Entry
  | template sql _ => .prepared sql
  | text _ => .created

/-- The calls for one string on a plain handle. -/
def callsFor (r : Runner) (sql : String) : List Entry :=
  (if r.holdsMarker sql then [.escapes false] else []) ++ [.ran .execute sql]

/-- The calls on the handle of a leaf. -/
def uses (r : Runner) : Leaf → List Entry
  | template sql parameters => [.bound parameters, .ranPrepared .execute sql parameters]
  | text strings => strings.flatMap (callsFor r)

/-- The calls of a leaf: it takes its handle once, and first. -/
def calls (r : Runner) (leaf : Leaf) : List Entry := leaf.acquisition :: leaf.uses r

theorem callsOf_callsFor (r : Runner) (sql : String) :
    callsOf (callsFor r sql) = callsFor r sql := by
  rw [callsFor]
  split <;> rfl

theorem executed_callsFor (r : Runner) (sql : String) : executed (callsFor r sql) = [sql] := by
  rw [callsFor]
  split <;> rfl

theorem acquired_callsFor (r : Runner) (sql : String) : acquired (callsFor r sql) = [] := by
  rw [callsFor]
  split <;> rfl

/-- None of the calls closes anything. -/
theorem callsOf_uses (r : Runner) (leaf : Leaf) : callsOf (leaf.uses r) = leaf.uses r := by
  cases leaf with
  | template sql parameters => rfl
  | text strings =>
    rw [uses, callsOf, List.filter_flatMap]
    exact congrArg strings.flatMap (funext (callsOf_callsFor r))

/-- The calls run the strings of the leaf, in order and nothing else. -/
theorem executed_uses (r : Runner) (leaf : Leaf) : executed (leaf.uses r) = leaf.strings := by
  cases leaf with
  | template sql parameters => rfl
  | text strings =>
    rw [uses, executed, List.filterMap_flatMap]
    exact (congrArg strings.flatMap (funext (executed_callsFor r))).trans
      (List.flatMap_singleton' strings)

/-- None of them takes another handle. -/
theorem acquired_uses (r : Runner) (leaf : Leaf) : acquired (leaf.uses r) = [] := by
  cases leaf with
  | template sql parameters => rfl
  | text strings =>
    rw [uses, acquired, List.filterMap_flatMap]
    exact List.flatMap_eq_nil_iff.mpr fun sql _ => acquired_callsFor r sql

theorem callsOf_calls (r : Runner) (leaf : Leaf) : callsOf (leaf.calls r) = leaf.calls r := by
  have rest := leaf.callsOf_uses r
  cases leaf with
  | template sql parameters => rfl
  | text strings => exact congrArg (Entry.created :: ·) rest

theorem executed_calls (r : Runner) (leaf : Leaf) : executed (leaf.calls r) = leaf.strings := by
  have rest := leaf.executed_uses r
  cases leaf with
  | template sql parameters => rfl
  | text strings => exact rest

theorem acquired_calls (r : Runner) (leaf : Leaf) : acquired (leaf.calls r) = [leaf.takes] := by
  have rest := leaf.acquired_uses r
  cases leaf with
  | template sql parameters => rfl
  | text strings => exact congrArg (Resource.statement :: ·) rest

/-- However few of its calls a leaf comes to, as long as there is one, it takes one handle. -/
theorem acquired_begun (r : Runner) (leaf : Leaf) {begun : List Entry} {last : Entry}
    (h : begun ++ [last] <+: leaf.calls r) : acquired (begun ++ [last]) = [leaf.takes] := by
  obtain ⟨first, others, cons⟩ : ∃ first others, begun ++ [last] = first :: others := by
    cases begun with
    | nil => exact ⟨last, [], rfl⟩
    | cons first rest => exact ⟨first, rest ++ [last], rfl⟩
  rw [cons, calls, List.cons_prefix_cons] at h
  obtain ⟨rfl, remaining, split⟩ := h
  have none : acquired others = [] := by
    have rest := leaf.acquired_uses r
    rw [← split, acquired_append] at rest
    exact (List.append_eq_nil_iff.mp rest).1
  have one : acquired (leaf.acquisition :: others) = leaf.takes :: acquired others := by
    cases leaf <;> rfl
  rw [cons, one, none]

/-- The calls of a plan run the strings of its leaves. -/
theorem executed_plan (r : Runner) (leaves : List Leaf) :
    executed (leaves.flatMap (calls r)) = leaves.flatMap strings := by
  rw [executed, List.filterMap_flatMap]
  exact congrArg leaves.flatMap (funext fun leaf => leaf.executed_calls r)

/-- They take one handle for each leaf. -/
theorem acquired_plan (r : Runner) (leaves : List Leaf) :
    acquired (leaves.flatMap (calls r)) = leaves.map takes := by
  rw [acquired, List.filterMap_flatMap]
  exact (congrArg leaves.flatMap (funext fun leaf => leaf.acquired_calls r)).trans
    List.map_eq_flatMap.symm

end Leaf

/-- The plan of a statement, if all of it can be rendered. -/
def Statement.plan (dialect : Dialect) (visitors : List Visitor) (statement : Statement) :
    Except Fault (List Leaf) := do
  Leaf.ofCommands dialect visitors (← statement.expand dialect.name)

/-! ## Refusals -/

namespace Behavior

/-- The failure with which a scripted connection refuses a call. -/
def refuses (b : Behavior) : Entry → Option Failure
  | .created => b.acquireFailure? .statement
  | .prepared _ => b.acquireFailure? .prepared
  | .preparedCall _ => b.acquireFailure? .callable
  | .bound _ => Backing.scripted.bindFailure? b
  | .ran _ sql | .ranPrepared _ sql _ | .called sql _ => b.refusal? sql
  | _ => none

/-- Calls one after another: those that are accepted, and the one that is not, with its failure. -/
def carry (b : Behavior) : List Entry → List Entry × Option (Entry × Failure)
  | [] => ([], none)
  | call :: rest =>
    match b.refuses call with
    | some failure => ([], some (call, failure))
    | none => (call :: (carry b rest).1, (carry b rest).2)

theorem carry_all {b : Behavior} {calls : List Entry} (h : (b.carry calls).2 = none) :
    (b.carry calls).1 = calls := by
  induction calls with
  | nil => rfl
  | cons call rest ih =>
    rw [carry] at h ⊢
    cases hr : b.refuses call with
    | some failure => rw [hr] at h; cases h
    | none =>
      rw [hr] at h
      exact congrArg (call :: ·) (ih h)

/-- What is accepted, and the refused call after it, are where the calls begin. -/
theorem carry_stopped {b : Behavior} {calls : List Entry} {refused : Entry} {failure : Failure}
    (h : (b.carry calls).2 = some (refused, failure)) :
    b.refuses refused = some failure ∧ (b.carry calls).1 ++ [refused] <+: calls := by
  induction calls with
  | nil => cases h
  | cons call rest ih =>
    rw [carry] at h ⊢
    cases hr : b.refuses call with
    | some other =>
      rw [hr] at h
      cases h
      exact ⟨hr, rest, rfl⟩
    | none =>
      rw [hr] at h
      obtain ⟨refuses, before⟩ := ih h
      exact ⟨refuses, List.cons_prefix_cons.mpr ⟨rfl, before⟩⟩

/-- How the calls end. -/
def ending (refused? : Option (Entry × Failure)) : Except Failure Unit :=
  match refused? with
  | some (_, failure) => .error failure
  | none => .ok ()

end Behavior

/-! ## One leaf -/

/-- A stint on a handle of a scripted connection that makes these calls and no others, up to the
    first that is refused. -/
def Stint.Walks (b : Behavior) (calls : List Entry) (s : Stint shape Unit) : Prop :=
  s.entries = (b.carry calls).1 ∧ s.outcome = Behavior.ending (b.carry calls).2 ∧
    s.handle.backing = .scripted

/-- A call that is accepted is followed by what comes after it. -/
theorem Stint.Walks.cons {b : Behavior} {call : Entry} {calls : List Entry} {events : List Event}
    {s : Stint shape Unit} (accepted : b.refuses call = none) (h : s.Walks b calls) :
    Stint.Walks b (call :: calls) ⟨⟨s.outcome, call :: s.entries, events⟩, s.handle⟩ := by
  obtain ⟨entries, outcome, backing⟩ := h
  rw [Stint.Walks, Behavior.carry, accepted]
  exact ⟨congrArg (call :: ·) entries, outcome, backing⟩

/-- A call that is refused is the end. -/
theorem Stint.walks_of_refused {b : Behavior} {call : Entry} {calls : List Entry}
    {failure : Failure} {h : Handle shape} (refused : b.refuses call = some failure)
    (scripted : h.backing = .scripted) :
    Stint.Walks b (call :: calls) ⟨⟨.error failure, [], []⟩, h⟩ := by
  rw [Stint.Walks, Behavior.carry, refused]
  exact ⟨rfl, rfl, scripted⟩

/-- Where there is nothing to call nothing is done. -/
theorem Stint.walks_nil (b : Behavior) {h : Handle shape} (scripted : h.backing = .scripted) :
    Stint.Walks b [] ⟨⟨.ok (), [], []⟩, h⟩ := ⟨rfl, rfl, scripted⟩

namespace Runner

/-- **The loop over strings is a walk** over the calls that the strings stand for. -/
theorem runEach_walks (r : Runner) (b : Behavior) (strings : List String) (h : Handle .plain)
    (scripted : h.backing = .scripted) :
    ((r.runEach strings).stint h b).Walks b (strings.flatMap (Leaf.callsFor r)) := by
  induction strings generalizing h with
  | nil =>
    rw [runEach, HandleStep.stint_pure]
    exact Stint.walks_nil b scripted
  | cons sql rest ih =>
    -- the escape mode is switched without asking, so both ways come down to the string
    have ran (left : Handle .plain) (hl : left.backing = .scripted) :
        ((Handle.execute sql >>= fun _ => r.runEach rest).stint left b).Walks b
          (.ran .execute sql :: rest.flatMap (Leaf.callsFor r)) := by
      rw [HandleStep.stint_bind, Handle.execute_stint, hl]
      cases hr : b.refusal? sql with
      | some failure => exact Stint.walks_of_refused hr hl
      | none => exact (ih left hl).cons hr
    rw [runEach, HandleStep.stint_bind, HandleStep.stint_lift, announce_account, Stint.ok_bind,
      List.flatMap_cons, Leaf.callsFor]
    cases r.holdsMarker sql with
    | false => exact ran h scripted
    | true =>
      show Stint.Walks b _ (HandleStep.stint (Handle.setEscapeProcessing false >>= fun _ => _) h b)
      rw [HandleStep.stint_bind, Handle.setEscapeProcessing_stint, scripted]
      exact (ran { h with backing := .scripted, escapeProcessing := false } rfl).cons rfl

/-- A runner over a scripted connection that is online. -/
abbrev overScript (url : String) (dialect : Dialect) : Runner := ⟨.scripted url false, dialect⟩

end Runner

/-- What is written down of a leaf, and how it ends: its calls up to the first that is refused, then
    nothing but closing, and a refusal leaves as the execution error of the leaf. -/
def Leaf.Follows (r : Runner) (b : Behavior) (leaf : Leaf) (a : Account Unit) : Prop :=
  (∃ closes, (∀ e ∈ closes, e.isClose = true) ∧
    a.entries = (b.carry (leaf.calls r)).1 ++ closes) ∧
  a.outcome =
    (Behavior.ending (b.carry (leaf.calls r)).2).mapError (r.leaving leaf.strings "execute")

namespace Runner

/-- **A bracket around a walk** is a leaf that follows its plan. -/
theorem withHandle_follows {r : Runner} {b : Behavior} {leaf : Leaf}
    {acquire : Session (Handle shape)} {action : HandleStep shape Unit} [acquire.Local]
    [action.Local] {handle : Handle shape}
    (acquired : acquire.account b =
      .request (b.refuses leaf.acquisition) handle [leaf.acquisition])
    (walks : (action.stint handle b).Walks b (leaf.uses r)) :
    leaf.Follows r b ((r.withHandle acquire leaf.strings "execute" action).account b) := by
  obtain ⟨entries, outcome, backing⟩ := walks
  rw [withHandle_account, acquired, Leaf.Follows, Leaf.calls, Behavior.carry]
  cases b.refuses leaf.acquisition with
  | some failure => exact ⟨⟨[], fun e he => absurd he (by simp), rfl⟩, rfl⟩
  | none =>
    refine ⟨⟨(action.stint handle b).handle.closing, ?_, ?_⟩, ?_⟩
    · intro e he
      simp only [Handle.closing, Handle.closes, backing, if_true, List.mem_singleton] at he
      rw [he]
      rfl
    · exact congrArg (fun es => leaf.acquisition :: (es ++ _)) entries
    · exact congrArg (Except.mapError _) outcome

/-- A template is bound and then run, and both may be refused. -/
theorem executePrepared_walks (b : Behavior) (sql : String) (parameters : List Datum) :
    ((Handle.bind parameters >>= fun _ => Handle.executePrepared).stint
      { backing := .scripted, sql := sql } b).Walks b
        [.bound parameters, .ranPrepared .execute sql parameters] := by
  rw [HandleStep.stint_bind, Handle.bind_stint]
  cases hb : Backing.scripted.bindFailure? b with
  | some failure => exact Stint.walks_of_refused hb rfl
  | none =>
    have ran : (Handle.executePrepared.stint
        { backing := .scripted, sql := sql, parameters := parameters } b).Walks b
          [.ranPrepared .execute sql parameters] := by
      rw [Handle.executePrepared_stint]
      cases hr : b.refusal? sql with
      | some failure => exact Stint.walks_of_refused hr rfl
      | none =>
        have accepted : b.refuses (.ranPrepared .execute sql parameters) = none := hr
        exact (Stint.walks_nil b rfl).cons accepted
    exact ran.cons hb

theorem executePrepared_follows (url : String) (dialect : Dialect) (b : Behavior) (sql : String)
    (parameters : List Datum) :
    (Leaf.template sql parameters).Follows (overScript url dialect) b
      (((overScript url dialect).executePrepared sql parameters).account b) := by
  have bracket : (Leaf.template sql parameters).Follows (overScript url dialect) b
      (((overScript url dialect).withHandle (Connection.prepareStatement sql (.scripted url false))
        [sql] "execute" (do
          Handle.bind parameters
          Handle.executePrepared)).account b) :=
    withHandle_follows (Connection.openScripted_account sql _ b)
      (executePrepared_walks b sql parameters)
  unfold executePrepared
  rw [Session.account_bind, announce_account, Account.noting_bind]
  exact bracket

theorem executeText_follows (url : String) (dialect : Dialect) (b : Behavior)
    (strings : List String) :
    (Leaf.text strings).Follows (overScript url dialect) b
      (((overScript url dialect).withHandle (Connection.createStatement (.scripted url false))
        strings "execute" ((overScript url dialect).runEach strings)).account b) :=
  withHandle_follows (Connection.openScripted_account "" .created b)
    (runEach_walks _ b strings _ rfl)

/-- **Every leaf follows its plan.** -/
theorem executeCommand_follows (url : String) (dialect : Dialect) (b : Behavior)
    (visitors : List Visitor) {command : Command} {leaf : Leaf}
    (h : Leaf.ofCommand dialect visitors command = .ok leaf) :
    leaf.Follows (overScript url dialect) b
      (((overScript url dialect).executeCommand visitors command).account b) := by
  have online := (overScript url dialect).ensureOnline_account b
  unfold executeCommand
  rw [Session.account_bind_of_answer _ online]
  cases command with
  | prepared sql parameters =>
    cases h
    exact executePrepared_follows url dialect b sql parameters
  | _ =>
    unfold Leaf.ofCommand at h
    dsimp only at h ⊢
    cases hr : Rendering.render dialect visitors (.command _) with
    | error fault => rw [hr] at h; cases h
    | ok strings =>
      rw [hr] at h
      cases h
      have rendered := (overScript url dialect).render_account_of_ok hr b
      rw [Session.account_bind_of_answer _ rendered]
      exact executeText_follows url dialect b strings

end Runner

/-! ## The whole execution -/

/-- Where an execution is stopped. The leaves `done` were run to their end; of `leaf` the calls
    `begun` were accepted, and `refused`, which was the next of its calls, was not. What the journal
    has behind `begun` only closes, and the failure is that of the refused call. -/
structure Stop (r : Runner) (b : Behavior) (leaves : List Leaf) (log : List Entry)
    (failure : Failure) where
  done : List Leaf
  leaf : Leaf
  before : List Entry
  begun : List Entry
  refused : Entry
  closes : List Entry
  cause : Failure
  reached : done ++ [leaf] <+: leaves
  before_eq : callsOf before = done.flatMap (Leaf.calls r)
  begun_prefix : begun ++ [refused] <+: leaf.calls r
  log_eq : log = before ++ begun ++ closes
  only_closes : ∀ e ∈ closes, e.isClose = true
  refusal : b.refuses refused = some cause
  failure_eq : failure = r.leaving leaf.strings "execute" cause

namespace Stop

variable {r : Runner} {b : Behavior} {leaves : List Leaf} {log : List Entry} {failure : Failure}

/-- What was accepted are the calls of the leaves before, and what was begun. -/
theorem callsOf_log (s : Stop r b leaves log failure) :
    callsOf log = s.done.flatMap (Leaf.calls r) ++ s.begun := by
  have begun_calls : callsOf s.begun = s.begun := by
    obtain ⟨remaining, split⟩ := s.begun_prefix
    refine List.filter_eq_self.mpr fun e he => ?_
    refine List.filter_eq_self.mp (s.leaf.callsOf_calls r) e ?_
    rw [← split, List.append_assoc]
    exact List.mem_append_left _ he
  refine (congrArg callsOf s.log_eq).trans ?_
  rw [callsOf_append, callsOf_append, s.before_eq, begun_calls, callsOf_closes s.only_closes,
    List.append_nil]

/-- **The refused call was the next one**: it stands in the plan behind those that were accepted. -/
theorem calls_prefix (s : Stop r b leaves log failure) :
    callsOf log ++ [s.refused] <+: leaves.flatMap (Leaf.calls r) := by
  rw [s.callsOf_log]
  obtain ⟨remaining, split⟩ := s.begun_prefix
  obtain ⟨later, all⟩ := s.reached
  have plan := congrArg (List.flatMap (Leaf.calls r)) all
  rw [List.flatMap_append, List.flatMap_append, List.flatMap_singleton, ← split] at plan
  refine ⟨remaining ++ later.flatMap (Leaf.calls r), Eq.trans ?_ plan⟩
  simp only [List.append_assoc]

/-- Each leaf that was reached asked for one handle. -/
theorem acquired_calls (s : Stop r b leaves log failure) :
    acquired (callsOf log ++ [s.refused]) = (s.done ++ [s.leaf]).map Leaf.takes := by
  rw [s.callsOf_log, List.append_assoc, acquired_append, Leaf.acquired_plan,
    s.leaf.acquired_begun r s.begun_prefix, List.map_append]
  rfl

/-- A leaf that was run to its end before does not change where an execution is stopped. -/
def cons {leaf : Leaf} {first : List Entry} (s : Stop r b leaves log failure)
    (all : callsOf first = leaf.calls r) : Stop r b (leaf :: leaves) (first ++ log) failure where
  done := leaf :: s.done
  leaf := s.leaf
  before := first ++ s.before
  begun := s.begun
  refused := s.refused
  closes := s.closes
  cause := s.cause
  reached := List.cons_prefix_cons.mpr ⟨rfl, s.reached⟩
  before_eq := by rw [callsOf_append, all, s.before_eq, List.flatMap_cons]
  begun_prefix := s.begun_prefix
  log_eq := by
    refine (congrArg (first ++ ·) s.log_eq).trans ?_
    simp only [List.append_assoc]
  only_closes := s.only_closes
  refusal := s.refusal
  failure_eq := s.failure_eq

end Stop

namespace Runner

/-- **The loop over leaves is a walk** as well: either every leaf makes all of its calls, or it is
    stopped at the first call that is refused. -/
theorem executeAll_follows (url : String) (dialect : Dialect) (b : Behavior)
    (visitors : List Visitor) {commands : List Command} {leaves : List Leaf}
    (h : Leaf.ofCommands dialect visitors commands = .ok leaves) :
    let a := ((overScript url dialect).executeAll visitors commands).account b
    (a.outcome = .ok () ∧
        callsOf a.entries = leaves.flatMap (Leaf.calls (overScript url dialect))) ∨
      ∃ failure, a.outcome = .error failure ∧
        Nonempty (Stop (overScript url dialect) b leaves a.entries failure) := by
  induction commands generalizing leaves with
  | nil =>
    cases h
    exact .inl ⟨rfl, rfl⟩
  | cons command rest ih =>
    obtain ⟨leaf, hl, later⟩ := of_bind_eq_ok h
    obtain ⟨others, ho, same⟩ := of_bind_eq_ok later
    cases same
    obtain ⟨⟨closes, only, entries⟩, outcome⟩ :=
      executeCommand_follows url dialect b visitors hl
    rw [executeAll, Session.account_bind]
    cases hc : (b.carry (leaf.calls (overScript url dialect))).2 with
    | some stop =>
      -- stopped at a call of this leaf: no later leaf is come to, or rendered
      obtain ⟨refused, cause⟩ := stop
      obtain ⟨refusal, begun⟩ := Behavior.carry_stopped hc
      rw [hc] at outcome
      right
      rw [Account.bind_of_error outcome]
      exact ⟨_, rfl, ⟨{
        done := []
        leaf := leaf
        before := []
        begun := (b.carry (leaf.calls (overScript url dialect))).1
        refused := refused
        closes := closes
        cause := cause
        reached := ⟨others, rfl⟩
        before_eq := rfl
        begun_prefix := begun
        log_eq := entries
        only_closes := only
        refusal := refusal
        failure_eq := rfl }⟩⟩
    | none =>
      rw [hc] at outcome
      rw [Behavior.carry_all hc] at entries
      -- the leaf made all of its calls, so a stop can only be behind it
      have all : callsOf (((overScript url dialect).executeCommand visitors command).account
          b).entries = leaf.calls (overScript url dialect) := by
        rw [entries, callsOf_append, leaf.callsOf_calls, callsOf_closes only, List.append_nil]
      rw [Account.bind_of_ok outcome]
      rcases ih ho with ⟨ended, calls⟩ | ⟨failure, failed, ⟨stop⟩⟩
      · exact .inl ⟨ended, by rw [callsOf_append, all, calls, List.flatMap_cons]⟩
      · exact .inr ⟨failure, failed, ⟨stop.cons all⟩⟩

section

variable {r : Runner} (online : r.offlineFailure? = none) {statement : Statement}
  (visitors : List Visitor) {commands : List Command}
include online

/-- A change is executed as the commands it expands to. -/
theorem executeChange_account (h : statement.expand r.dialect.name = .ok commands)
    (b : Behavior) :
    (r.executeChange statement visitors).account b =
      (r.executeAll visitors commands).account b := by
  have passed := r.ensureOnline_account b
  rw [online, Account.request_none] at passed
  rw [executeChange, Session.account_bind_of_answer _ passed, h]
  exact Session.account_bind_of_answer _ (Session.account_ofFault (.ok commands) b)

/-- A statement is executed as the commands it expands to. -/
theorem execute_account (h : statement.expand r.dialect.name = .ok commands) (b : Behavior) :
    (r.execute statement visitors).account b = (r.executeAll visitors commands).account b := by
  cases statement with
  | command command =>
    cases h
    have alone : r.executeAll visitors [command] = r.executeCommand visitors command :=
      bind_pure_unit
    rw [alone]
    rfl
  | change change => exact executeChange_account online visitors h b

end

theorem execute_eq_executeAll (url : String) (dialect : Dialect) (b : Behavior)
    (statement : Statement) (visitors : List Visitor) {commands : List Command}
    (h : statement.expand dialect.name = .ok commands) :
    (((overScript url dialect).execute statement visitors).account b).outcome =
        (((overScript url dialect).executeAll visitors commands).account b).outcome ∧
      (((overScript url dialect).execute statement visitors).account b).entries =
        (((overScript url dialect).executeAll visitors commands).account b).entries := by
  have same := execute_account (r := overScript url dialect) rfl visitors h b
  exact ⟨congrArg Account.outcome same, congrArg Account.entries same⟩

/-- **Execution is ordered and fails fast.** Over a scripted connection that is online, a statement
    with a plan runs strings of the plan, in its order and from its beginning. If it ends well it
    has run all of them and taken one handle for each leaf, of the leaf's kind. If it fails, it was
    stopped: a call of the plan was refused, everything before that call was made, nothing but
    closing came after it, and each leaf up to the stopped one asked for one handle, of its kind. -/
theorem execute_ordered (url : String) (dialect : Dialect) (w : World) (statement : Statement)
    (visitors : List Visitor) (leaves : List Leaf)
    (h : statement.plan dialect visitors = .ok leaves) :
    let run := ((overScript url dialect).execute statement visitors).run w
    ∃ log, run.2.journal = w.journal ++ log ∧
      executed log <+: leaves.flatMap Leaf.strings ∧
      (run.1 = .ok () →
        executed log = leaves.flatMap Leaf.strings ∧ acquired log = leaves.map Leaf.takes) ∧
      ∀ failure, run.1 = .error failure →
        ∃ stop : Stop (overScript url dialect) w.behavior leaves log failure,
          callsOf log ++ [stop.refused] <+: leaves.flatMap (Leaf.calls (overScript url dialect)) ∧
          acquired (callsOf log ++ [stop.refused]) =
            (stop.done ++ [stop.leaf]).map Leaf.takes := by
  obtain ⟨commands, expanded, planned⟩ : ∃ commands,
      statement.expand dialect.name = .ok commands ∧
        Leaf.ofCommands dialect visitors commands = .ok leaves := by
    rw [Statement.plan] at h
    cases he : statement.expand dialect.name with
    | error fault => rw [he] at h; cases h
    | ok commands => rw [he] at h; exact ⟨commands, rfl, h⟩
  obtain ⟨outcome, entries⟩ :=
    execute_eq_executeAll url dialect w.behavior statement visitors expanded
  have walk := executeAll_follows url dialect w.behavior visitors planned
  simp only [← outcome, ← entries] at walk
  rw [Session.run_eq]
  refine ⟨_, rfl, ?_, ?_, ?_⟩
  · rw [← executed_callsOf, ← Leaf.executed_plan (overScript url dialect)]
    rcases walk with ⟨-, calls⟩ | ⟨failure, -, ⟨stop⟩⟩
    · exact calls ▸ List.prefix_refl _
    · exact ((List.prefix_append _ _).trans stop.calls_prefix).filterMap _
  · intro ended
    rcases walk with ⟨-, calls⟩ | ⟨failure, failed, -⟩
    · rw [← executed_callsOf, ← acquired_callsOf, calls, Leaf.executed_plan, Leaf.acquired_plan]
      exact ⟨rfl, rfl⟩
    · rw [failed] at ended
      cases ended
  · intro failure ended
    rcases walk with ⟨done, -⟩ | ⟨other, failed, ⟨stop⟩⟩
    · rw [done] at ended
      cases ended
    · rw [failed] at ended
      cases ended
      exact ⟨stop, stop.calls_prefix, stop.acquired_calls⟩

/-- A change within a change, over a driver that refuses the template in it. -/
theorem execute_ordered_nested :
    (Statement.change (.fixed [.command (.raw "DELETE FROM t" ";" false),
        .change (.fixed [.command (.prepared "INSERT INTO t VALUES (?)" [.int 7])])])).plan
      .sqlite [] =
        .ok [.text ["DELETE FROM t"], .template "INSERT INTO t VALUES (?)" [.int 7]] ∧
    ∃ log, (((overScript "db" .sqlite).execute
        (.change (.fixed [.command (.raw "DELETE FROM t" ";" false),
          .change (.fixed [.command (.prepared "INSERT INTO t VALUES (?)" [.int 7])])])) []).run
            { behavior := { refused := [{ part := "INSERT" }] } }).2.journal = log ∧
      executed log <+: ["DELETE FROM t", "INSERT INTO t VALUES (?)"] := by
  refine ⟨rfl, ?_⟩
  obtain ⟨log, journal, ordered, -⟩ := execute_ordered "db" .sqlite
    { behavior := { refused := [{ part := "INSERT" }] } }
    (.change (.fixed [.command (.raw "DELETE FROM t" ";" false),
      .change (.fixed [.command (.prepared "INSERT INTO t VALUES (?)" [.int 7])])])) []
    [.text ["DELETE FROM t"], .template "INSERT INTO t VALUES (?)" [.int 7]] rfl
  exact ⟨log, journal, ordered⟩

end Runner

end SqlRunner
