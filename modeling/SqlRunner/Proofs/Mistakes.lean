import SqlRunner.Proofs.Preflight

/-!
# Mistakes — the failures that are no execution errors

An execution error is meant to be the one type of error that callers see, and whatever goes wrong on
the way of a handle does leave as one. What a statement is made of is settled before there is a
handle, though, where nothing is translated: a change that cannot be expanded, a visitor that fails,
a separator that cannot be looked for and a statement of no known kind are mistakes of the caller,
and their faults are let out as they are. `perform_fault_iff` says exactly when that happens, for
every operation and in every world.

Where commands are run one after another, each is rendered when its turn comes. The fault of one of
them is then raised behind others that were run.
-/

set_option autoImplicit false

namespace SqlRunner

variable {r : Runner} {b : Behavior} {visitors : List Visitor} {fault : Fault}

/-! ## Mishaps of the runner's own -/

/-- What is raised on the way of a handle leaves as an execution error. -/
theorem Runner.ends_fault_iff {operation : String} {mishap : Mishap} :
    r.ends operation mishap = .fault fault ↔ mishap = .own (.fault fault) := by
  cases mishap with
  | own failure => exact ⟨congrArg Mishap.own, Mishap.own.inj⟩
  | raised strings failure =>
    constructor
    · intro h
      cases h
    · intro h
      cases h

/-- A check that fails is a mishap of the runner's own. -/
@[simp] theorem firstMishap?_check_iff (raised failure : Failure) :
    firstMishap? b [.check (some raised)] = some (.own failure) ↔ raised = failure := by
  rw [firstMishap?, List.findSome?_singleton, Stage.mishap?, Option.map_some, Option.some_inj,
    Mishap.own.injEq]

/-- What goes wrong on the way of a handle is not. -/
@[simp] theorem firstMishap?_attempt_iff (strings : List String) (hurdles : List Hurdle)
    (failure : Failure) :
    firstMishap? b [.attempt strings hurdles] = some (.own failure) ↔ False := by
  rw [firstMishap?, List.findSome?_singleton, Stage.mishap?, iff_false]
  intro h
  obtain ⟨raised, -, same⟩ := Option.map_eq_some_iff.mp h
  cases same

/-- Behind the check that the connection is online, a mistake is found where it is online. -/
theorem firstMishap?_online_iff (r : Runner) (stages : List Stage) :
    firstMishap? b (.check r.offlineFailure? :: stages) = some (.own (.fault fault)) ↔
      r.connection.isOffline = false ∧ firstMishap? b stages = some (.own (.fault fault)) := by
  rw [firstMishap?, List.findSome?_cons, Stage.mishap?]
  cases offline : r.connection.isOffline with
  | true =>
    rw [Runner.offlineFailure?_of_offline offline]
    constructor
    · intro h
      cases h
    · rintro ⟨online, -⟩
      cases online
  | false =>
    rw [Runner.offlineFailure?_of_online offline]
    exact ⟨fun found => ⟨rfl, found⟩, And.right⟩

namespace Runner

/-! ## Operations that render a statement once -/

theorem renderSingle_fault_iff {dialect : Dialect} {statement : Statement} (operation : String) :
    Rendering.renderSingle dialect visitors operation statement = .error (.fault fault) ↔
      Rendering.render dialect visitors statement = .error fault := by
  refine ⟨fun h => ?_, Rendering.renderSingle_of_error⟩
  unfold Rendering.renderSingle at h
  split at h
  · next raised hr =>
    cases h
    exact hr
  · cases h
  · cases h

theorem singleStages_fault_iff {statement : Statement} {operation : String}
    {after : List Hurdle} :
    firstMishap? b (r.singleStages statement visitors operation after) =
        some (.own (.fault fault)) ↔
      r.connection.isOffline = false ∧
        Rendering.render r.dialect visitors statement = .error fault := by
  rw [singleStages, firstMishap?_online_iff, ← renderSingle_fault_iff operation]
  refine and_congr_right fun _ => ?_
  cases Rendering.renderSingle r.dialect visitors operation statement with
  | error failure => simp
  | ok sql => simp

theorem callStages_fault_iff {statement : Statement} {conduct : Option Conduct} :
    firstMishap? b (r.callStages b statement conduct visitors) = some (.own (.fault fault)) ↔
      r.connection.isOffline = false ∧
        Rendering.render r.dialect visitors statement = .error fault := by
  rw [callStages, firstMishap?_online_iff]
  refine and_congr_right fun _ => ?_
  cases Rendering.render r.dialect visitors statement with
  | error raised => simp
  | ok strings => cases strings <;> simp

/-! ## Commands one after another -/

theorem commandStages_fault_iff {command : Command} :
    firstMishap? b (r.commandStages visitors command) = some (.own (.fault fault)) ↔
      command.isSelfExecuting = false ∧
        Rendering.render r.dialect visitors (.command command) = .error fault := by
  cases command with
  | prepared sql parameters => simp [commandStages, Command.isSelfExecuting]
  | _ =>
    unfold commandStages
    dsimp only
    cases Rendering.render r.dialect visitors (.command _) with
    | error raised => simp [Command.isSelfExecuting]
    | ok strings => simp

theorem firstMishap?_flatMap (commands : List Command) :
    firstMishap? b (commands.flatMap (r.commandStages visitors)) =
      commands.findSome? fun command => firstMishap? b (r.commandStages visitors command) := by
  induction commands with
  | nil => rfl
  | cons command rest ih =>
    rw [List.flatMap_cons, firstMishap?_append, ih, List.findSome?_cons]
    cases firstMishap? b (r.commandStages visitors command) with
    | none => rfl
    | some mishap => rfl

/-- What goes wrong with commands goes wrong with one of them, and with none before it. -/
theorem firstMishap?_flatMap_iff {commands : List Command} {mishap : Mishap} :
    firstMishap? b (commands.flatMap (r.commandStages visitors)) = some mishap ↔
      ∃ before command after, commands = before ++ command :: after ∧
        firstMishap? b (before.flatMap (r.commandStages visitors)) = none ∧
        firstMishap? b (r.commandStages visitors command) = some mishap := by
  simp only [firstMishap?_flatMap, List.findSome?_eq_some_iff, List.findSome?_eq_none_iff]
  constructor
  · rintro ⟨before, command, after, split, found, clear⟩
    exact ⟨before, command, after, split, clear, found⟩
  · rintro ⟨before, command, after, split, clear, found⟩
    exact ⟨before, command, after, split, found, clear⟩

/-- Commands are run to their end exactly if nothing goes wrong with any of them. -/
theorem executeAll_ok_iff (online : r.connection.isOffline = false) (w : World)
    (commands : List Command) :
    ((r.executeAll visitors commands).run w).1 = .ok () ↔
      firstMishap? w.behavior (commands.flatMap (r.commandStages visitors)) = none := by
  have fares : Fares r "execute" w.behavior (commands.flatMap (r.commandStages visitors))
      ((r.executeAll visitors commands).account w.behavior) :=
    executeAll_fares (offlineFailure?_of_online online) commands
  rw [← Option.map_eq_none_iff (f := r.ends "execute"), ← fares, Session.run_eq,
    Account.failure?]
  cases ((r.executeAll visitors commands).account w.behavior).outcome with
  | ok value => simp
  | error failure => simp

/-- A statement cannot be expanded, or one of its commands cannot be rendered when its turn
    comes. -/
def MisexpandsOrMisrenders (r : Runner) (w : World) (statement : Statement)
    (visitors : List Visitor) (fault : Fault) : Prop :=
  statement.expand r.dialect.name = .error fault ∨
    ∃ before command after, statement.expand r.dialect.name = .ok (before ++ command :: after) ∧
      ((r.executeAll visitors before).run w).1 = .ok () ∧
      command.isSelfExecuting = false ∧
      Rendering.render r.dialect visitors (.command command) = .error fault

theorem executionStages_fault_iff {w : World} {statement : Statement} :
    firstMishap? w.behavior (r.executionStages statement visitors) = some (.own (.fault fault)) ↔
      r.connection.isOffline = false ∧
        r.MisexpandsOrMisrenders w statement visitors fault := by
  rw [executionStages, firstMishap?_online_iff]
  refine and_congr_right fun online => ?_
  unfold MisexpandsOrMisrenders
  cases statement.expand r.dialect.name with
  | error raised => simp
  | ok commands =>
    dsimp only
    rw [firstMishap?_flatMap_iff]
    constructor
    · rintro ⟨before, command, after, rfl, clear, found⟩
      exact .inr ⟨before, command, after, rfl,
        (executeAll_ok_iff online w before).mpr clear, commandStages_fault_iff.mp found⟩
    · rintro (h | ⟨before, command, after, split, ran, mistaken⟩)
      · cases h
      · exact ⟨before, command, after, Except.ok.inj split,
          (executeAll_ok_iff online w before).mp ran, commandStages_fault_iff.mpr mistaken⟩

/-! ## Every operation -/

/-- The mistake of the caller that an operation comes upon in a world. The update of a call is
    refused before the call is rendered, and a template that is executed is not rendered at all. -/
def Mistaken (r : Runner) (w : World) (fault : Fault) : Operation → Prop
  | .query statement visitors | .call statement _ visitors =>
    Rendering.render r.dialect visitors statement = .error fault
  | .update statement visitors =>
    statement.isCall = false ∧ Rendering.render r.dialect visitors statement = .error fault
  | .execute statement visitors | .executeChange statement visitors =>
    r.MisexpandsOrMisrenders w statement visitors fault
  | .comment _ => False

theorem stages_fault_iff (r : Runner) (w : World) (operation : Operation) :
    firstMishap? w.behavior (r.stages w.behavior operation) = some (.own (.fault fault)) ↔
      r.connection.isOffline = false ∧ r.Mistaken w fault operation := by
  cases operation with
  | query statement visitors => exact singleStages_fault_iff
  | update statement visitors =>
    cases call : statement.isCall with
    | true =>
      rw [stages, firstMishap?, updateRefusal?_of_isCall call]
      constructor
      · intro h
        cases h
      · rintro ⟨-, other, -⟩
        cases call.symm.trans other
    | false =>
      rw [stages, firstMishap?, updateRefusal?_of_not_isCall call]
      refine singleStages_fault_iff.trans (and_congr_right fun _ => ?_)
      exact ⟨fun unrendered => ⟨call, unrendered⟩, And.right⟩
  | execute statement visitors => exact executionStages_fault_iff
  | executeChange statement visitors => exact executionStages_fault_iff
  | call statement conduct visitors => exact callStages_fault_iff
  | comment message =>
    constructor
    · intro h
      cases h
    · rintro ⟨-, mistaken⟩
      exact mistaken.elim

theorem perform_fault_iff (r : Runner) (w : World) (operation : Operation) (fault : Fault) :
    ((r.perform operation).run w).1 = .error (.fault fault) ↔
      r.connection.isOffline = false ∧ r.Mistaken w fault operation := by
  rw [perform_error_iff, ← stages_fault_iff]
  constructor
  · rintro ⟨mishap, first, ends⟩
    rw [first, ends_fault_iff.mp ends]
  · intro first
    exact ⟨.own (.fault fault), first, rfl⟩

theorem mem_all_kinds (kind : ErrorKind) : kind ∈ ErrorKind.all := by
  cases kind <;> decide

/-- **What leaves a runner.** Whatever is asked of it, over whichever connection and in whichever
    world, ends with a fault that is no execution error exactly if a mistake of the caller is come
    upon while a connection is online: the statement of a query, of a call, or of an update that is
    not of a call cannot be rendered, or the statement that is executed cannot be expanded, or one
    of its commands other than a template cannot be rendered after all commands before it were run.
    Every other failure is an execution error of one of the four kinds. -/
theorem perform_raises (r : Runner) (w : World) (operation : Operation) :
    let outcome := ((r.perform operation).run w).1
    (∀ fault, outcome = .error (.fault fault) ↔
      r.connection.isOffline = false ∧ r.Mistaken w fault operation) ∧
    (∀ failure, outcome = .error failure →
      (∀ fault, ¬ (r.connection.isOffline = false ∧ r.Mistaken w fault operation)) →
      ∃ error, failure = .execution error ∧ error.kind ∈ ErrorKind.all) := by
  refine ⟨r.perform_fault_iff w operation, fun failure outcome sound => ?_⟩
  cases failure with
  | execution error => exact ⟨error, rfl, mem_all_kinds error.kind⟩
  | fault fault => exact absurd ((r.perform_fault_iff w operation fault).mp outcome) (sound fault)

/-- A visitor that fails is a mistake that a query lets out as it is. -/
theorem query_raises_fault :
    let r : Runner := ⟨.scripted "fake://db" false, .sqlite⟩
    let statement := Statement.command (.raw "SELECT 1" ";" false)
    let outcome := ((r.perform (.query statement [.edit (.function .fail) []])).run {}).1
    outcome = .error (.fault (.visitorFailed "SELECT 1")) ∧
      ¬ ∃ error, outcome = .error (.execution error) := by
  intro r statement outcome
  have raised : outcome = .error (.fault (.visitorFailed "SELECT 1")) := rfl
  refine ⟨raised, ?_⟩
  rintro ⟨error, executed⟩
  cases raised.symm.trans executed

end Runner

end SqlRunner
