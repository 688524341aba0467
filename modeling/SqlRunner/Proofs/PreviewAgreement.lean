import SqlRunner.Preview
import SqlRunner.Proofs.Schedule

/-!
# What is shown of a statement, and what is run of it

A preview renders a statement as a whole and shows the strings; an execution goes from leaf to leaf
and renders each when its turn comes, but for templates, which it runs as they are written. Both
produce one sequence of strings, and `Line` is a place in it: the command that the string comes
from, the string that is run, and the string that is shown. `Line.ofCommands` are the lines of a
statement's commands; the preview is their `shown`, and an execution that nothing stops is their
`run`. Where the two part is then plain from the lines of one command.
-/

set_option autoImplicit false

namespace SqlRunner

/-- A place among the strings of a statement. -/
structure Line where
  /-- The command that the string comes from. -/
  origin : Command
  run : String
  shown : String

/-- A command is a template, or it does not bind and run itself. -/
theorem Command.prepared_or_rendered (command : Command) :
    (∃ sql parameters, command = .prepared sql parameters) ∨ command.isSelfExecuting = false := by
  cases command with
  | prepared sql parameters => exact .inl ⟨sql, parameters, rfl⟩
  | _ => exact .inr rfl

namespace Line

variable (dialect : Dialect) (visitors : List Visitor)

/-- The lines of a command. A template is shown finished, and run as it is. -/
def ofCommand : Command → Except Fault (List Line)
  | .prepared sql parameters =>
    (Rendering.finish dialect visitors sql).map fun finished =>
      [⟨.prepared sql parameters, sql, finished⟩]
  | command =>
    (Rendering.render dialect visitors (.command command)).map fun strings =>
      strings.map fun sql => ⟨command, sql, sql⟩

/-- The lines of commands, in order. -/
def ofCommands : List Command → Except Fault (List Line)
  | [] => .ok []
  | command :: rest => do
    let first ← ofCommand dialect visitors command
    let others ← ofCommands rest
    return first ++ others

variable {dialect : Dialect} {visitors : List Visitor}

/-! ## The lines of one command -/

/-- A command renders to its strings, finished. -/
theorem render_command (command : Command) :
    Rendering.render dialect visitors (.command command) =
      (do Rendering.finishAll dialect visitors (← command.generate)) := by
  show (do Rendering.finishAll dialect visitors (← generateAll [command])) = _
  rw [generateAll]
  cases command.generate with
  | error fault => rfl
  | ok strings => exact congrArg (Rendering.finishAll dialect visitors) (List.append_nil strings)

theorem render_prepared (sql : String) (parameters : List Datum) :
    Rendering.render dialect visitors (.command (.prepared sql parameters)) =
      (Rendering.finish dialect visitors sql).map fun finished => [finished] := by
  rw [render_command]
  show Rendering.finishAll dialect visitors [sql] = _
  rw [Rendering.finishAll]
  cases Rendering.finish dialect visitors sql with
  | error fault => rfl
  | ok finished => rfl

theorem ofCommand_of_rendered {command : Command} (h : command.isSelfExecuting = false) :
    ofCommand dialect visitors command =
      (Rendering.render dialect visitors (.command command)).map fun strings =>
        strings.map fun sql => ⟨command, sql, sql⟩ := by
  cases command with
  | prepared sql parameters => cases h
  | _ => rfl

/-- **What is shown of a command** is what it renders to, and it has lines whenever it renders. -/
theorem shown_ofCommand (command : Command) :
    (ofCommand dialect visitors command).map (List.map shown) =
      Rendering.render dialect visitors (.command command) := by
  rcases command.prepared_or_rendered with ⟨sql, parameters, rfl⟩ | rendered
  · rw [render_prepared, ofCommand]
    cases Rendering.finish dialect visitors sql with
    | error fault => rfl
    | ok finished => rfl
  · rw [ofCommand_of_rendered rendered]
    cases Rendering.render dialect visitors (.command command) with
    | error fault => rfl
    | ok strings =>
      refine congrArg Except.ok ?_
      rw [List.map_map]
      exact List.map_id strings

/-- **What is run of a command** are the strings of its leaf. -/
theorem run_ofCommand {command : Command} {lines : List Line}
    (h : ofCommand dialect visitors command = .ok lines) :
    ∃ leaf, Leaf.ofCommand dialect visitors command = .ok leaf ∧
      leaf.strings = lines.map run := by
  rcases command.prepared_or_rendered with ⟨sql, parameters, rfl⟩ | rendered
  · obtain ⟨finished, -, rfl⟩ := of_map_eq_ok h
    exact ⟨.template sql parameters, rfl, rfl⟩
  · rw [ofCommand_of_rendered rendered] at h
    obtain ⟨strings, hr, rfl⟩ := of_map_eq_ok h
    have leaf : Leaf.ofCommand dialect visitors command =
        (Rendering.render dialect visitors (.command command)).map .text := by
      cases command with
      | prepared sql parameters => cases rendered
      | _ => rfl
    refine ⟨.text strings, ?_, ?_⟩
    · rw [leaf, hr]
      rfl
    · rw [List.map_map]
      exact (List.map_id strings).symm

/-- Only of a template is something else shown than is run, and then it is the finished template. -/
theorem of_mem_ofCommand {command : Command} {lines : List Line}
    (h : ofCommand dialect visitors command = .ok lines) {line : Line} (mem : line ∈ lines) :
    line.origin = command ∧ (command.isSelfExecuting = false → line.run = line.shown) ∧
      ∀ sql parameters, command = .prepared sql parameters →
        line.run = sql ∧ Rendering.finish dialect visitors sql = .ok line.shown := by
  rcases command.prepared_or_rendered with ⟨sql, parameters, rfl⟩ | rendered
  · obtain ⟨finished, hf, rfl⟩ := of_map_eq_ok h
    cases List.mem_singleton.mp mem
    refine ⟨rfl, ?_, ?_⟩
    · intro rendered
      cases rendered
    · intro template others same
      cases same
      exact ⟨rfl, hf⟩
  · rw [ofCommand_of_rendered rendered] at h
    obtain ⟨strings, -, rfl⟩ := of_map_eq_ok h
    obtain ⟨sql, -, rfl⟩ := List.mem_map.mp mem
    refine ⟨rfl, fun _ => rfl, ?_⟩
    intro template parameters same
    subst same
    cases rendered

/-! ## The lines of all commands -/

theorem finishAll_append {first second done more : List String}
    (hf : Rendering.finishAll dialect visitors first = .ok done)
    (hs : Rendering.finishAll dialect visitors second = .ok more) :
    Rendering.finishAll dialect visitors (first ++ second) = .ok (done ++ more) := by
  induction first generalizing done with
  | nil =>
    cases hf
    exact hs
  | cons sql rest ih =>
    rw [Rendering.finishAll] at hf
    obtain ⟨finished, hh, ho⟩ := of_bind_eq_ok hf
    obtain ⟨others, hr, same⟩ := of_bind_eq_ok ho
    cases same
    rw [List.cons_append, Rendering.finishAll, hh, ih hr]
    rfl

/-- A statement renders to what its commands render to, one after another. -/
theorem shown_ofCommands {commands : List Command} {lines : List Line}
    (h : ofCommands dialect visitors commands = .ok lines) :
    ∃ strings, generateAll commands = .ok strings ∧
      Rendering.finishAll dialect visitors strings = .ok (lines.map shown) := by
  induction commands generalizing lines with
  | nil =>
    cases h
    exact ⟨[], rfl, rfl⟩
  | cons command rest ih =>
    obtain ⟨first, hc, ho⟩ := of_bind_eq_ok h
    obtain ⟨others, hr, same⟩ := of_bind_eq_ok ho
    cases same
    obtain ⟨more, generated, finished⟩ := ih hr
    have rendered := @shown_ofCommand dialect visitors command
    rw [hc, render_command] at rendered
    obtain ⟨own, generatedHere, finishedHere⟩ := of_bind_eq_ok rendered.symm
    refine ⟨own ++ more, ?_, ?_⟩
    · rw [generateAll, generatedHere, generated]
      rfl
    · rw [List.map_append]
      exact finishAll_append finishedHere finished

theorem run_ofCommands {commands : List Command} {lines : List Line}
    (h : ofCommands dialect visitors commands = .ok lines) :
    ∃ leaves, Leaf.ofCommands dialect visitors commands = .ok leaves ∧
      leaves.flatMap Leaf.strings = lines.map run := by
  induction commands generalizing lines with
  | nil =>
    cases h
    exact ⟨[], rfl, rfl⟩
  | cons command rest ih =>
    obtain ⟨first, hc, ho⟩ := of_bind_eq_ok h
    obtain ⟨others, hr, same⟩ := of_bind_eq_ok ho
    cases same
    obtain ⟨leaf, own, strings⟩ := run_ofCommand hc
    obtain ⟨leaves, later, more⟩ := ih hr
    refine ⟨leaf :: leaves, ?_, ?_⟩
    · rw [Leaf.ofCommands, own, later]
      rfl
    · rw [List.flatMap_cons, strings, more, List.map_append]

/-- Commands that all render have lines. -/
theorem exists_ofCommands {commands : List Command}
    (renders : ∀ command ∈ commands,
      ∃ strings, Rendering.render dialect visitors (.command command) = .ok strings) :
    ∃ lines, ofCommands dialect visitors commands = .ok lines := by
  induction commands with
  | nil => exact ⟨[], rfl⟩
  | cons command rest ih =>
    obtain ⟨strings, rendered⟩ := renders command List.mem_cons_self
    obtain ⟨others, hr⟩ := ih fun c hc => renders c (List.mem_cons_of_mem command hc)
    rw [← shown_ofCommand] at rendered
    obtain ⟨first, hc, -⟩ := of_map_eq_ok rendered
    exact ⟨first ++ others, by rw [ofCommands, hc, hr]; rfl⟩

/-- Where there are lines of all commands there are lines of each. -/
theorem exists_ofCommand {commands : List Command} {lines : List Line}
    (h : ofCommands dialect visitors commands = .ok lines) {command : Command}
    (mem : command ∈ commands) : ∃ own, ofCommand dialect visitors command = .ok own := by
  induction commands generalizing lines with
  | nil => cases mem
  | cons first rest ih =>
    obtain ⟨own, hc, ho⟩ := of_bind_eq_ok h
    obtain ⟨others, hr, -⟩ := of_bind_eq_ok ho
    rcases List.mem_cons.mp mem with rfl | later
    · exact ⟨own, hc⟩
    · exact ih hr later

/-- The lines are those of the commands, and no others. -/
theorem mem_ofCommands {commands : List Command} {lines : List Line}
    (h : ofCommands dialect visitors commands = .ok lines) {line : Line} :
    line ∈ lines ↔ ∃ command ∈ commands, ∃ own,
      ofCommand dialect visitors command = .ok own ∧ line ∈ own := by
  induction commands generalizing lines with
  | nil =>
    cases h
    simp
  | cons command rest ih =>
    obtain ⟨first, hc, ho⟩ := of_bind_eq_ok h
    obtain ⟨others, hr, same⟩ := of_bind_eq_ok ho
    cases same
    rw [List.mem_append, ih hr]
    constructor
    · rintro (here | ⟨other, mem, own, hown, later⟩)
      · exact ⟨command, List.mem_cons_self, first, hc, here⟩
      · exact ⟨other, List.mem_cons_of_mem command mem, own, hown, later⟩
    · rintro ⟨other, mem, own, hown, line_mem⟩
      rcases List.mem_cons.mp mem with rfl | later
      · rw [hc] at hown
        cases hown
        exact .inl line_mem
      · exact .inr ⟨other, later, own, hown, line_mem⟩

/-- **All is run as it is shown** exactly if finishing leaves every template as it is. -/
theorem run_eq_shown_iff {commands : List Command} {lines : List Line}
    (h : ofCommands dialect visitors commands = .ok lines) :
    lines.map run = lines.map shown ↔ ∀ sql parameters,
      Command.prepared sql parameters ∈ commands →
        Rendering.finish dialect visitors sql = .ok sql := by
  rw [List.map_inj_left]
  constructor
  · intro same sql parameters mem
    obtain ⟨own, hown⟩ := exists_ofCommand h mem
    obtain ⟨finished, hf, rfl⟩ := of_map_eq_ok hown
    have as_shown := same _ ((mem_ofCommands h).mpr
      ⟨_, mem, _, hown, List.mem_singleton_self _⟩)
    rw [hf]
    exact congrArg Except.ok as_shown.symm
  · intro unchanged line mem
    obtain ⟨command, hm, own, hown, hl⟩ := (mem_ofCommands h).mp mem
    obtain ⟨-, alike, template⟩ := of_mem_ofCommand hown hl
    rcases command.prepared_or_rendered with ⟨sql, parameters, rfl⟩ | rendered
    · obtain ⟨as_is, finished⟩ := template sql parameters rfl
      rw [unchanged sql parameters hm] at finished
      exact as_is.trans (Except.ok.inj finished)
    · exact alike rendered

end Line

/-! ## Previews -/

namespace Preview

/-- The string that an event shows to have been written. -/
def shown? (event : Event) : Option String :=
  if event.name = "writing_statement" then
    match event.fields.get? "sql" with
    | some (.text sql) => some sql
    | _ => none
  else none

/-- The strings that events show to have been written, in order. -/
def shown (events : List Event) : List String := events.filterMap shown?

/-- The event of a string. -/
def writing (sql : String) : Event := ⟨"writing_statement", [("sql", .text sql)]⟩

theorem shown_writing (strings : List String) : shown (strings.map writing) = strings := by
  rw [shown, List.filterMap_map]
  exact List.filterMap_some

/-- Every string is written and shown, in order. -/
theorem writeAll_run (p : Preview) (strings : List String) (page : Page) :
    (p.writeAll strings).run page =
      (.ok (), {
        text := strings.foldl (fun text sql => text ++ block p.dialect sql) page.text
        trace := (strings.map writing).foldl Recorder.record page.trace }) := by
  induction strings generalizing page with
  | nil => rfl
  | cons sql rest ih => exact ih _

/-- A statement that renders is previewed by writing its strings. -/
theorem execute_run (p : Preview) {statement : Statement} {visitors : List Visitor}
    {strings : List String} (h : Rendering.render p.dialect visitors statement = .ok strings)
    (page : Page) :
    (p.execute statement visitors).run page = (p.writeAll strings).run page := by
  rw [execute, render, h]
  rfl

end Preview

/-! ## Executions that nothing stops -/

/-- A behavior under which no call of an execution is refused. -/
structure Behavior.NeverRefuses (b : Behavior) : Prop where
  runs : b.refused = []
  acquires : b.failAcquire = []
  binds : b.failBind = false

namespace Behavior.NeverRefuses

variable {b : Behavior} (h : b.NeverRefuses)
include h

theorem acquireFailure?_eq_none (resource : Resource) : b.acquireFailure? resource = none := by
  rw [acquireFailure?, h.acquires]
  rfl

theorem refusal?_eq_none (sql : String) : b.refusal? sql = none := by
  rw [refusal?, h.runs]
  rfl

theorem bindFailure?_eq_none (backing : Backing) : backing.bindFailure? b = none := by
  cases backing with
  | scripted => exact if_neg (by simp [h.binds])
  | cursor style count => rfl

theorem refuses_eq_none (call : Entry) : b.refuses call = none := by
  cases call with
  | created => exact h.acquireFailure?_eq_none .statement
  | prepared sql => exact h.acquireFailure?_eq_none .prepared
  | preparedCall sql => exact h.acquireFailure?_eq_none .callable
  | bound parameters => exact h.bindFailure?_eq_none .scripted
  | ran verb sql => exact h.refusal?_eq_none sql
  | ranPrepared verb sql parameters => exact h.refusal?_eq_none sql
  | called sql parameters => exact h.refusal?_eq_none sql
  | _ => rfl

end Behavior.NeverRefuses

namespace Runner

/-- An execution that nothing stops runs all lines of its statement. -/
theorem execute_runs_lines (url : String) {dialect : Dialect} {visitors : List Visitor}
    {statement : Statement} {commands : List Command} {lines : List Line}
    (expanded : statement.expand dialect.name = .ok commands)
    (h : Line.ofCommands dialect visitors commands = .ok lines) {b : Behavior}
    (never : b.NeverRefuses) :
    let a := ((overScript url dialect).execute statement visitors).account b
    a.outcome = .ok () ∧ executed a.entries = lines.map Line.run := by
  obtain ⟨leaves, planned, strings⟩ := Line.run_ofCommands h
  obtain ⟨outcome, entries⟩ := execute_eq_executeAll url dialect b statement visitors expanded
  rcases executeAll_follows url dialect b visitors planned with
    ⟨ended, calls⟩ | ⟨failure, -, ⟨stop⟩⟩
  · refine ⟨outcome.trans ended, ?_⟩
    rw [entries, ← executed_callsOf, calls, Leaf.executed_plan, strings]
  · have refusal := stop.refusal
    rw [never.refuses_eq_none] at refusal
    cases refusal

/-- **An execution runs what a preview shows, but for templates that finishing changes.** Of a
    statement whose commands all render, an execution that nothing stops and a preview are done
    with the same lines, one string for each: they are equally many, and where a string does not
    come from a template they are equal. They are equal everywhere exactly if finishing leaves each
    template as it is. -/
theorem execute_against_preview (url address : String) (dialect : Dialect)
    (visitors : List Visitor) (statement : Statement) (commands : List Command)
    (expanded : statement.expand dialect.name = .ok commands)
    (renders : ∀ command ∈ commands,
      ∃ strings, Rendering.render dialect visitors (.command command) = .ok strings)
    (w : World) (never : w.behavior.NeverRefuses) (page : Page)
    (keeping : page.trace.keeping = true) :
    let execution := ((overScript url dialect).execute statement visitors).run w
    let preview := ((⟨dialect, address⟩ : Preview).execute statement visitors).run page
    ∃ lines log events,
      Line.ofCommands dialect visitors commands = .ok lines ∧
      execution.1 = .ok () ∧ execution.2.journal = w.journal ++ log ∧
      executed log = lines.map Line.run ∧
      preview.1 = .ok () ∧ preview.2.trace.events = page.trace.events ++ events ∧
      Preview.shown events = lines.map Line.shown ∧
      (executed log).length = (Preview.shown events).length ∧
      (∀ (i : Nat) (line : Line), lines[i]? = some line → line.origin.isSelfExecuting = false →
        (executed log)[i]? = (Preview.shown events)[i]?) ∧
      (executed log = Preview.shown events ↔ ∀ sql parameters,
        Command.prepared sql parameters ∈ commands →
          Rendering.finish dialect visitors sql = .ok sql) := by
  obtain ⟨lines, h⟩ := Line.exists_ofCommands renders
  obtain ⟨strings, generated, finished⟩ := Line.shown_ofCommands h
  have rendered : Rendering.render dialect visitors statement = .ok (lines.map Line.shown) := by
    rw [Rendering.render, Rendering.generate, expanded]
    show (generateAll commands >>= _) = _
    rw [generated]
    exact finished
  obtain ⟨ended, ran⟩ := execute_runs_lines url expanded h never
  have kept : ((lines.map Line.shown).map Preview.writing).foldl Recorder.record page.trace =
      { events := page.trace.events ++ (lines.map Line.shown).map Preview.writing } := by
    rw [← Recorder.foldl_record, ← keeping]
  rw [Session.run_eq, Preview.execute_run ⟨dialect, address⟩ rendered page, Preview.writeAll_run]
  have seen := Preview.shown_writing (lines.map Line.shown)
  refine ⟨lines, _, (lines.map Line.shown).map Preview.writing, h, ended, rfl, ran, rfl,
    congrArg Recorder.events kept, seen, ?_, ?_, ?_⟩
  · rw [ran, seen, List.length_map, List.length_map]
  · intro i line at_i rendered_line
    obtain ⟨command, -, own, hown, mem⟩ := (Line.mem_ofCommands h).mp (List.mem_of_getElem? at_i)
    obtain ⟨origin, alike, -⟩ := Line.of_mem_ofCommand hown mem
    rw [ran, seen, List.getElem?_map, List.getElem?_map, at_i]
    exact congrArg some (alike (origin ▸ rendered_line))
  · rw [ran, seen]
    exact Line.run_eq_shown_iff h

/-- A text of two strings and a template, with a visitor that is not let near the template when it
    is run. -/
theorem execute_against_preview_appending :
    let statement := Statement.change (.fixed
      [.command (.raw "DELETE FROM t; DELETE FROM u" ";" true),
        .change (.fixed [.command (.prepared "INSERT INTO t VALUES (?)" [.int 7])])])
    let visitors := [Visitor.edit (.append " -- nightly") []]
    ∃ log events,
      (((overScript "db" .sqlite).execute statement visitors).run {}).2.journal = log ∧
      (((⟨.sqlite, "db"⟩ : Preview).execute statement visitors).run {}).2.trace.events = events ∧
      (executed log).length = (Preview.shown events).length ∧
      executed log ≠ Preview.shown events := by
  intro statement visitors
  obtain ⟨lines, log, events, -, -, journal, -, -, trace, -, length, -, equal⟩ :=
    execute_against_preview "db" "db" .sqlite visitors statement
      [.raw "DELETE FROM t; DELETE FROM u" ";" true,
        .prepared "INSERT INTO t VALUES (?)" [.int 7]] rfl
      (List.forall_mem_cons.mpr ⟨⟨_, rfl⟩, List.forall_mem_cons.mpr
        ⟨⟨_, rfl⟩, fun _ none => absurd none (by simp)⟩⟩)
      {} ⟨rfl, rfl, rfl⟩ {} rfl
  refine ⟨log, events, journal, trace, length, fun same => ?_⟩
  have unchanged := equal.mp same "INSERT INTO t VALUES (?)" [.int 7] (by simp)
  have appended : Rendering.finish .sqlite visitors "INSERT INTO t VALUES (?)" =
      .ok "INSERT INTO t VALUES (?) -- nightly" := rfl
  rw [appended] at unchanged
  exact absurd (Except.ok.inj unchanged) (by decide)

end Runner

end SqlRunner
