import SqlRunner.Operation
import SqlRunner.Proofs.Nesting

/-!
# Preview runs — a page only grows, and by whole answers

An operation on a preview renders all it has to write before it writes the first block, and
rendering does not look at the page. So what an operation leaves behind is a list of `Passage`s that
the operation alone determines (`Preview.passages`), and a page after a history is the page before
it, continued by the passages of the operations that were answered (`performAll_passages`). There is
nothing that a refused operation could have left half written.

What a change writes is what its leaves write. Rendering generates the strings of all leaves before
it finishes the first of them, so a change need not fail with the failure of its first bad leaf; but
it fails if any leaf does, and otherwise the strings are those of the leaves, one leaf after another
(`Rendering.renderAll_ok_iff`).
-/

set_option autoImplicit false

namespace SqlRunner

/-- A piece of text on a page, and the events that report it. -/
structure Passage where
  text : String
  events : List Event

/-- The page with passages behind what is on it. -/
def Page.continued (page : Page) (passages : List Passage) : Page where
  text := page.text ++ String.join (passages.map Passage.text)
  trace := (passages.flatMap Passage.events).foldl Recorder.record page.trace

theorem Page.continued_nil (page : Page) : page.continued [] = page := by
  rw [continued, List.map_nil, String.join_nil, String.append_empty]
  rfl

/-- A page that was continued may be continued. -/
theorem Page.continued_append (page : Page) (first second : List Passage) :
    page.continued (first ++ second) = (page.continued first).continued second := by
  rw [continued, List.map_append, String.join_append, ← String.append_assoc, List.flatMap_append,
    List.foldl_append]
  rfl

namespace Rendering

variable {dialect : Dialect} {visitors : List Visitor}

/-- The strings of a command, or none if it does not render. -/
def rendered (dialect : Dialect) (visitors : List Visitor) (command : Command) : List String :=
  (render dialect visitors (.command command)).toOption.getD []

/-- Strings that are finished together are finished one by one. -/
theorem of_finishAll_append {first second strings : List String}
    (h : finishAll dialect visitors (first ++ second) = .ok strings) :
    ∃ done more, finishAll dialect visitors first = .ok done ∧
      finishAll dialect visitors second = .ok more ∧ strings = done ++ more := by
  induction first generalizing strings with
  | nil => exact ⟨[], strings, rfl, h, rfl⟩
  | cons sql rest ih =>
    rw [List.cons_append, finishAll] at h
    obtain ⟨own, finished, h⟩ := of_bind_eq_ok h
    obtain ⟨others, later, same⟩ := of_bind_eq_ok h
    cases same
    obtain ⟨done, more, here, behind, rfl⟩ := ih later
    refine ⟨own :: done, more, ?_, behind, rfl⟩
    rw [finishAll, finished, here]
    rfl

/-- **Commands render together** if each of them renders alone, and to the same strings. -/
theorem renderAll_ok_iff (commands : List Command) (strings : List String) :
    (generateAll commands >>= finishAll dialect visitors) = .ok strings ↔
      (∀ command ∈ commands, ∃ own,
        render dialect visitors (.command command) = .ok own) ∧
      commands.flatMap (rendered dialect visitors) = strings := by
  induction commands generalizing strings with
  | nil =>
    constructor
    · intro h
      cases h
      exact ⟨List.forall_mem_nil _, rfl⟩
    · rintro ⟨-, rfl⟩
      rfl
  | cons command rest ih =>
    constructor
    · intro h
      obtain ⟨generated, all, finished⟩ := of_bind_eq_ok h
      obtain ⟨own, here, later⟩ := of_bind_eq_ok all
      obtain ⟨others, behind, same⟩ := of_bind_eq_ok later
      cases same
      obtain ⟨done, more, first, second, rfl⟩ := of_finishAll_append finished
      have alone : render dialect visitors (.command command) = .ok done := by
        rw [Line.render_command, here]
        exact first
      obtain ⟨each, listed⟩ := (ih more).mp (by rw [behind]; exact second)
      refine ⟨List.forall_mem_cons.mpr ⟨⟨done, alone⟩, each⟩, ?_⟩
      rw [List.flatMap_cons, listed, rendered, alone]
      rfl
    · rintro ⟨each, rfl⟩
      obtain ⟨⟨done, alone⟩, others⟩ := List.forall_mem_cons.mp each
      have own : rendered dialect visitors command = done := by
        rw [rendered, alone]
        rfl
      rw [Line.render_command] at alone
      obtain ⟨generated, here, first⟩ := of_bind_eq_ok alone
      obtain ⟨more, behind, second⟩ := of_bind_eq_ok ((ih _).mpr ⟨others, rfl⟩)
      rw [generateAll, here, behind, List.flatMap_cons, own]
      exact Line.finishAll_append first second

theorem render_ok_iff {s : Statement} {strings : List String} :
    render dialect visitors s = .ok strings ↔ ∃ leaves, s.expand dialect.name = .ok leaves ∧
      (∀ leaf ∈ leaves, ∃ own, render dialect visitors (.command leaf) = .ok own) ∧
      leaves.flatMap (rendered dialect visitors) = strings := by
  have opened : render dialect visitors s =
      (s.expand dialect.name >>= fun leaves =>
        generateAll leaves >>= finishAll dialect visitors) := by
    rw [render, generate, bind_assoc]
  rw [opened]
  constructor
  · intro h
    obtain ⟨leaves, expanded, all⟩ := of_bind_eq_ok h
    exact ⟨leaves, expanded, (renderAll_ok_iff leaves strings).mp all⟩
  · rintro ⟨leaves, expanded, all⟩
    rw [expanded]
    exact (renderAll_ok_iff leaves strings).mpr all

end Rendering

namespace Preview

variable (p : Preview)

/-- The passage of a string: its block, which is a matter of the string and the dialect alone. -/
def passage (dialect : Dialect) (sql : String) : Passage := ⟨block dialect sql, [writing sql]⟩

/-- The failure of an operation that needs a database. -/
def unavailable (operation : String) : Failure :=
  .execution ((ExecutionError.connectionUnavailable (some p.address)).withContext
    [.operation (some operation)])

/-- What an operation writes, or why it does not. -/
def passages : Operation → Except Failure (List Passage)
  | .query _ _ => .error (p.unavailable "query")
  | .update _ _ => .error (p.unavailable "update")
  | .execute statement visitors | .executeChange statement visitors =>
    ((Rendering.render p.dialect visitors statement).map (List.map (passage p.dialect))).mapError
      Failure.fault
  | .call statement _ visitors =>
    ((Rendering.render p.dialect visitors statement).map fun strings =>
      (strings.take 1).map (passage p.dialect)).mapError Failure.fault
  | .comment message => .ok [⟨"-- " ++ message ++ "\n", []⟩]

/-- What an operation writes, which is nothing if it fails. -/
def written (operation : Operation) : List Passage := (p.passages operation).toOption.getD []

/-! ## One operation -/

/-- An operation that only writes is answered with nothing. -/
theorem run_answered (step : PreviewStep Unit) (page : Page) :
    (do step; return Answer.nothing : PreviewStep Answer).run page =
      match step.run page with
      | (.ok _, after) => (.ok .nothing, after)
      | (.error failure, after) => (.error failure, after) := by
  show (ExceptT.run (ExceptT.bind step fun _ => pure Answer.nothing)) page = _
  simp only [ExceptT.run, ExceptT.bind, ExceptT.mk, Bind.bind, StateT.bind]
  rcases step page with ⟨outcome, after⟩
  cases outcome <;> rfl

theorem write_run (sql : String) (page : Page) :
    (p.write sql).run page = (.ok (), page.continued [passage p.dialect sql]) := by
  rw [Page.continued, List.map_singleton, String.join_cons, String.join_nil, String.append_empty]
  rfl

/-- Strings are written as their blocks, one behind the other. -/
theorem writeAll_continued (strings : List String) (page : Page) :
    (p.writeAll strings).run page =
      (.ok (), page.continued (strings.map (passage p.dialect))) := by
  induction strings generalizing page with
  | nil =>
    rw [List.map_nil, Page.continued_nil]
    rfl
  | cons sql rest ih =>
    have first : page.continued ((sql :: rest).map (passage p.dialect)) =
        (page.continued [passage p.dialect sql]).continued (rest.map (passage p.dialect)) :=
      page.continued_append [passage p.dialect sql] _
    rw [first, ← ih]
    show (p.writeAll rest).run ((p.write sql).run page).2 = _
    rw [write_run]

theorem execute_continued (statement : Statement) (visitors : List Visitor) (page : Page) :
    (p.perform (.execute statement visitors)).run page =
      match p.passages (.execute statement visitors) with
      | .error failure => (.error failure, page)
      | .ok passages => (.ok .nothing, page.continued passages) := by
  rw [perform, execute, render, passages]
  cases Rendering.render p.dialect visitors statement with
  | error fault => rfl
  | ok strings =>
    show (do p.writeAll strings; return Answer.nothing : PreviewStep Answer).run page = _
    rw [run_answered, writeAll_continued]
    rfl

/-- **All or nothing.** An operation fails and leaves the page as it is, or it is answered and the
    page is continued by all of its passages; which of the two, and by what, does not depend on the
    page. -/
theorem perform_run (operation : Operation) (page : Page) :
    (p.perform operation).run page =
      match p.passages operation with
      | .error failure => (.error failure, page)
      | .ok passages => (.ok .nothing, page.continued passages) := by
  cases operation with
  | query statement visitors => rfl
  | update statement visitors => rfl
  | execute statement visitors => exact p.execute_continued statement visitors page
  | executeChange statement visitors => exact p.execute_continued statement visitors page
  | call statement conduct visitors =>
    rw [perform, executeCallable, render, passages]
    cases Rendering.render p.dialect visitors statement with
    | error fault => rfl
    | ok strings =>
      cases strings with
      | nil => exact congrArg (Prod.mk _) page.continued_nil.symm
      | cons sql rest =>
        show (do p.write sql; return Answer.nothing : PreviewStep Answer).run page = _
        rw [run_answered, write_run]
        rfl
  | comment message =>
    show _ = (Except.ok Answer.nothing, page.continued [⟨_, []⟩])
    rw [Page.continued, List.map_singleton, String.join_cons, String.join_nil,
      String.append_empty, ← String.append_assoc, ← String.append_assoc]
    rfl

/-! ## Histories -/

/-- The answer to an operation, on any page. -/
def answer (operation : Operation) : Except Failure Answer :=
  (p.passages operation).map fun _ => .nothing

theorem perform_continued (operation : Operation) (page : Page) :
    (p.perform operation).run page =
      (p.answer operation, page.continued (p.written operation)) := by
  rw [perform_run, answer, written]
  cases p.passages operation with
  | error failure => exact congrArg (Prod.mk _) page.continued_nil.symm
  | ok passages => rfl

/-- **A page grows by the passages of its operations**, in the order of the operations, and every
    answer is the one that the operation gets on any other page. -/
theorem performAll_continued (operations : List Operation) (page : Page) :
    p.performAll page operations =
      (operations.map p.answer, page.continued (operations.flatMap p.written)) := by
  induction operations generalizing page with
  | nil => rw [List.flatMap_nil, Page.continued_nil, performAll, List.map_nil]
  | cons operation rest ih =>
    rw [List.flatMap_cons, Page.continued_append, List.map_cons, performAll, perform_continued]
    show (_ :: (p.performAll _ rest).1, (p.performAll _ rest).2) = _
    rw [ih]

/-! ## Changes -/

theorem passages_execute_iff {s : Statement} {visitors : List Visitor} {passages : List Passage} :
    p.passages (.execute s visitors) = .ok passages ↔
      ∃ strings, Rendering.render p.dialect visitors s = .ok strings ∧
        strings.map (passage p.dialect) = passages := by
  rw [Preview.passages]
  cases Rendering.render p.dialect visitors s with
  | error fault => simp [Except.map]
  | ok strings => simp [Except.map]

theorem written_leaf (visitors : List Visitor) (leaf : Command) :
    p.written (.execute (.command leaf) visitors) =
      (Rendering.rendered p.dialect visitors leaf).map (passage p.dialect) := by
  rw [written, passages, Rendering.rendered]
  cases Rendering.render p.dialect visitors (.command leaf) with
  | error fault => rfl
  | ok strings => rfl

/-- **What a change writes** is what its leaves write, and it writes at all if each of them does. -/
theorem passages_change_iff {s : Statement} {visitors : List Visitor} {passages : List Passage} :
    p.passages (.executeChange s visitors) = .ok passages ↔
      ∃ leaves, s.expand p.dialect.name = .ok leaves ∧
        (∀ leaf ∈ leaves, ∃ own, p.passages (.execute (.command leaf) visitors) = .ok own) ∧
        leaves.flatMap (fun leaf => p.written (.execute (.command leaf) visitors)) = passages := by
  have renders (leaf : Command) :
      (∃ own, p.passages (.execute (.command leaf) visitors) = .ok own) ↔
        ∃ own, Rendering.render p.dialect visitors (.command leaf) = .ok own := by
    simp only [passages_execute_iff]
    exact ⟨fun ⟨_, strings, h, _⟩ => ⟨strings, h⟩, fun ⟨strings, h⟩ => ⟨_, strings, h, rfl⟩⟩
  have listed (leaves : List Command) :
      leaves.flatMap (fun leaf => p.written (.execute (.command leaf) visitors)) =
        (leaves.flatMap (Rendering.rendered p.dialect visitors)).map (passage p.dialect) := by
    rw [List.map_flatMap]
    exact congrArg (leaves.flatMap ·) (funext (p.written_leaf visitors))
  show p.passages (.execute s visitors) = .ok passages ↔ _
  rw [passages_execute_iff]
  constructor
  · rintro ⟨strings, rendered, rfl⟩
    obtain ⟨leaves, expanded, each, rfl⟩ := Rendering.render_ok_iff.mp rendered
    exact ⟨leaves, expanded, fun leaf mem => (renders leaf).mpr (each leaf mem), listed leaves⟩
  · rintro ⟨leaves, expanded, each, rfl⟩
    have all := fun leaf mem => (renders leaf).mp (each leaf mem)
    exact ⟨_, Rendering.render_ok_iff.mpr ⟨leaves, expanded, all, rfl⟩, (listed leaves).symm⟩

/-- **A preview writes all or nothing, and in blocks.** On every page an operation that fails leaves
    text and events as they are, and one that is answered puts its passages behind them: the block
    of each string that its statement renders to, in order, and of a call the block of the first.
    A history is the passages of its operations. A change is answered exactly if no change in its
    nesting has a fault and each of its leaves would be answered alone, and then the leaves executed
    one after another leave the same page. -/
theorem performAll_passages (p : Preview) (page : Page) (operations : List Operation) :
    (∀ operation failure, p.passages operation = .error failure →
      (p.perform operation).run page = (.error failure, page)) ∧
    (∀ operation passages, p.passages operation = .ok passages →
      (p.perform operation).run page = (.ok .nothing, page.continued passages)) ∧
    p.performAll page operations =
      (operations.map p.answer, page.continued (operations.flatMap p.written)) ∧
    ∀ s visitors,
      ((∃ passages, p.passages (.executeChange s visitors) = .ok passages) ↔
        (∀ place, s.faultAt? p.dialect.name place = none) ∧
        ∀ place leaf, s.commandAt? p.dialect.name place = some leaf →
          ∃ own, p.passages (.execute (.command leaf) visitors) = .ok own) ∧
      ∀ passages, p.passages (.executeChange s visitors) = .ok passages →
        ∃ leaves, Lists (s.commandAt? p.dialect.name) leaves ∧
          p.performAll page (leaves.map fun leaf => .execute (.command leaf) visitors) =
            (leaves.map fun _ => .ok .nothing, page.continued passages) := by
  refine ⟨fun operation failure h => ?_, fun operation passages h => ?_,
    p.performAll_continued operations page, fun s visitors => ⟨⟨?_, ?_⟩, ?_⟩⟩
  · rw [perform_run, h]
  · rw [perform_run, h]
  · rintro ⟨passages, h⟩
    obtain ⟨leaves, expanded, each, -⟩ := p.passages_change_iff.mp h
    obtain ⟨quiet, listed⟩ := Statement.expand_ok_iff.mp expanded
    exact ⟨quiet, fun place leaf found => each leaf (listed.mem_iff.mpr ⟨place, found⟩)⟩
  · rintro ⟨quiet, each⟩
    obtain ⟨leaves, expanded⟩ := Statement.exists_expand quiet
    obtain ⟨-, listed⟩ := Statement.expand_ok_iff.mp expanded
    refine ⟨_, p.passages_change_iff.mpr ⟨leaves, expanded, fun leaf mem => ?_, rfl⟩⟩
    obtain ⟨place, found⟩ := listed.mem_iff.mp mem
    exact each place leaf found
  · intro passages h
    obtain ⟨leaves, expanded, each, rfl⟩ := p.passages_change_iff.mp h
    refine ⟨leaves, (Statement.expand_ok_iff.mp expanded).2, ?_⟩
    rw [performAll_continued, List.map_map, List.flatMap_map]
    refine congrArg (Prod.mk · _) (List.map_congr_left fun leaf mem => ?_)
    obtain ⟨own, written⟩ := each leaf mem
    rw [Function.comp_apply, answer, written]
    rfl

/-- The first leaf alone has a block, and with the second the change has none. -/
example :
    let leaf := Statement.command (.raw "A" ";" false)
    let broken := Statement.command (.foreign "Merge")
    let p : Preview := ⟨.sqlite, "offline:sqlite"⟩
    (p.performAll {} [.execute leaf []]).2.text = "A;\n\n" ∧
    (p.performAll {} [.executeChange (.change (.fixed [leaf, broken])) []]).2.text = "" := by
  decide +kernel

end Preview

end SqlRunner
