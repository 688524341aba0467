import Mathlib.Data.List.Lex
import Mathlib.Data.List.Sort
import SqlRunner.Proofs.Preflight

/-!
# Nesting — how changes are grouped does not show

A change generates statements, which may be changes again. What is run of it in the end are the
commands at the ends of that nesting, and this file says so without expanding anything: a `Place`
tells how to walk into a nesting, which part to take at each level, and `Statement.at?` is what
stands there. Places are compared as lists of numbers, so a part comes after the change it is a part
of and after everything in the parts before it, which is depth first and from left to right.

`Statement.expand` lists the commands in the order of their places, or raises the fault of the first
change that cannot generate (`expand_settles`). Everything that is done with a statement as a whole,
rendering, executing and previewing it, goes by what it expands to, so that statements with the same
commands in the same order cannot be told apart (`grouping_invisible`).
-/

set_option autoImplicit false

namespace SqlRunner

variable {α β : Type}

/-! ## Values at places -/

/-- Where something stands in a nesting: which part to go into, level by level. -/
abbrev Place := List Nat

/-- The values are those at places, listed in the order of the places. -/
def Lists (f : Place → Option α) (values : List α) : Prop :=
  ∃ places : List Place, places.Pairwise (· < ·) ∧ (∀ place, place ∈ places ↔ f place ≠ none) ∧
    places.map f = values.map some

/-- The value is that at the first place where there is any. -/
def First (f : Place → Option α) (value : α) : Prop :=
  ∃ place, f place = some value ∧ ∀ earlier, earlier < place → f earlier = none

/-- There is only one list of the values. -/
theorem Lists.unique {f : Place → Option α} {values others : List α} (h : Lists f values)
    (h' : Lists f others) : values = others := by
  obtain ⟨places, sorted, exact', listed⟩ := h
  obtain ⟨places', sorted', exact'', listed'⟩ := h'
  have same : places = places' :=
    sorted.eq_of_mem_iff sorted' fun place => (exact' place).trans (exact'' place).symm
  subst same
  exact List.map_injective_iff.mpr (fun _ _ => Option.some.inj) (listed.symm.trans listed')

/-- What is listed are the values, wherever they stand. -/
theorem Lists.mem_iff {f : Place → Option α} {values : List α} (h : Lists f values) {value : α} :
    value ∈ values ↔ ∃ place, f place = some value := by
  obtain ⟨places, -, filled, listed⟩ := h
  rw [← List.mem_map_of_injective (Option.some_injective α), ← listed, List.mem_map]
  constructor
  · rintro ⟨place, -, found⟩
    exact ⟨place, found⟩
  · rintro ⟨place, found⟩
    exact ⟨place, (filled place).mpr (by simp [found]), found⟩

theorem First.unique {f : Place → Option α} {value other : α} (h : First f value)
    (h' : First f other) : value = other := by
  obtain ⟨place, found, before⟩ := h
  obtain ⟨place', found', before'⟩ := h'
  rcases lt_trichotomy place place' with earlier | rfl | later
  · cases found.symm.trans (before' place earlier)
  · exact Option.some.inj (found.symm.trans found')
  · cases found'.symm.trans (before place' later)

/-- Two nestings side by side, the first of them at number zero. -/
def beside (f g : Place → Option α) : Place → Option α
  | [] => none
  | 0 :: place => f place
  | (i + 1) :: place => g (i :: place)

/-- A place on its way one part further to the right. -/
def Place.next : Place → Place
  | [] => []
  | i :: place => (i + 1) :: place

theorem Place.next_lt_next_iff {place other : Place} :
    place.next < other.next ↔ place < other := by
  cases place with
  | nil => cases other <;> simp [next]
  | cons i rest => cases other <;> simp [next, List.cons_lt_cons_iff]

/-- Everything in the first part comes before everything in the others. -/
theorem Place.zero_lt_next {place other : Place} (h : other ≠ []) : 0 :: place < other.next := by
  cases other with
  | nil => exact absurd rfl h
  | cons i rest => exact List.cons_lt_cons_iff.mpr (.inl i.succ_pos)

theorem beside_next {f g : Place → Option α} (h : g [] = none) (place : Place) :
    beside f g place.next = g place := by
  cases place with
  | nil => exact h.symm
  | cons i rest => rfl

/-- **The values of two nestings side by side** are those of the first and then those of the
    second. -/
theorem Lists.beside {f g : Place → Option α} {values others : List α} (hf : Lists f values)
    (hg : Lists g others) (empty : g [] = none) : Lists (beside f g) (values ++ others) := by
  obtain ⟨places, sorted, filled, listed⟩ := hf
  obtain ⟨places', sorted', filled', listed'⟩ := hg
  refine ⟨places.map (0 :: ·) ++ places'.map Place.next, ?_, ?_, ?_⟩
  · refine List.pairwise_append.mpr ⟨?_, ?_, ?_⟩
    · exact sorted.map _ fun _ _ before => List.cons_lt_cons_iff.mpr (.inr ⟨rfl, before⟩)
    · exact sorted'.map _ fun _ _ before => Place.next_lt_next_iff.mpr before
    · simp only [List.mem_map]
      rintro _ ⟨place, -, rfl⟩ _ ⟨other, mem, rfl⟩
      exact Place.zero_lt_next fun root => (filled' other).mp mem (root ▸ empty)
  · intro place
    constructor
    · intro mem
      rcases List.mem_append.mp mem with first | second
      · obtain ⟨inner, held, rfl⟩ := List.mem_map.mp first
        exact (filled inner).mp held
      · obtain ⟨inner, held, rfl⟩ := List.mem_map.mp second
        rw [beside_next empty]
        exact (filled' inner).mp held
    · intro value
      match place with
      | [] => exact absurd rfl value
      | 0 :: inner =>
        exact List.mem_append_left _ (List.mem_map_of_mem ((filled inner).mpr value))
      | (i + 1) :: inner =>
        exact List.mem_append_right _
          (List.mem_map.mpr ⟨i :: inner, (filled' (i :: inner)).mpr value, rfl⟩)
  · rw [List.map_append, List.map_append, List.map_map, List.map_map, ← listed, ← listed']
    exact congrArg (places.map f ++ places'.map ·) (funext (beside_next empty))

theorem First.beside_left {f : Place → Option α} {value : α} (h : First f value)
    (g : Place → Option α) : First (beside f g) value := by
  obtain ⟨place, found, before⟩ := h
  refine ⟨0 :: place, found, fun earlier less => ?_⟩
  match earlier with
  | [] => rfl
  | 0 :: inner =>
    rcases List.cons_lt_cons_iff.mp less with less | ⟨-, less⟩
    · cases less
    · exact before inner less
  | (i + 1) :: inner =>
    rcases List.cons_lt_cons_iff.mp less with less | ⟨same, -⟩
    · cases less
    · cases same

theorem First.beside_right {f g : Place → Option α} {value : α} (quiet : ∀ place, f place = none)
    (h : First g value) (empty : g [] = none) : First (beside f g) value := by
  obtain ⟨place, found, before⟩ := h
  refine ⟨place.next, (beside_next empty place).trans found, fun earlier less => ?_⟩
  match earlier with
  | [] => rfl
  | 0 :: inner => exact quiet inner
  | (i + 1) :: inner => exact before (i :: inner) (Place.next_lt_next_iff.mp less)

/-! ## Nestings of changes -/

/-- What a change generates for the dialect of a name. It may generate nothing at all. -/
def Change.generated (dialect : String) : Change → Except Fault (Option (List Statement))
  | .fixed statements => .ok (some statements)
  | .byDialect cases fallback =>
    .ok (((cases.find? fun c => c.1 == dialect).map Prod.snd).or fallback)
  | .nothing => .ok none
  | .failing message => .error (.driver message)

namespace Statement

/-- The statement as a command, if it is one. -/
def command? : Statement → Option Command
  | command c => some c
  | change _ => none

/-- The fault with which a statement cannot generate. -/
def fault? (dialect : String) : Statement → Option Fault
  | command _ => none
  | change c =>
    match c.generated dialect with
    | .ok _ => none
    | .error fault => some fault

/-- The parts of a statement. Generating nothing is having none. -/
def parts (dialect : String) : Statement → List Statement
  | command _ => []
  | change c =>
    match c.generated dialect with
    | .ok generated => generated.getD []
    | .error _ => []

/-- What stands at a place of a statement. -/
def at? (dialect : String) : Place → Statement → Option Statement
  | [], s => some s
  | i :: place, s => (s.parts dialect)[i]?.bind (at? dialect place)

/-- The command at a place. -/
def commandAt? (dialect : String) (s : Statement) (place : Place) : Option Command :=
  (s.at? dialect place).bind command?

/-- The fault of the change at a place. -/
def faultAt? (dialect : String) (s : Statement) (place : Place) : Option Fault :=
  (s.at? dialect place).bind (fault? dialect)

end Statement

/-- What statements hold at their places, side by side. -/
def sideBySide (f : Statement → Place → Option α) : List Statement → Place → Option α
  | [] => fun _ => none
  | s :: rest => beside (f s) (sideBySide f rest)

theorem sideBySide_nil (f : Statement → Place → Option α) (statements : List Statement) :
    sideBySide f statements [] = none := by
  cases statements <;> rfl

/-- Side by side, the first number of a place says which statement it is in. -/
theorem sideBySide_cons (f : Statement → Place → Option α) (statements : List Statement) (i : Nat)
    (place : Place) :
    sideBySide f statements (i :: place) = statements[i]?.bind fun s => f s place := by
  induction statements generalizing i with
  | nil => rfl
  | cons s rest ih =>
    cases i with
    | zero => rfl
    | succ i => exact ih i

namespace Statement

variable {dialect : String}

/-- A change holds what its parts hold, side by side: it is no command itself. -/
theorem commandAt?_change (c : Change) :
    (change c).commandAt? dialect =
      sideBySide (commandAt? dialect) ((change c).parts dialect) := by
  funext place
  cases place with
  | nil => exact (sideBySide_nil _ _).symm
  | cons i place =>
    rw [sideBySide_cons, commandAt?, at?, Option.bind_assoc]
    rfl

/-- A change that generates has no fault but those of its parts. -/
theorem faultAt?_change {c : Change} {generated : Option (List Statement)}
    (h : c.generated dialect = .ok generated) :
    (change c).faultAt? dialect = sideBySide (faultAt? dialect) ((change c).parts dialect) := by
  funext place
  cases place with
  | nil =>
    rw [sideBySide_nil, faultAt?, at?, Option.bind_some, fault?, h]
  | cons i place =>
    rw [sideBySide_cons, faultAt?, at?, Option.bind_assoc]
    rfl

/-- A part is smaller than what it is a part of. -/
theorem sizeOf_lt_of_mem_parts {s part : Statement} (h : part ∈ s.parts dialect) :
    sizeOf part < sizeOf s := by
  cases s with
  | command c => cases h
  | change c =>
    cases c with
    | fixed statements =>
      have smaller : sizeOf part < sizeOf statements := List.sizeOf_lt_of_mem h
      simp only [change.sizeOf_spec, Change.fixed.sizeOf_spec]
      omega
    | nothing => cases h
    | failing message => cases h
    | byDialect cases fallback =>
      simp only [change.sizeOf_spec, Change.byDialect.sizeOf_spec]
      simp only [parts, Change.generated] at h
      cases hc : cases.find? fun c => c.1 == dialect with
      | some c =>
        rw [hc] at h
        have held : sizeOf c < sizeOf cases := List.sizeOf_lt_of_mem (List.mem_of_find?_eq_some hc)
        have smaller : sizeOf part < sizeOf c.2 := List.sizeOf_lt_of_mem h
        have second : sizeOf c = 1 + sizeOf c.1 + sizeOf c.2 := by
          rw [← Prod.mk.sizeOf_spec]
        omega
      | none =>
        rw [hc] at h
        cases fallback with
        | none => cases h
        | some statements =>
          have smaller : sizeOf part < sizeOf statements := List.sizeOf_lt_of_mem h
          simp only [Option.some.sizeOf_spec]
          omega

end Statement

/-! ## Expanding -/

variable {dialect : String}

theorem expandCase_eq (cases : List (String × List Statement)) :
    expandCase dialect cases =
      (cases.find? fun c => c.1 == dialect).map fun c => expandAll dialect c.2 := by
  induction cases with
  | nil => rfl
  | cons c rest ih =>
    rw [expandCase, List.find?_cons, ih]
    cases c.1 == dialect with
    | true => rfl
    | false => rfl

/-- A change is expanded by expanding its parts, if it can generate them. -/
theorem Statement.expand_change (c : Change) :
    (Statement.change c).expand dialect =
      match c.generated dialect with
      | .ok _ => expandAll dialect ((Statement.change c).parts dialect)
      | .error fault => .error fault := by
  rw [expand]
  cases c with
  | fixed statements => rw [Change.expand]; rfl
  | nothing => rw [Change.expand]; rfl
  | failing message => rw [Change.expand]; rfl
  | byDialect cases fallback =>
    rw [Change.expand, expandCase_eq]
    simp only [Change.generated, parts]
    cases cases.find? fun c => c.1 == dialect with
    | some c => rfl
    | none => cases fallback <;> rfl

/-- What expanding comes to, told from what stands at the places: all commands in the order of their
    places if no change has a fault, and otherwise the first fault. -/
def Settles (faults : Place → Option Fault) (commands : Place → Option Command) :
    Except Fault (List Command) → Prop
  | .ok listed => (∀ place, faults place = none) ∧ Lists commands listed
  | .error fault => First faults fault

/-- **Statements side by side** are expanded one after another, up to the first fault. -/
theorem expandAll_settles (statements : List Statement)
    (h : ∀ s ∈ statements,
      Settles (s.faultAt? dialect) (s.commandAt? dialect) (s.expand dialect)) :
    Settles (sideBySide (Statement.faultAt? dialect) statements)
      (sideBySide (Statement.commandAt? dialect) statements) (expandAll dialect statements) := by
  induction statements with
  | nil =>
    rw [expandAll]
    exact ⟨fun _ => rfl, [], .nil, fun _ => by simp [sideBySide], rfl⟩
  | cons s rest ih =>
    have first := h s List.mem_cons_self
    have others := ih fun part mem => h part (List.mem_cons_of_mem s mem)
    rw [expandAll]
    cases hs : s.expand dialect with
    | error fault =>
      rw [hs] at first
      exact First.beside_left first _
    | ok commands =>
      rw [hs] at first
      cases hr : expandAll dialect rest with
      | error fault =>
        rw [hr] at others
        exact First.beside_right first.1 others (sideBySide_nil _ _)
      | ok listed =>
        rw [hr] at others
        refine ⟨fun place => ?_, first.2.beside others.2 (sideBySide_nil _ _)⟩
        match place with
        | [] => rfl
        | 0 :: inner => exact first.1 inner
        | (i + 1) :: inner => exact others.1 (i :: inner)

/-- **What a statement expands to** is what stands at its places. The induction is on the nesting: a
    command stands for itself, and a change for its parts, which are smaller. -/
theorem Statement.expand_settles (s : Statement) :
    Settles (s.faultAt? dialect) (s.commandAt? dialect) (s.expand dialect) := by
  match s with
  | .command c =>
    rw [expand]
    refine ⟨fun place => ?_, [[]], List.pairwise_singleton _ _, fun place => ?_, rfl⟩
    · cases place <;> rfl
    · cases place <;> simp [commandAt?, at?, command?, parts]
  | .change c =>
    rw [expand_change]
    cases hg : c.generated dialect with
    | error fault =>
      refine ⟨[], ?_, fun earlier less => absurd less (List.not_lt_nil earlier)⟩
      rw [faultAt?, at?, Option.bind_some, fault?, hg]
    | ok generated =>
      rw [faultAt?_change hg, commandAt?_change]
      exact expandAll_settles _ fun part mem => expand_settles part
termination_by sizeOf s
decreasing_by exact sizeOf_lt_of_mem_parts mem

namespace Statement

theorem expand_ok_iff {s : Statement} {commands : List Command} :
    s.expand dialect = .ok commands ↔
      (∀ place, s.faultAt? dialect place = none) ∧ Lists (s.commandAt? dialect) commands := by
  have settled : Settles (s.faultAt? dialect) (s.commandAt? dialect) (s.expand dialect) :=
    s.expand_settles
  cases he : s.expand dialect with
  | ok listed =>
    rw [he] at settled
    constructor
    · intro same
      exact Except.ok.inj same ▸ settled
    · rintro ⟨-, others⟩
      exact congrArg Except.ok (settled.2.unique others)
  | error fault =>
    rw [he] at settled
    obtain ⟨place, found, -⟩ := settled
    constructor
    · intro h
      cases h
    · rintro ⟨quiet, -⟩
      cases found.symm.trans (quiet place)

theorem expand_error_iff {s : Statement} {fault : Fault} :
    s.expand dialect = .error fault ↔ First (s.faultAt? dialect) fault := by
  have settled : Settles (s.faultAt? dialect) (s.commandAt? dialect) (s.expand dialect) :=
    s.expand_settles
  cases he : s.expand dialect with
  | ok listed =>
    rw [he] at settled
    constructor
    · intro h
      cases h
    · rintro ⟨place, found, -⟩
      cases found.symm.trans (settled.1 place)
  | error first =>
    rw [he] at settled
    exact ⟨fun same => Except.error.inj same ▸ settled,
      fun other => congrArg Except.error (settled.unique other)⟩

/-- Without faults there is an expansion. -/
theorem exists_expand {s : Statement} (quiet : ∀ place, s.faultAt? dialect place = none) :
    ∃ commands, s.expand dialect = .ok commands := by
  cases he : s.expand dialect with
  | ok commands => exact ⟨commands, rfl⟩
  | error fault =>
    obtain ⟨place, found, -⟩ := expand_error_iff.mp he
    cases found.symm.trans (quiet place)

end Statement

/-! ## Whoever expands a statement -/

section

variable {dialect : Dialect} {s t : Statement} (visitors : List Visitor)

theorem Rendering.render_congr (h : s.expand dialect.name = t.expand dialect.name) :
    render dialect visitors s = render dialect visitors t := by
  rw [render, render, generate, generate, h]

theorem Rendering.render_of_expand_error {fault : Fault}
    (h : s.expand dialect.name = .error fault) : render dialect visitors s = .error fault := by
  rw [render, generate, h]
  rfl

theorem Runner.executeChange_congr (r : Runner)
    (h : s.expand r.dialect.name = t.expand r.dialect.name) :
    r.perform (.executeChange s visitors) = r.perform (.executeChange t visitors) := by
  rw [perform, perform, executeChange, executeChange, h]

theorem Preview.executeChange_congr (p : Preview)
    (h : s.expand p.dialect.name = t.expand p.dialect.name) :
    p.perform (.executeChange s visitors) = p.perform (.executeChange t visitors) := by
  rw [perform, perform, execute, execute, render, render, Rendering.render_congr visitors h]

/-- A runner that is online raises the fault of expanding, and touches nothing. -/
theorem Runner.executeChange_refuses_fault {r : Runner} {fault : Fault}
    (online : r.connection.isOffline = false) (h : s.expand r.dialect.name = .error fault) :
    (r.perform (.executeChange s visitors)).Refuses (.fault fault) := by
  refine perform_refuses ?_
  rw [preflight?, offlineFailure?_of_online online, Option.none_or, h, faultOf?]

/-- A preview raises it too, and writes nothing. -/
theorem Preview.executeChange_of_error {p : Preview} {fault : Fault}
    (h : s.expand p.dialect.name = .error fault) (page : Page) :
    (p.perform (.executeChange s visitors)).run page = (.error (.fault fault), page) := by
  rw [perform, execute, render, Rendering.render_of_expand_error visitors h]
  rfl

end

/-- **Grouping does not show.** A statement in whose nesting no change has a fault expands, and it
    expands to the commands at its places, depth first and from left to right, and to nothing else.
    Two such statements with the same commands in the same order are rendered alike, and when they
    are executed or previewed as changes the same comes of it in every world and on every page. If
    some change of the nesting has a fault, the first fault is what a runner that is online raises,
    and nothing is asked of the database, written down or reported; a preview raises it too, and
    its page stays as it is. -/
theorem grouping_invisible (dialect : Dialect) (s : Statement) :
    ((∀ place, s.faultAt? dialect.name place = none) →
      ∃ commands, s.expand dialect.name = .ok commands) ∧
    (∀ commands, s.expand dialect.name = .ok commands ↔
      (∀ place, s.faultAt? dialect.name place = none) ∧
        Lists (s.commandAt? dialect.name) commands) ∧
    (∀ t commands, (∀ place, s.faultAt? dialect.name place = none) →
      (∀ place, t.faultAt? dialect.name place = none) →
      Lists (s.commandAt? dialect.name) commands → Lists (t.commandAt? dialect.name) commands →
      ∀ visitors,
        Rendering.render dialect visitors s = Rendering.render dialect visitors t ∧
        (∀ connection w,
          ((⟨connection, dialect⟩ : Runner).perform (.executeChange s visitors)).run w =
            ((⟨connection, dialect⟩ : Runner).perform (.executeChange t visitors)).run w) ∧
        (∀ address page,
          ((⟨dialect, address⟩ : Preview).perform (.executeChange s visitors)).run page =
            ((⟨dialect, address⟩ : Preview).perform (.executeChange t visitors)).run page)) ∧
    ((∃ place, s.faultAt? dialect.name place ≠ none) →
      ∃ fault, First (s.faultAt? dialect.name) fault ∧ ∀ visitors,
        (∀ connection, connection.isOffline = false →
          ((⟨connection, dialect⟩ : Runner).perform (.executeChange s visitors)).Refuses
            (.fault fault)) ∧
        (∀ address page,
          ((⟨dialect, address⟩ : Preview).perform (.executeChange s visitors)).run page =
            (.error (.fault fault), page))) := by
  refine ⟨fun quiet => ?_, fun _ => Statement.expand_ok_iff, ?_, ?_⟩
  · cases he : s.expand dialect.name with
    | ok commands => exact ⟨commands, rfl⟩
    | error fault =>
      obtain ⟨place, found, -⟩ := Statement.expand_error_iff.mp he
      cases found.symm.trans (quiet place)
  · intro t commands quiet quiet' listed listed' visitors
    have same : s.expand dialect.name = t.expand dialect.name :=
      (Statement.expand_ok_iff.mpr ⟨quiet, listed⟩).trans
        (Statement.expand_ok_iff.mpr ⟨quiet', listed'⟩).symm
    refine ⟨Rendering.render_congr visitors same, fun connection w => ?_, fun address page => ?_⟩
    · rw [Runner.executeChange_congr visitors ⟨connection, dialect⟩ same]
    · rw [Preview.executeChange_congr visitors ⟨dialect, address⟩ same]
  · rintro ⟨place, faulty⟩
    cases he : s.expand dialect.name with
    | ok commands => exact absurd ((Statement.expand_ok_iff.mp he).1 place) faulty
    | error fault =>
      refine ⟨fault, Statement.expand_error_iff.mp he, fun visitors => ⟨?_, ?_⟩⟩
      · intro connection online
        exact Runner.executeChange_refuses_fault visitors online he
      · intro address page
        exact Preview.executeChange_of_error visitors he page

/-- Two commands, one of them in a change of a change, and a change that generates nothing. -/
theorem grouping_invisible_nested :
    let first := Statement.command (.raw "A" ";" false)
    let second := Statement.command (.raw "B" ";" false)
    let inner := Statement.change (.byDialect [("sqlite", [first])] none)
    let nested := Statement.change (.fixed [.change (.fixed [inner, .change .nothing]), second])
    let flat := Statement.change (.fixed [first, second])
    let execution (s : Statement) :=
      ((⟨.scripted "fake://db" false, .sqlite⟩ : Runner).perform (.executeChange s [])).run {}
    let commands := [Command.raw "A" ";" false, Command.raw "B" ";" false]
    (∀ place, nested.faultAt? "sqlite" place = none) ∧
      Lists (nested.commandAt? "sqlite") commands ∧ execution nested = execution flat := by
  intro first second inner nested flat execution commands
  obtain ⟨-, expands, same, -⟩ := grouping_invisible .sqlite nested
  obtain ⟨-, expands', -⟩ := grouping_invisible .sqlite flat
  obtain ⟨quiet, listed⟩ := (expands commands).mp rfl
  obtain ⟨quiet', listed'⟩ := (expands' commands).mp rfl
  exact ⟨quiet, listed, (same flat commands quiet quiet' listed listed' []).2.1 _ {}⟩

end SqlRunner
