import SqlRunner.Proofs.PreviewAgreement
import SqlRunner.Proofs.Spelling

/-!
# Escape modes — under which mode a string is run

A driver reads escapes in the SQL it is given unless a handle is told not to. The runner turns that
off for a string that holds the marker of the dialect, and it never turns it on again. A handle is
new for every leaf of a statement and comes with the mode on, so leaves cannot disturb each other;
but the strings of one leaf share their handle, and once one of them has turned the mode off it is
off for all that follow.

`runsUnder` reads the mode of each string off a journal. What it reads of an execution is
`Leaf.modes`; what each string would have been run under by itself is `Leaf.modesAlone`. The two are
the same exactly if no string with a marker is followed by one without (`execute_modes`).
-/

set_option autoImplicit false

namespace SqlRunner

variable {α : Type} {shape : Shape}

/-! ## Reading modes off a journal -/

/-- The escape mode behind a call. A new handle comes with the mode on. -/
def Entry.modeAfter (mode : Bool) : Entry → Bool
  | .created | .prepared _ | .preparedCall _ | .cursorOpened => true
  | .escapes enabled | .cursorEscapes enabled => enabled
  | _ => mode

/-- The strings that were run, each with the mode it was run under. -/
def runsUnder (mode : Bool) : List Entry → List (String × Bool)
  | [] => []
  | e :: rest =>
    match e.executed? with
    | some sql => (sql, mode) :: runsUnder (e.modeAfter mode) rest
    | none => runsUnder (e.modeAfter mode) rest

/-- One journal behind another starts under the mode that the first leaves. -/
theorem runsUnder_append (mode : Bool) (first second : List Entry) :
    runsUnder mode (first ++ second) =
      runsUnder mode first ++ runsUnder (first.foldl Entry.modeAfter mode) second := by
  induction first generalizing mode with
  | nil => rfl
  | cons e rest ih =>
    rw [List.cons_append, runsUnder, runsUnder, List.foldl_cons, ih]
    cases e.executed? with
    | none => rfl
    | some sql => rfl

/-! ## Modes that stay off -/

namespace Runner

variable (r : Runner)

/-- Strings run one after another from a mode that is turned off, and never on. -/
def sticky : Bool → List String → List (String × Bool)
  | _, [] => []
  | mode, sql :: rest =>
    let now := mode && !r.holdsMarker sql
    (sql, now) :: sticky now rest

/-- The mode of a string is off if it was off before, or if the string or one before it holds a
    marker. -/
theorem sticky_eq_mapIdx (mode : Bool) (strings : List String) :
    r.sticky mode strings = strings.mapIdx fun k sql =>
      (sql, mode && !(strings.take (k + 1)).any r.holdsMarker) := by
  induction strings generalizing mode with
  | nil => rfl
  | cons sql rest ih =>
    simp only [sticky, List.mapIdx_cons, ih, List.take_succ_cons, List.any_cons, List.take_zero,
      List.any_nil, Bool.not_false, Bool.and_true, Bool.not_or, Bool.and_assoc]

/-- Strings run from a mode that stays off have the modes of their own exactly if none with a marker
    comes before one without, and all of them hold a marker where the mode was off from the start. -/
theorem sticky_eq_map_iff (mode : Bool) (strings : List String) :
    r.sticky mode strings = strings.map (fun sql => (sql, !r.holdsMarker sql)) ↔
      (mode = false → ∀ sql ∈ strings, r.holdsMarker sql = true) ∧
        strings.Pairwise fun earlier later =>
          r.holdsMarker earlier = true → r.holdsMarker later = true := by
  induction strings generalizing mode with
  | nil => simp [sticky]
  | cons sql rest ih =>
    rw [sticky, List.map_cons, List.cons.injEq, ih, List.pairwise_cons, List.forall_mem_cons,
      Prod.mk.injEq]
    cases mode <;> cases r.holdsMarker sql <;> simp

end Runner

/-! ## What is expected of a statement -/

/-- A connection whose driver knows the escape mode, and can write any template. -/
def Connection.Switches (b : Behavior) : Connection → Prop
  | scripted _ withoutDatabase => withoutDatabase = false
  | adapted _ style => b.takesEscapes = true ∧ ∀ name, style ≠ .other name
  | offline _ => False

/-- A template as it reaches the driver. -/
def Connection.spelled (sql : String) : Connection → String
  | adapted _ style =>
    match Marker.respell sql style with
    | .ok text => text
    | .error _ => sql
  | scripted _ _ | offline _ => sql

namespace Leaf

variable (r : Runner)

/-- The strings of a leaf with the modes they are run under. A template has a handle of its own that
    is not switched; in a text, a marker turns the mode off for its string and for all that
    follow. -/
def modes : Leaf → List (String × Bool)
  | template sql _ => [(r.connection.spelled sql, true)]
  | text strings => strings.mapIdx fun k sql =>
      (sql, !(strings.take (k + 1)).any r.holdsMarker)

/-- The strings of a leaf with the modes they would be run under if each were executed alone. -/
def modesAlone : Leaf → List (String × Bool)
  | template sql parameters => (template sql parameters).modes r
  | text strings => strings.flatMap fun sql => (text [sql]).modes r

/-- No string with a marker comes before one without. -/
def MarkersLast : Leaf → Prop
  | template _ _ => True
  | text strings => strings.Pairwise fun earlier later =>
      r.holdsMarker earlier = true → r.holdsMarker later = true

variable {r}

theorem modes_text (strings : List String) : (text strings).modes r = r.sticky true strings := by
  rw [modes, Runner.sticky_eq_mapIdx]
  rfl

/-- Alone, the mode is off exactly for the strings with a marker. -/
theorem modesAlone_text (strings : List String) :
    (text strings).modesAlone r = strings.map fun sql => (sql, !r.holdsMarker sql) := by
  rw [modesAlone, List.map_eq_flatMap]
  refine congrArg strings.flatMap (funext fun sql => ?_)
  rw [modes_text]
  rfl

theorem modes_eq_modesAlone_iff (leaf : Leaf) :
    leaf.modes r = leaf.modesAlone r ↔ leaf.MarkersLast r := by
  cases leaf with
  | template sql parameters => exact ⟨fun _ => trivial, fun _ => rfl⟩
  | text strings =>
    rw [modes_text, modesAlone_text, Runner.sticky_eq_map_iff]
    simp [MarkersLast]

theorem length_modes (leaf : Leaf) : (leaf.modes r).length = (leaf.modesAlone r).length := by
  cases leaf with
  | template sql parameters => rfl
  | text strings => rw [modesAlone_text, modes, List.length_mapIdx, List.length_map]

/-- Leaves are run under the modes of their strings alone exactly if each of them is. -/
theorem flatMap_modes_iff (leaves : List Leaf) :
    leaves.flatMap (modes r) = leaves.flatMap (modesAlone r) ↔
      ∀ leaf ∈ leaves, leaf.MarkersLast r := by
  induction leaves with
  | nil => simp
  | cons leaf rest ih =>
    rw [List.flatMap_cons, List.flatMap_cons, List.forall_mem_cons, ← ih,
      ← modes_eq_modesAlone_iff]
    constructor
    · intro both
      -- the two readings of a leaf are equally long, so equal lists are equal leaf by leaf
      exact List.append_inj both leaf.length_modes
    · rintro ⟨first, others⟩
      rw [first, others]

end Leaf

/-! ## Accounts of executions -/

/-- The account of a step that is not stopped, and whose strings are run under these modes whatever
    the mode was before. -/
structure Account.RunsUnder (modes : List (String × Bool)) (a : Account Unit) : Prop where
  answered : a.outcome = .ok ()
  read : ∀ mode, runsUnder mode a.entries = modes

theorem Account.RunsUnder.bind {first : Account Unit} {next : Unit → Account Unit}
    {modes others : List (String × Bool)} (hf : first.RunsUnder modes)
    (hn : (next ()).RunsUnder others) : (first.bind next).RunsUnder (modes ++ others) := by
  rw [Account.bind_of_ok hf.answered]
  refine ⟨hn.answered, fun mode => ?_⟩
  rw [runsUnder_append, hf.read, hn.read]

/-- Closing runs nothing. -/
theorem Handle.runsUnder_closing (mode : Bool) (h : Handle shape) :
    runsUnder mode h.closing = [] := by
  unfold Handle.closing
  split <;> rfl

namespace Runner

variable {r : Runner} {b : Behavior} {visitors : List Visitor}

/-- **A bracket starts from a new handle**, and so with the mode on. -/
theorem withHandle_runsUnder {acquire : Session (Handle shape)} {strings : List String}
    {operation : String} {action : HandleStep shape Unit} [acquire.Local] [action.Local]
    {handle : Handle shape} {modes : List (String × Bool)} (opening : Entry)
    (acquired : acquire.account b = ⟨.ok handle, [opening], []⟩)
    (fresh : ∀ mode rest, runsUnder mode (opening :: rest) = runsUnder true rest)
    (answered : (action.stint handle b).outcome = .ok ())
    (read : runsUnder true (action.stint handle b).entries = modes) :
    ((r.withHandle acquire strings operation action).account b).RunsUnder modes := by
  rw [withHandle_account, acquired]
  refine ⟨congrArg (Except.mapError _) answered, fun mode => ?_⟩
  show runsUnder mode (opening :: (_ ++ (action.stint handle b).handle.closing)) = modes
  rw [fresh, runsUnder_append, read, Handle.runsUnder_closing, List.append_nil]

/-- **One string after another**: the mode is turned off for a string with a marker, and otherwise
    left as the strings before left it. -/
theorem runEach_runsUnder (never : b.NeverRefuses) (strings : List String) (h : Handle .plain)
    (tells : ∀ mode rest, runsUnder mode (h.backing.escapes false b ++ rest) = runsUnder false rest)
    (mode : Bool) :
    ((r.runEach strings).stint h b).outcome = .ok () ∧
      runsUnder mode ((r.runEach strings).stint h b).entries = r.sticky mode strings := by
  induction strings generalizing h mode with
  | nil =>
    rw [runEach, HandleStep.stint_pure]
    exact ⟨rfl, rfl⟩
  | cons sql rest ih =>
    have ran (left : Handle .plain) (same : left.backing = h.backing) (now : Bool) :
        let stint := (Handle.execute sql >>= fun _ => r.runEach rest).stint left b
        stint.outcome = .ok () ∧ runsUnder now stint.entries = (sql, now) :: r.sticky now rest := by
      obtain ⟨answered, read⟩ := ih left (same ▸ tells) now
      rw [HandleStep.stint_bind, Handle.execute_stint, never.refusal?_eq_none, Handle.request,
        Account.request_none, Stint.ok_bind]
      refine ⟨answered, ?_⟩
      rw [← read]
      cases left.backing <;> rfl
    rw [runEach, HandleStep.stint_bind, HandleStep.stint_lift, announce_account, Stint.ok_bind,
      sticky]
    cases r.holdsMarker sql with
    | false =>
      have read := ran h rfl mode
      rwa [Bool.not_false, Bool.and_true]
    | true =>
      rw [Bool.not_true, Bool.and_false]
      obtain ⟨answered, read⟩ := ran { h with escapeProcessing := false } rfl false
      show (HandleStep.stint (Handle.setEscapeProcessing false >>= fun _ => _) h b).outcome = _ ∧
        runsUnder mode (HandleStep.stint (Handle.setEscapeProcessing false >>= fun _ => _) h
          b).entries = _
      rw [HandleStep.stint_bind, Handle.setEscapeProcessing_stint, Handle.request,
        Account.request_none, Stint.ok_bind]
      exact ⟨answered, (tells mode _).trans read⟩

theorem executeText_runsUnder (switches : r.connection.Switches b) (never : b.NeverRefuses)
    (strings : List String) :
    ((r.withHandle r.connection.createStatement strings "execute"
      (r.runEach strings)).account b).RunsUnder ((Leaf.text strings).modes r) := by
  rw [Leaf.modes_text]
  cases hc : r.connection with
  | scripted url hidden =>
    obtain ⟨answered, read⟩ := runEach_runsUnder (r := r) never strings { backing := .scripted }
      (fun _ _ => rfl) true
    refine withHandle_runsUnder .created ?_ (fun _ _ => rfl) answered read
    rw [Connection.createStatement, Connection.openScripted_account, never.acquireFailure?_eq_none,
      Account.request_none]
  | adapted url style =>
    rw [hc] at switches
    obtain ⟨answered, read⟩ := runEach_runsUnder (r := r) never strings
      { backing := .cursor style b.rowCount }
      (fun _ _ => by rw [Backing.escapes, if_pos switches.1]; rfl) true
    refine withHandle_runsUnder .cursorOpened ?_ (fun _ _ => rfl) answered read
    rw [Connection.createStatement_adapted, never.acquireFailure?_eq_none, Account.request_none]
  | offline url =>
    rw [hc] at switches
    cases switches

/-- A template is bound and run as it is spelled, and its handle is not switched. -/
theorem boundTemplate_runsUnder (never : b.NeverRefuses) (parameters : List Datum)
    (h : Handle .prepared) :
    let stint := (Handle.bind parameters >>= fun _ => Handle.executePrepared).stint h b
    stint.outcome = .ok () ∧ runsUnder true stint.entries = [(h.sql, true)] := by
  rw [HandleStep.stint_bind, Handle.bind_stint, never.bindFailure?_eq_none, Handle.request,
    Account.request_none, Stint.ok_bind, Handle.executePrepared_stint, never.refusal?_eq_none]
  refine ⟨rfl, ?_⟩
  cases hb : h.backing <;> rfl

theorem executePrepared_runsUnder (switches : r.connection.Switches b) (never : b.NeverRefuses)
    (sql : String) (parameters : List Datum) :
    ((r.executePrepared sql parameters).account b).RunsUnder
      ((Leaf.template sql parameters).modes r) := by
  have bracket : ((r.withHandle (r.connection.prepareStatement sql) [sql] "execute" (do
      Handle.bind parameters
      Handle.executePrepared)).account b).RunsUnder [(r.connection.spelled sql, true)] := by
    cases hc : r.connection with
    | scripted url hidden =>
      obtain ⟨answered, read⟩ := boundTemplate_runsUnder never parameters
        { backing := .scripted, sql := sql }
      refine withHandle_runsUnder (.prepared sql) ?_ (fun _ _ => rfl) answered read
      rw [Connection.prepareStatement, Connection.openScripted_account,
        never.acquireFailure?_eq_none, Account.request_none]
    | adapted url style =>
      rw [hc] at switches
      have spells : style.spells sql = true := by
        cases style with
        | other name => exact absurd rfl (switches.2 name)
        | _ => rfl
      obtain ⟨text, respelled⟩ := Marker.respell_of_spells spells
      obtain ⟨answered, read⟩ := boundTemplate_runsUnder never parameters
        { backing := .cursor style b.rowCount, sql := text }
      rw [Connection.spelled, respelled]
      refine withHandle_runsUnder .cursorOpened ?_ (fun _ _ => rfl) answered read
      rw [Connection.prepareStatement_respelled url respelled, never.acquireFailure?_eq_none,
        Account.request_none]
    | offline url =>
      rw [hc] at switches
      cases switches
  unfold executePrepared
  rw [Session.account_bind, announce_account, Account.noting_bind]
  exact ⟨bracket.answered, bracket.read⟩

theorem offlineFailure?_of_switches (switches : r.connection.Switches b) :
    r.offlineFailure? = none := by
  refine offlineFailure?_of_online ?_
  cases hc : r.connection with
  | scripted url hidden =>
    rw [hc] at switches
    exact switches
  | adapted url style => rfl
  | offline url =>
    rw [hc] at switches
    cases switches

/-- **Every leaf is run under its own modes.** -/
theorem executeCommand_runsUnder (switches : r.connection.Switches b) (never : b.NeverRefuses)
    {command : Command} {leaf : Leaf} (h : Leaf.ofCommand r.dialect visitors command = .ok leaf) :
    ((r.executeCommand visitors command).account b).RunsUnder (leaf.modes r) := by
  have online := r.ensureOnline_account b
  rw [offlineFailure?_of_switches switches, Account.request_none] at online
  unfold executeCommand
  rw [Session.account_bind_of_answer _ online]
  cases command with
  | prepared sql parameters =>
    cases h
    exact executePrepared_runsUnder switches never sql parameters
  | _ =>
    unfold Leaf.ofCommand at h
    obtain ⟨strings, hr, rfl⟩ := of_map_eq_ok h
    dsimp only
    rw [Session.account_bind_of_answer _ (r.render_account_of_ok hr b)]
    exact executeText_runsUnder switches never strings

/-- The induction over leaves: each begins with a handle of its own. -/
theorem executeAll_runsUnder (switches : r.connection.Switches b) (never : b.NeverRefuses)
    {commands : List Command} {leaves : List Leaf}
    (h : Leaf.ofCommands r.dialect visitors commands = .ok leaves) :
    ((r.executeAll visitors commands).account b).RunsUnder (leaves.flatMap (Leaf.modes r)) := by
  induction commands generalizing leaves with
  | nil =>
    cases h
    rw [executeAll, Session.account_pure]
    exact ⟨rfl, fun _ => rfl⟩
  | cons command rest ih =>
    obtain ⟨leaf, hl, tail⟩ := of_bind_eq_ok h
    obtain ⟨others, ho, answer⟩ := of_bind_eq_ok tail
    cases answer
    rw [executeAll, Session.account_bind, List.flatMap_cons]
    exact (executeCommand_runsUnder switches never hl).bind (ih ho)

/-- **Under which mode each string of an execution is run.** Over a connection that nothing stops
    and whose driver knows the escape mode, the execution of a statement that can be expanded and
    rendered ends well. A template is run with the mode on. Any other string is run with the mode
    off if it, or a string before it in its leaf, holds the marker of the dialect, and otherwise
    with the mode on. This is the mode the string would be run under if it were executed alone,
    for every string, exactly if in no leaf a string with a marker comes before one without. -/
theorem execute_modes (r : Runner) (statement : Statement) (visitors : List Visitor)
    (leaves : List Leaf) (w : World) (switches : r.connection.Switches w.behavior)
    (never : w.behavior.NeverRefuses) (h : statement.plan r.dialect visitors = .ok leaves) :
    let execution := (r.execute statement visitors).run w
    ∃ log, execution.1 = .ok () ∧ execution.2.journal = w.journal ++ log ∧
      runsUnder true log = leaves.flatMap (Leaf.modes r) ∧
      (runsUnder true log = leaves.flatMap (Leaf.modesAlone r) ↔
        ∀ leaf ∈ leaves, leaf.MarkersLast r) := by
  obtain ⟨commands, expanded, planned⟩ := of_bind_eq_ok h
  have account := execute_account (offlineFailure?_of_switches switches) visitors expanded
    w.behavior
  obtain ⟨answered, read⟩ := executeAll_runsUnder switches never planned
  rw [← account] at answered read
  dsimp only
  rw [Session.run_eq]
  refine ⟨_, answered, rfl, read true, ?_⟩
  rw [read true]
  exact Leaf.flatMap_modes_iff leaves

/-- A marker in the first of two strings. -/
theorem execute_modes_two :
    let r := overScript "fake://db" .sqlite
    let statement := Statement.command (.raw "UPDATE t SET a = '?';\nDELETE FROM t;" ";" true)
    let leaves := [Leaf.text ["UPDATE t SET a = '?'", "DELETE FROM t"]]
    let execution := (r.execute statement []).run {}
    r.connection.Switches {} ∧ Behavior.NeverRefuses {} ∧
      statement.plan .sqlite [] = .ok leaves ∧
      ∃ log, execution.1 = .ok () ∧ execution.2.journal = ({} : World).journal ++ log ∧
        runsUnder true log = leaves.flatMap (Leaf.modes r) := by
  intro r statement leaves execution
  have switches : r.connection.Switches {} := rfl
  have never : Behavior.NeverRefuses {} := ⟨rfl, rfl, rfl⟩
  have planned : statement.plan .sqlite [] = .ok leaves := rfl
  obtain ⟨log, answered, journal, read, -⟩ :=
    execute_modes r statement [] leaves {} switches never planned
  exact ⟨switches, never, planned, log, answered, journal, read⟩

/-- **A mode that is left off.** A string without a marker is run with the mode off behind one with
    a marker, and with the mode on where it is executed alone. -/
theorem execute_leaves_mode_off :
    let modes (statement : Statement) := runsUnder true
      (((overScript "fake://db" .sqlite).execute statement []).run {}).2.journal
    modes (.command (.raw "UPDATE t SET a = '?';\nDELETE FROM t;" ";" true)) =
        [("UPDATE t SET a = '?'", false), ("DELETE FROM t", false)] ∧
      modes (.command (.raw "DELETE FROM t" ";" false)) = [("DELETE FROM t", true)] := by
  decide +kernel

end Runner

end SqlRunner
