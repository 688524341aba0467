import SqlRunner.Proofs.Rows

/-!
# Layers — how far a value of a row is unwrapped

A driver may wrap what it hands out: binary data may be growable or a view, and a large object is
read and gives a value that may be wrapped again, to any depth. `Datum.layers` counts the wrappings
and `Datum.core` takes off all of them. Unwrapping takes off one (`Datum.layers_of_extracted`). So
what is left is plain, and unwrapping it again changes nothing, exactly where there was one layer
at most; as many unwrappings as there are layers give the core.

A row of a result is unwrapped once, value by value, and of the values under one label the last is
kept. Its values are plain if and only if those it keeps had one layer at most
(`QueryResult.plain_iff_kept_shallow`).
-/

set_option autoImplicit false

namespace SqlRunner

/-! ## Values -/

namespace Datum

/-- How often a value is wrapped. A large object that cannot be read is wrapped once. -/
def layers : Datum → Nat
  | binary .growable _ | binary .view _ => 1
  | largeObject content => content.layers + 1
  | brokenObject _ => 1
  | _ => 0

/-- The value without its wrappings, if every large object among them can be read. -/
def core : Datum → Except Fault Datum
  | binary _ data => .ok (.binary .fixed data)
  | largeObject content => content.core
  | brokenObject message => .error (.driver message)
  | d => .ok d

/-- The value unwrapped some number of times. -/
def peeled : Nat → Datum → Except Fault Datum
  | 0, value => .ok value
  | n + 1, value => do (← value.extracted).peeled n

theorem isWrapped_iff (value : Datum) : value.isWrapped = true ↔ 0 < value.layers := by
  cases value with
  | binary kind data => cases kind <;> simp [isWrapped, layers]
  | _ => simp [isWrapped, layers]

/-- **Unwrapping takes off one layer.** -/
theorem layers_of_extracted {value given : Datum} (h : value.extracted = .ok given) :
    given.layers = value.layers - 1 := by
  cases value with
  | binary kind data =>
    cases h
    cases kind <;> rfl
  | largeObject content =>
    cases h
    rfl
  | brokenObject message => cases h
  | _ =>
    cases h
    rfl

/-- What is left is wrapped if there was more than one layer. -/
theorem isWrapped_of_extracted {value given : Datum} (h : value.extracted = .ok given) :
    given.isWrapped = true ↔ 1 < value.layers := by
  rw [isWrapped_iff, layers_of_extracted h]
  omega

/-- Plain values are left as they are. -/
theorem plain_of_layers_eq_zero {value : Datum} (h : value.layers = 0) :
    value.extracted = .ok value ∧ value.core = .ok value := by
  cases value with
  | binary kind data =>
    cases kind with
    | fixed => exact ⟨rfl, rfl⟩
    | growable => cases h
    | view => cases h
  | largeObject content => cases h
  | brokenObject message => cases h
  | _ => exact ⟨rfl, rfl⟩

/-- The core of a value is the core of what is left of it. -/
theorem core_eq_bind (value : Datum) : value.core = value.extracted >>= core := by
  cases value <;> rfl

/-- A value whose core can be had can be unwrapped. -/
theorem extracted_of_core {value plain : Datum} (h : value.core = .ok plain) :
    ∃ given, value.extracted = .ok given ∧ given.core = .ok plain :=
  of_bind_eq_ok ((core_eq_bind value).symm.trans h)

/-- **Unwrapped as often as it is wrapped, a value is down to its core.** -/
theorem peeled_eq_core {n : Nat} {value : Datum} (h : value.layers ≤ n) :
    value.peeled n = value.core := by
  induction n generalizing value with
  | zero => rw [peeled, (plain_of_layers_eq_zero (Nat.le_zero.mp h)).2]
  | succ n ih =>
    rw [peeled, core_eq_bind]
    cases hv : value.extracted with
    | error fault => rfl
    | ok given =>
      have fewer := layers_of_extracted hv
      exact ih (by omega)

/-- **Unwrapping is idempotent on one layer, and only there.** -/
theorem extracted_idempotent_iff (value : Datum) :
    (value.extracted >>= extracted) = value.extracted ↔ value.layers ≤ 1 := by
  cases hv : value.extracted with
  | error fault =>
    -- only a large object that cannot be read fails, and that is one layer
    refine ⟨fun _ => ?_, fun _ => rfl⟩
    cases value with
    | brokenObject message => exact Nat.le_refl 1
    | _ => cases hv
  | ok given =>
    have left := layers_of_extracted hv
    show given.extracted = .ok given ↔ _
    constructor
    · intro again
      have same := layers_of_extracted again
      omega
    · intro shallow
      exact (plain_of_layers_eq_zero (by omega)).1

end Datum

/-! ## Rows -/

theorem nodup_names_mapped (labels : List String) (row : List Datum) :
    (mapped labels row).names.Nodup :=
  @Entries.nodup_names_merge _ [] List.nodup_nil _

/-- **What a row keeps**: under every label of its columns the unwrapped value of the last of
    them. -/
theorem mem_mapped_iff {labels : List String} {row : List Datum} {label : String} {given : Datum} :
    (label, given) ∈ mapped labels row ↔
      ∃ value, LastUnder labels row label value ∧ given = value.plain := by
  constructor
  · intro mem
    have named : label ∈ (mapped labels row).names := List.mem_map_of_mem mem
    rw [names_mapped, List.mem_eraseDups] at named
    obtain ⟨value, last⟩ := exists_lastUnder named
    have found := (Entries.get?_eq_some_iff (nodup_names_mapped labels row)).mpr mem
    rw [get?_mapped_of_last last] at found
    exact ⟨value, last, (Option.some.inj found).symm⟩
  · rintro ⟨value, last, rfl⟩
    exact (Entries.get?_eq_some_iff (nodup_names_mapped labels row)).mp (get?_mapped_of_last last)

namespace QueryResult

/-- A result is there only if all that it needs could be read. -/
theorem readable_of_ofCursor {description : Option (List Datum)} {rows : List (List Datum)}
    {result : QueryResult} (h : ofCursor description rows = .ok result) :
    ∀ row ∈ rows, Readable (columnLabels description) row := by
  have none := faultOf?_ofCursor { columns := description, rows := rows }
  rw [h] at none
  intro row mem value here
  have unwraps := List.findSome?_eq_none_iff.mp none.symm (.unwrap value)
    (List.mem_flatMap.mpr ⟨row, mem, List.mem_map_of_mem (by simpa [columnLabels] using here)⟩)
  cases hv : value.extracted with
  | ok plain => exact ⟨plain, rfl⟩
  | error fault =>
    rw [Hurdle.failure?, hv] at unwraps
    cases unwraps

/-- **Where the rows of a result are plain**: where all that they keep had one layer at most. -/
theorem plain_iff_kept_shallow {description : Option (List Datum)} {rows : List (List Datum)}
    {result : QueryResult} (h : ofCursor description rows = .ok result) :
    (∀ fields ∈ result.rows, ∀ e ∈ fields, e.2.isWrapped = false) ↔
      ∀ row ∈ rows, ∀ label value, LastUnder (columnLabels description) row label value →
        value.layers ≤ 1 := by
  have readable := readable_of_ofCursor h
  obtain rfl := Except.ok.inj ((ofCursor_eq_ofMapped readable).symm.trans h)
  have shallow {row : List Datum} (mem : row ∈ rows) {label : String} {value : Datum}
      (last : LastUnder (columnLabels description) row label value) :
      value.plain.isWrapped = false ↔ value.layers ≤ 1 := by
    obtain ⟨plain, extracted⟩ := last.extracted (readable row mem)
    rw [Datum.plain_of_extracted extracted, ← Bool.not_eq_true,
      Datum.isWrapped_of_extracted extracted, Nat.not_lt]
  constructor
  · intro plain row mem label value last
    have kept : (label, value.plain) ∈ mapped (columnLabels description) row :=
      mem_mapped_iff.mpr ⟨value, last, rfl⟩
    exact (shallow mem last).mp (plain _ (List.mem_map_of_mem mem) _ kept)
  · intro layers fields given e mem
    obtain ⟨row, here, rfl⟩ := List.mem_map.mp given
    obtain ⟨value, last, same⟩ := mem_mapped_iff.mp mem
    rw [same]
    exact (shallow here last).mpr (layers row here e.1 value last)

/-- **Values are unwrapped once.** A value whose core can be had can be unwrapped, and what that
    gives is plain, and the core, if there was one layer at most, and still wrapped if there were
    more. Unwrapping it again changes nothing under the same condition, and unwrapping it as often
    as it has layers gives the core. The rows of a result are plain if and only if everything that
    they keep, which is the last value under each label, had one layer at most. -/
theorem unwrapped_once (value : Datum) (description : Option (List Datum))
    (rows : List (List Datum)) :
    (∀ core, value.core = .ok core →
      ∃ given, value.extracted = .ok given ∧
        (given.isWrapped = false ↔ value.layers ≤ 1) ∧ (value.layers ≤ 1 → given = core)) ∧
    ((value.extracted >>= Datum.extracted) = value.extracted ↔ value.layers ≤ 1) ∧
    (∀ n, value.layers ≤ n → value.peeled n = value.core) ∧
    ∀ result, ofCursor description rows = .ok result →
      ((∀ fields ∈ result.rows, ∀ e ∈ fields, e.2.isWrapped = false) ↔
        ∀ row ∈ rows, ∀ label value, LastUnder (columnLabels description) row label value →
          value.layers ≤ 1) := by
  refine ⟨fun core read => ?_, value.extracted_idempotent_iff, fun n => Datum.peeled_eq_core,
    fun result => plain_iff_kept_shallow⟩
  obtain ⟨given, extracted, rest⟩ := Datum.extracted_of_core read
  refine ⟨given, extracted, ?_, fun shallow => ?_⟩
  · rw [← Bool.not_eq_true, Datum.isWrapped_of_extracted extracted, Nat.not_lt]
  · have none : given.layers = 0 := by
      rw [Datum.layers_of_extracted extracted]
      omega
    exact Except.ok.inj ((Datum.plain_of_layers_eq_zero none).2.symm.trans rest)

/-- A large object that gives a text. And of a row whose first value has two layers, and whose
    second is written over it, nothing is kept that has more than one. -/
theorem unwrapped_once_clob :
    let row := [Datum.largeObject (.binary .view [1]), .binary .view [2]]
    (∃ given, (Datum.largeObject (.text "clob")).extracted = .ok given ∧
      given.isWrapped = false ∧ given = .text "clob") ∧
    ∀ label value, LastUnder (columnLabels (some [.text "A", .text "A"])) row label value →
      value.layers ≤ 1 := by
  intro row
  have labels : columnLabels (some [.text "A", .text "A"]) = ["A", "A"] := by decide +kernel
  obtain ⟨cored, -, -, kept⟩ :=
    unwrapped_once (.largeObject (.text "clob")) (some [.text "A", .text "A"]) [row]
  constructor
  · obtain ⟨given, extracted, plain, core⟩ := cored (.text "clob") rfl
    exact ⟨given, extracted, plain.mpr (Nat.le_refl 1), core (Nat.le_refl 1)⟩
  · have read : ofCursor (some [.text "A", .text "A"]) [row] =
        .ok ⟨[[("A", .binary .fixed [2])]], ["A", "A"]⟩ := by
      rw [ofCursor, labels]
      rfl
    exact (kept _ read).mp (by simp [Datum.isWrapped]) row List.mem_cons_self

/-- A large object that gives a view leaves a view, and a second unwrapping would change that. -/
theorem unwrapped_once_leaves_view :
    (Datum.largeObject (.binary .view [0, 255])).core = .ok (.binary .fixed [0, 255]) ∧
      (Datum.largeObject (.binary .view [0, 255])).extracted = .ok (.binary .view [0, 255]) ∧
      (Datum.binary .view [0, 255]).isWrapped = true ∧
      (Datum.binary .view [0, 255]).extracted ≠ .ok (.binary .view [0, 255]) :=
  ⟨rfl, rfl, rfl, nofun⟩

end QueryResult

/-- The rows that a query answers with are those of its cursor, so they are plain under the same
    condition. -/
theorem Runner.query_plain_iff (r : Runner) (w : World) {statement : Statement}
    {visitors : List Visitor} {result : QueryResult}
    (given : ((r.perform (.query statement visitors)).run w).1 = .ok (.rows result)) :
    (∀ fields ∈ result.rows, ∀ e ∈ fields, e.2.isWrapped = false) ↔
      ∀ row ∈ w.behavior.rows, ∀ label value,
        LastUnder (columnLabels w.behavior.columns) row label value → value.layers ≤ 1 := by
  refine QueryResult.plain_iff_kept_shallow ?_
  rw [Session.run_eq, perform, Session.account_bind] at given
  cases ho : ((r.query statement visitors).account w.behavior).outcome with
  | error failure =>
    rw [Account.bind_of_error ho] at given
    cases given
  | ok answer =>
    rw [Account.bind_of_ok ho, Session.account_pure] at given
    cases given
    have reading := r.query_reads statement visitors w.behavior result ho
    rw [Cursor.reading] at reading
    split at reading
    · cases reading
    · exact of_mapError_eq_ok reading

end SqlRunner
