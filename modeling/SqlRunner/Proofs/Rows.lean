import Mathlib.Data.Nat.Find
import SqlRunner.Operation
import SqlRunner.Proofs.LastWrites
import SqlRunner.Proofs.Translation

/-!
# Rows — what a query answers with

A row is mapped by writing its values one after another under the labels of their columns. Writing a
name again keeps its place and changes its value, so the names of a row are the labels in the order
in which they first occur (`Entries.names_merge`), and the value under a name is the one that was
written last (`Entries.get?_merge`). A row that is shorter than the description, or longer,
is mapped as far as the two go together.

A query that is answered is answered with the rows of its cursor and nothing else, whichever handle
they came from: that is `Account.Reads`, which every step before the reading passes on. Whether it
is answered is known from its hurdles.

The first value of a result is the odd one out. It is meant to be the first column of the first row,
but it is looked up by the label of that column, and so it is the last column with the label
(`QueryResult.scalar_takes_later_column`).
-/

set_option autoImplicit false

namespace SqlRunner

/-! ## Rows -/

/-- A value unwrapped, where that can be done. -/
def Datum.plain (value : Datum) : Datum := value.extracted.toOption.getD value

theorem Datum.plain_of_extracted {value plain : Datum} (h : value.extracted = .ok plain) :
    value.plain = plain := by
  rw [Datum.plain, h]
  rfl

/-- A row under labels, its values unwrapped. -/
def mapped (labels : List String) (row : List Datum) : Fields :=
  Entries.merge [] (labels.zip (row.map Datum.plain))

/-- As many values of a row can be read as there are labels. -/
def Readable (labels : List String) (row : List Datum) : Prop :=
  ∀ value ∈ row.take labels.length, ∃ plain, value.extracted = .ok plain

/-- Values that can be read are written under their labels, from whatever fields on. -/
theorem foldlM_put {labels : List String} {row : List Datum} (h : Readable labels row)
    (fields : Fields) :
    (labels.zip row).foldlM (fun fields (label, value) => do
      return fields.put label (← value.extracted)) fields =
        (.ok (fields.merge (labels.zip (row.map Datum.plain))) : Except Fault Fields) := by
  induction labels generalizing row fields with
  | nil => rfl
  | cons label rest ih =>
    cases row with
    | nil => rfl
    | cons value others =>
      obtain ⟨plain, extracted⟩ := h value List.mem_cons_self
      have later : Readable rest others := fun v mem => h v (List.mem_cons_of_mem value mem)
      rw [List.zip_cons_cons, List.foldlM_cons, List.map_cons, List.zip_cons_cons,
        Entries.merge_cons, ← ih later, Datum.plain_of_extracted extracted]
      dsimp only
      rw [extracted]
      rfl

theorem mapRow_eq_mapped {labels : List String} {row : List Datum} (h : Readable labels row) :
    mapRow labels row = .ok (mapped labels row) :=
  foldlM_put h []

theorem map_fst_zip_take {α β : Type} (first : List α) (second : List β) :
    (first.zip second).map Prod.fst = first.take second.length := by
  induction first generalizing second with
  | nil => simp
  | cons a rest ih =>
    cases second with
    | nil => rfl
    | cons b others =>
      rw [List.zip_cons_cons, List.map_cons, ih]
      rfl

theorem getElem?_of_take {α : Type} {l : List α} {n j : Nat} {a : α}
    (h : (l.take n)[j]? = some a) : j < n ∧ l[j]? = some a := by
  rw [List.getElem?_take] at h
  split at h
  case isTrue within => exact ⟨within, h⟩
  case isFalse => cases h

/-- **The names of a row** are the labels of as many columns as it has values, each of them once, in
    the order in which they first occur. -/
theorem names_mapped (labels : List String) (row : List Datum) :
    (mapped labels row).names = (labels.take row.length).eraseDups := by
  rw [mapped, Entries.names_merge, map_fst_zip_take, List.length_map]
  refine congrArg List.eraseDups (List.filter_eq_self.mpr fun name _ => ?_)
  exact decide_eq_true (List.not_mem_nil)

/-- The value that a row has in the last of its columns with a label. -/
def LastUnder (labels : List String) (row : List Datum) (label : String) (value : Datum) : Prop :=
  ∃ j, labels[j]? = some label ∧ row[j]? = some value ∧
    ∀ k, j < k → k < row.length → labels[k]? ≠ some label

/-- A label that one of the row's columns has is the label of a last one. -/
theorem exists_lastUnder {labels : List String} {row : List Datum} {label : String}
    (h : label ∈ labels.take row.length) : ∃ value, LastUnder labels row label value := by
  obtain ⟨i, found⟩ := List.mem_iff_getElem?.mp h
  obtain ⟨within, named⟩ := getElem?_of_take found
  have below : i ≤ row.length - 1 := by omega
  let j := Nat.findGreatest (fun k => labels[k]? = some label) (row.length - 1)
  have bound : j < row.length := by
    have := Nat.findGreatest_le (P := fun k => labels[k]? = some label) (row.length - 1)
    omega
  have last : labels[j]? = some label :=
    Nat.findGreatest_spec (P := fun k => labels[k]? = some label) below named
  refine ⟨row[j], j, last, List.getElem?_eq_getElem bound, fun k after within' => ?_⟩
  exact Nat.findGreatest_is_greatest after (by omega)

/-- The first column, where its label is not used again. -/
theorem LastUnder.head {further : List String} {row : List Datum} {label : String} {value : Datum}
    (h : LastUnder (label :: further) row label value) (once : label ∉ further) :
    row.head? = some value := by
  obtain ⟨j, named, valued, -⟩ := h
  cases j with
  | zero => rw [List.head?_eq_getElem?, valued]
  | succ j =>
    rw [List.getElem?_cons_succ] at named
    exact absurd (List.mem_of_getElem? named) once

/-- A value in a column can be read. -/
theorem LastUnder.extracted {labels : List String} {row : List Datum} {label : String}
    {value : Datum} (h : LastUnder labels row label value) (readable : Readable labels row) :
    ∃ plain, value.extracted = .ok plain := by
  obtain ⟨j, named, valued, -⟩ := h
  obtain ⟨within, -⟩ := List.getElem?_eq_some_iff.mp named
  refine readable value (List.mem_of_getElem? (i := j) ?_)
  rw [List.getElem?_take, if_pos within, valued]

/-- **The value under a label** is that of the last column with it. -/
theorem get?_mapped_of_last {labels : List String} {row : List Datum} {label : String}
    {value : Datum} (h : LastUnder labels row label value) :
    (mapped labels row).get? label = some value.plain := by
  obtain ⟨j, named, valued, last⟩ := h
  have entry : (labels.zip (row.map Datum.plain))[j]? = some (label, value.plain) :=
    List.getElem?_zip_eq_some.mpr ⟨named, by rw [List.getElem?_map, valued]; rfl⟩
  obtain ⟨bound, found⟩ := List.getElem?_eq_some_iff.mp entry
  rw [mapped, ← List.take_append_drop j (labels.zip _), List.drop_eq_getElem_cons bound, found]
  refine Entries.get?_merge_append [] _ _ fun mem => ?_
  rw [List.map_drop, map_fst_zip_take, List.length_map] at mem
  obtain ⟨k, later⟩ := List.mem_iff_getElem?.mp mem
  rw [List.getElem?_drop] at later
  obtain ⟨within, again⟩ := getElem?_of_take later
  exact last (j + 1 + k) (by omega) within again

/-- There is nothing under a label that none of the row's columns has. -/
theorem get?_mapped_of_absent {labels : List String} {row : List Datum} {label : String}
    (h : ∀ j < row.length, labels[j]? ≠ some label) : (mapped labels row).get? label = none := by
  refine (Entries.get?_merge_of_notMem [] fun mem => ?_).trans rfl
  rw [map_fst_zip_take, List.length_map] at mem
  obtain ⟨j, found⟩ := List.mem_iff_getElem?.mp mem
  obtain ⟨within, found⟩ := getElem?_of_take found
  exact h j within found

namespace QueryResult

theorem mapRows_eq_mapped {labels : List String} {rows : List (List Datum)}
    (h : ∀ row ∈ rows, Readable labels row) :
    mapRows labels rows = .ok (rows.map (mapped labels)) := by
  induction rows with
  | nil => rfl
  | cons row rest ih =>
    obtain ⟨here, later⟩ := List.forall_mem_cons.mp h
    rw [mapRows, mapRow_eq_mapped here, ih later]
    rfl

/-- The rows under their description. -/
def ofMapped (description : Option (List Datum)) (rows : List (List Datum)) : QueryResult :=
  ⟨rows.map (mapped (columnLabels description)), columnLabels description⟩

theorem ofCursor_eq_ofMapped {description : Option (List Datum)} {rows : List (List Datum)}
    (h : ∀ row ∈ rows, Readable (columnLabels description) row) :
    ofCursor description rows = .ok (ofMapped description rows) := by
  rw [ofCursor, mapRows_eq_mapped h]
  rfl

theorem column_ofMapped {description : Option (List Datum)} {rows : List (List Datum)} {i : Nat}
    {row : List Datum} (h : rows[i]? = some row) (name : String) :
    ((ofMapped description rows).column name)[i]? =
      some (((mapped (columnLabels description) row).get? (Text.upper name)).getD .null) := by
  rw [column, ofMapped, List.getElem?_map, List.getElem?_map, h]
  rfl

/-! ## The first value -/

theorem scalar_cons (fields : Fields) (others : List Fields) (label : String)
    (further : List String) : scalar ⟨fields :: others, label :: further⟩ =
      match fields.get? label with
      | some value => .ok value
      | none => .error (.missingColumn label) := rfl

/-- **The first value of a result.** Take any description of columns and rows of any lengths whose
    values can be read. The result has a first value, which is nothing if there are no rows or no
    columns. Otherwise it is the unwrapped value of the last column of the first row with the label
    of the first column, and that is the first column itself if its label occurs once. A first row
    without values has none to give. -/
theorem scalar_ofCursor {description : Option (List Datum)} {rows : List (List Datum)}
    (readable : ∀ row ∈ rows, Readable (columnLabels description) row) :
    ∃ result, ofCursor description rows = .ok result ∧
      (rows = [] ∨ columnLabels description = [] → result.scalar = .ok .null) ∧
      ∀ first others label further, rows = first :: others →
        columnLabels description = label :: further →
          (first = [] → result.scalar = .error (.missingColumn label)) ∧
          (first ≠ [] → ∃ value, LastUnder (columnLabels description) first label value ∧
            result.scalar = value.extracted ∧ (label ∉ further → first.head? = some value)) := by
  refine ⟨ofMapped description rows, ofCursor_eq_ofMapped readable, ?_, ?_⟩
  · intro none
    rcases none with rfl | none
    · rfl
    · rw [ofMapped, none]
      cases rows.map (mapped []) <;> rfl
  · rintro first others label further rfl labels
    rw [ofMapped, List.map_cons, labels, scalar_cons]
    constructor
    · rintro rfl
      have absent : ∀ j < ([] : List Datum).length, (label :: further)[j]? ≠ some label :=
        fun j within => absurd within (Nat.not_lt_zero j)
      rw [get?_mapped_of_absent absent]
    · intro some
      have present : label ∈ (label :: further).take first.length := by
        rw [List.take_cons (List.length_pos_iff.mpr some)]
        exact List.mem_cons_self
      obtain ⟨value, last⟩ := exists_lastUnder present
      have here := readable first List.mem_cons_self
      rw [labels] at here
      obtain ⟨plain, extracted⟩ := last.extracted here
      refine ⟨value, last, ?_, last.head⟩
      rw [get?_mapped_of_last last, Datum.plain_of_extracted extracted, extracted]

/-- A label that occurs twice, but not that of the first column, and binary data in the first
    column. -/
theorem scalar_ofCursor_once :
    ∃ result, ofCursor (some [.text "total", .text "id", .text "Id"])
        [[.binary .growable [4], .int 2, .int 3], [.int 5]] = .ok result ∧
      result.scalar = .ok (.binary .fixed [4]) := by
  have labels : columnLabels (some [.text "total", .text "id", .text "Id"]) =
      ["TOTAL", "ID", "ID"] := by decide +kernel
  have readable : ∀ row ∈ [[Datum.binary .growable [4], .int 2, .int 3], [.int 5]],
      Readable (columnLabels (some [.text "total", .text "id", .text "Id"])) row := by
    simp [Readable, columnLabels, Datum.extracted]
  obtain ⟨result, given, -, first⟩ := scalar_ofCursor readable
  obtain ⟨value, -, same, head⟩ := (first _ _ _ _ rfl labels).2 (List.cons_ne_nil _ _)
  cases head (by decide)
  exact ⟨result, given, same⟩

/-- Two labels that fall together in upper case: the first value is that of the second column. -/
theorem scalar_takes_later_column :
    ∃ result, ofCursor (some [.text "id", .text "ID"]) [[.int 1, .int 2]] = .ok result ∧
      result.scalar = .ok (.int 2) ∧ result.scalar ≠ (Datum.int 1).extracted := by
  have labels : columnLabels (some [.text "id", .text "ID"]) = ["ID", "ID"] := by decide +kernel
  refine ⟨⟨[[("ID", .int 2)]], ["ID", "ID"]⟩, ?_, rfl, ?_⟩
  · rw [ofCursor, labels]
    rfl
  · intro same
    cases same

end QueryResult

/-! ## Queries -/

variable {shape : Shape} {α : Type}

/-- A step with this account that gives a result gives the one that the cursor has. -/
def Account.Reads (b : Behavior) (a : Account QueryResult) : Prop :=
  ∀ result, a.outcome = .ok result → Cursor.reading b = .ok result

/-- What comes before the reading has no part in the result. -/
theorem Account.Reads.behind {b : Behavior} (first : Account α) {next : α → Account QueryResult}
    (h : ∀ value, (next value).Reads b) : (first.bind next).Reads b := by
  intro result given
  cases ho : first.outcome with
  | error failure =>
    rw [Account.bind_of_error ho] at given
    cases given
  | ok value =>
    rw [Account.bind_of_ok ho] at given
    exact h value result given

theorem HandleStep.reads_bind {step : HandleStep shape α} {next : α → HandleStep shape QueryResult}
    [step.Local] [∀ value, (next value).Local] {b : Behavior}
    (h : ∀ value left, ((next value).stint left b).toAccount.Reads b) (handle : Handle shape) :
    ((step >>= next).stint handle b).toAccount.Reads b := by
  rw [stint_bind, Stint.toAccount_bind]
  exact .behind _ fun value => h value _

theorem Cursor.materialize_reads (cursor : Cursor) (handle : Handle shape) (b : Behavior) :
    ((liftM cursor.materialize : HandleStep shape _).stint handle b).toAccount.Reads b := by
  intro result given
  rw [HandleStep.stint_lift, materialize_account] at given
  exact given

namespace Runner

theorem withHandle_reads (r : Runner) (acquire : Session (Handle shape)) (sql : List String)
    (operation : String) {action : HandleStep shape QueryResult} [acquire.Local] [action.Local]
    {b : Behavior} (h : ∀ handle, (action.stint handle b).toAccount.Reads b) :
    ((r.withHandle acquire sql operation action).account b).Reads b := by
  intro result given
  rw [withHandle_account] at given
  cases ho : (acquire.account b).outcome with
  | error failure =>
    rw [ho] at given
    cases given
  | ok handle =>
    rw [ho] at given
    exact h handle result (of_mapError_eq_ok given)

/-- **A query gives what is read from its cursor**, be the statement prepared or not. -/
theorem query_reads (r : Runner) (statement : Statement) (visitors : List Visitor) (b : Behavior) :
    ((r.query statement visitors).account b).Reads b := by
  rw [query_eq, Session.account_bind]
  refine .behind _ fun _ => ?_
  rw [Session.account_bind]
  refine .behind _ fun sql => ?_
  have plain : ((r.withHandle r.connection.createStatement [sql] "query" (do
      announce "executing_query" sql
      (← Handle.query sql).materialize)).account b).Reads b :=
    r.withHandle_reads _ _ _ fun handle =>
      HandleStep.reads_bind (fun _ left =>
        HandleStep.reads_bind (fun cursor left => cursor.materialize_reads left b) left) handle
  cases statement with
  | change change => exact plain
  | command command =>
    cases command with
    | prepared template parameters =>
      exact r.withHandle_reads _ _ _ fun handle =>
        HandleStep.reads_bind (fun _ left => HandleStep.reads_bind (fun _ left =>
          HandleStep.reads_bind (fun cursor left => cursor.materialize_reads left b) left) left)
          handle
    | _ => exact plain

/-- A query that meets no failure is answered with the rows of its cursor, mapped. -/
theorem query_outcome {r : Runner} {statement : Statement} {visitors : List Visitor} {sql : String}
    {b : Behavior} (online : r.connection.isOffline = false)
    (single : Rendering.render r.dialect visitors statement = .ok [sql])
    (served : firstFailure? b (r.single statement sql) = none) (fetched : b.failFetch = false)
    (readable : ∀ row ∈ b.rows, Readable (columnLabels b.columns) row) :
    ((r.query statement visitors).account b).outcome =
      .ok (.ofMapped b.columns b.rows) := by
  have read := QueryResult.ofCursor_eq_ofMapped readable
  have fetched : b.fetchFailure? = none := by
    rw [Behavior.fetchFailure?, fetched]
    rfl
  have reading : firstFailure? b (Hurdle.reading b) = none := by
    rw [Hurdle.reading, firstFailure?_cons, ← QueryResult.faultOf?_ofCursor, read,
      Hurdle.failure?, fetched]
    rfl
  have clear : firstMishap? b
      (r.singleStages statement visitors "query" (Hurdle.reading b)) = none := by
    rw [singleStages, Rendering.renderSingle, single, offlineFailure?_of_online online]
    show firstMishap? b [.check none, .attempt [sql] (r.single statement sql ++ _)] = none
    simp [firstMishap?, Stage.mishap?, firstFailure?_append, served, reading]
  have fares : Fares r "query" b _ ((r.query statement visitors).account b) := query_fares
  rw [Fares, clear, Option.map_none, Account.failure?] at fares
  cases ho : ((r.query statement visitors).account b).outcome with
  | error failure =>
    rw [ho] at fares
    cases fares
  | ok result =>
    have same := r.query_reads statement visitors b result ho
    rw [Cursor.reading, fetched, read] at same
    exact same.symm

/-- **The result of a query.** Take any statement that renders to one string, raw or prepared, and a
    driver that refuses nothing on the way, with any description of columns and rows of any lengths
    whose values can be read. The query is answered, with a row of the result for every row of the
    cursor, in order. The columns are the upper-cased labels. A row has the labels of as many
    columns as it has values, each of them once, in the order in which they first occur. What a
    column looked up by name holds for a row is the unwrapped value of the last of those columns
    that has the upper-cased name for its label, and nothing if none has. -/
theorem query_rows (r : Runner) (w : World) {statement : Statement} {visitors : List Visitor}
    {sql : String} (online : r.connection.isOffline = false)
    (single : Rendering.render r.dialect visitors statement = .ok [sql])
    (served : ∀ hurdle ∈ r.single statement sql, hurdle.failure? w.behavior = none)
    (fetched : w.behavior.failFetch = false)
    (readable : ∀ row ∈ w.behavior.rows, Readable (columnLabels w.behavior.columns) row) :
    ∃ result : QueryResult,
      ((r.perform (.query statement visitors)).run w).1 = .ok (.rows result) ∧
      result.columns = columnLabels w.behavior.columns ∧
      result.rows.length = w.behavior.rows.length ∧
      (∀ name, (result.column name).length = w.behavior.rows.length) ∧
      ∀ (i : Nat) (row : List Datum), w.behavior.rows[i]? = some row →
        (∃ fields : Fields, result.rows[i]? = some fields ∧
          fields.names = (result.columns.take row.length).eraseDups) ∧
        ∀ name,
          (∀ value, LastUnder result.columns row (Text.upper name) value →
            ∃ plain, value.extracted = .ok plain ∧ (result.column name)[i]? = some plain) ∧
          ((∀ j < row.length, result.columns[j]? ≠ some (Text.upper name)) →
            (result.column name)[i]? = some .null) := by
  have outcome := query_outcome online single (List.findSome?_eq_none_iff.mpr served) fetched
    readable
  refine ⟨.ofMapped w.behavior.columns w.behavior.rows, ?_, rfl, List.length_map _,
    fun name => ?_, fun i row here => ⟨?_, fun name => ⟨fun value last => ?_, fun absent => ?_⟩⟩⟩
  · rw [Session.run_eq, perform, Session.account_bind, Account.bind_of_ok outcome,
      Session.account_pure]
  · rw [QueryResult.column, QueryResult.ofMapped, List.length_map, List.length_map]
  · refine ⟨mapped _ row, ?_, names_mapped _ row⟩
    rw [QueryResult.ofMapped, List.getElem?_map, here]
    rfl
  · obtain ⟨plain, extracted⟩ := last.extracted (readable row (List.mem_of_getElem? here))
    refine ⟨plain, extracted, ?_⟩
    have found := get?_mapped_of_last last
    rw [Datum.plain_of_extracted extracted] at found
    rw [QueryResult.column_ofMapped here]
    exact congrArg (fun value? => some (value?.getD Datum.null)) found
  · rw [QueryResult.column_ofMapped here]
    exact congrArg (fun value? => some (value?.getD Datum.null)) (get?_mapped_of_absent absent)

/-- A template with labels that fall together in upper case, one of them with a letter whose upper
    case is two, and a row with fewer values than there are labels. -/
theorem query_rows_colliding :
    let columns := some [Datum.text "id", .text "straße", .text "Id", .text "STRASSE"]
    let rows := [[Datum.int 1, .int 2, .int 3, .binary .growable [4]], [.int 5]]
    let r : Runner := ⟨.scripted "fake://db" false, .sqlite⟩
    let query := Operation.query (.command (.prepared "SELECT ?" [.int 7])) []
    ∃ result : QueryResult,
      ((r.perform query).run { behavior := { columns := columns, rows := rows } }).1 =
        .ok (.rows result) ∧
      result.columns = ["ID", "STRASSE", "ID", "STRASSE"] ∧
      (result.column "Straße")[0]? = some (.binary .fixed [4]) ∧
      (result.column "Straße")[1]? = some .null := by
  intro columns rows r query
  let w : World := { behavior := { columns := columns, rows := rows } }
  have served : ∀ hurdle ∈ r.single (.command (.prepared "SELECT ?" [.int 7])) "SELECT ?",
      hurdle.failure? w.behavior = none := by
    simp [r, w, single, Hurdle.template, Hurdle.failure?, Behavior.acquireFailure?,
      Behavior.bindFailure?, Behavior.refusal?]
  have readable : ∀ row ∈ rows, Readable (columnLabels columns) row := by
    simp [rows, columns, Readable, columnLabels, Datum.extracted]
  obtain ⟨result, given, labels, -, -, all⟩ :=
    @query_rows r w (.command (.prepared "SELECT ?" [.int 7])) [] "SELECT ?" rfl rfl served rfl
      readable
  have named : result.columns = ["ID", "STRASSE", "ID", "STRASSE"] :=
    labels.trans (by decide +kernel)
  have upper : Text.upper "Straße" = "STRASSE" := by decide +kernel
  obtain ⟨-, first⟩ := all 0 _ rfl
  obtain ⟨-, second⟩ := all 1 _ rfl
  have last := (first "Straße").1
  have absent := (second "Straße").2
  rw [named, upper] at last absent
  refine ⟨result, given, named, ?_, absent fun j within => ?_⟩
  · obtain ⟨plain, extracted, found⟩ := last (.binary .growable [4])
      ⟨3, rfl, rfl, fun k after within => absurd within (by simp; omega)⟩
    cases extracted
    exact found
  · obtain rfl : j = 0 := by
      simp only [List.length_singleton] at within
      omega
    decide

end Runner

end SqlRunner
