import SqlRunner.Proofs.Layers
import SqlRunner.Proofs.UpperCase

/-!
# Columns — what is found under the name of a column

A column is looked up by its name in upper case, whatever made the result. So the look-up rests on
the rows having upper-case labels. A result that is read from a cursor has them: its labels are put
into upper case when it is made, and stay as they are when they are put into it again
(`columnLabels_raised`). A result that is made of rows has the keys that these came with, in
whatever case.

For rows that agree on their keys, and whose keys differ by more than case, this decides the matter
key by key. A key in upper case is found by its name in any case. A key that is not is found by no
name at all, its own included: what its upper case is looked up under is another key, and no row has
that (`notMem_upper`).
-/

set_option autoImplicit false

namespace SqlRunner

/-! ## Labels in upper case -/

/-- The labels of a cursor's columns are in upper case. -/
theorem columnLabels_raised {description : Option (List Datum)} {label : String}
    (h : label ∈ columnLabels description) : Text.upper label = label := by
  obtain ⟨shown, -, rfl⟩ := List.mem_map.mp h
  exact Text.upper_upper _

/-- Rows that agree on their keys, which differ by more than case. -/
structure Uniform (rows : List Fields) : Prop where
  distinct : ∀ row ∈ rows, (row.names.map Text.upper).Nodup
  agree : ∀ row ∈ rows, ∀ other ∈ rows, ∀ key ∈ row.names, key ∈ other.names

/-- Where keys differ by more than case, the upper case of a key that is not in it is no key. -/
theorem notMem_upper {keys : List String} (distinct : (keys.map Text.upper).Nodup) {key : String}
    (mem : key ∈ keys) (small : Text.upper key ≠ key) : Text.upper key ∉ keys := fun there =>
  small (List.inj_on_of_nodup_map distinct there mem (Text.upper_upper key))

namespace QueryResult

/-- What stands under a label itself, row by row. -/
def under (r : QueryResult) (label : String) : List (Option Datum) :=
  r.rows.map fun fields => fields.get? label

/-- A column is what stands under its name in upper case. -/
theorem column_eq_under (r : QueryResult) (name : String) :
    r.column name = (r.under (Text.upper name)).map fun value? => value?.getD .null := by
  rw [under, List.map_map]
  rfl

/-- Rows that agree on their keys are kept as they are. -/
theorem ofRows_of_uniform {rows : List Fields} (uniform : Uniform rows) :
    ofRows rows = ⟨rows, (rows.head?.map Entries.names).getD []⟩ := by
  have kept : rows.map (Entries.merge []) = rows :=
    (List.map_congr_left fun row mem =>
      Entries.merge_of_nodup (List.Nodup.of_map _ (uniform.distinct row mem))).trans
        (List.map_id rows)
  rw [ofRows, kept]

/-- The columns of such a result are the keys of every row. -/
theorem mem_of_mem_columns {rows : List Fields} (uniform : Uniform rows) {key : String}
    (h : key ∈ (ofRows rows).columns) {row : Fields} (mem : row ∈ rows) : key ∈ row.names := by
  rw [ofRows_of_uniform uniform] at h
  cases rows with
  | nil => cases mem
  | cons first rest => exact uniform.agree first List.mem_cons_self row mem key h

/-- A key has a value in every row. -/
theorem exists_under {rows : List Fields} (uniform : Uniform rows) {key : String}
    (h : key ∈ (ofRows rows).columns) :
    ∃ values : List Datum, (ofRows rows).under key = values.map some := by
  refine ⟨rows.map fun row => (row.get? key).getD .null, ?_⟩
  rw [under, ofRows_of_uniform uniform, List.map_map]
  refine List.map_congr_left fun row mem => ?_
  obtain ⟨value, found⟩ := Entries.exists_get?_of_mem (mem_of_mem_columns uniform h mem)
  rw [Function.comp_apply, found, Option.getD_some]

/-- Nothing stands under the upper case of a key that is not in it. -/
theorem under_upper {rows : List Fields} (uniform : Uniform rows) {key : String}
    (h : key ∈ (ofRows rows).columns) (small : Text.upper key ≠ key) :
    (ofRows rows).under (Text.upper key) = rows.map fun _ => none := by
  rw [under, ofRows_of_uniform uniform]
  refine List.map_congr_left fun row mem => Entries.get?_eq_none_iff.mpr ?_
  exact notMem_upper (uniform.distinct row mem) (mem_of_mem_columns uniform h mem) small

/-- **What is found under the name of a column.** Take any rows that agree on their keys, which
    differ by more than case, and the result that they make. A key of it has a value in every row.
    By any name that is the key but for case, these values are found, in the order of the rows, if
    the key is in upper case, and nothing but nulls if it is not. So the look-up gives the values if
    and only if the key is in upper case or they are nothing but nulls themselves. In a result that
    is read from a cursor, whatever its description and rows, every label is found so: what a row
    has under it is given, and a null for a row that is too short. -/
theorem column_anyCase (rows : List Fields) (uniform : Uniform rows)
    (description : Option (List Datum)) (cursorRows : List (List Datum)) :
    (∀ key ∈ (ofRows rows).columns, ∀ name, Text.upper name = Text.upper key →
      ∃ values, (ofRows rows).under key = values.map some ∧
        (Text.upper key = key → (ofRows rows).column name = values) ∧
        (Text.upper key ≠ key → (ofRows rows).column name = values.map fun _ => .null) ∧
        ((ofRows rows).column name = values ↔
          Text.upper key = key ∨ ∀ value ∈ values, value = .null)) ∧
    ∀ result, ofCursor description cursorRows = .ok result →
      ∀ label ∈ result.columns, ∀ name, Text.upper name = Text.upper label →
        result.column name = (result.under label).map fun value? => value?.getD .null := by
  constructor
  · intro key mem name same
    obtain ⟨values, stored⟩ := exists_under uniform mem
    have raised (large : Text.upper key = key) : (ofRows rows).column name = values := by
      rw [column_eq_under, same, large, stored, List.map_map]
      exact List.map_id values
    have lost (small : Text.upper key ≠ key) :
        (ofRows rows).column name = values.map fun _ => .null := by
      have asMany : rows.length = values.length := by
        have lengths := congrArg List.length stored
        rwa [under, ofRows_of_uniform uniform, List.length_map, List.length_map] at lengths
      rw [column_eq_under, same, under_upper uniform mem small, List.map_map]
      exact (List.map_const' ..).trans (asMany ▸ (List.map_const' ..).symm)
    refine ⟨values, stored, raised, lost, ?_⟩
    by_cases large : Text.upper key = key
    · exact iff_of_true (raised large) (.inl large)
    · rw [lost large, or_iff_right large]
      have nulls := List.map_inj_left (l := values) (f := fun _ => Datum.null) (g := id)
      rw [List.map_id] at nulls
      exact nulls.trans ⟨fun h v mem => (h v mem).symm, fun h v mem => (h v mem).symm⟩
  · intro result read label mem name same
    obtain rfl := Except.ok.inj
      ((ofCursor_eq_ofMapped (readable_of_ofCursor read)).symm.trans read)
    rw [column_eq_under, same, columnLabels_raised mem]

/-- Two rows with their keys in another order, one of the keys in upper case, and a cursor with a
    row that is too short. -/
theorem column_anyCase_mixed :
    let rows : List Fields :=
      [[("ID", .int 1), ("Größe", .int 2)], [("Größe", .int 4), ("ID", .int 3)]]
    (ofRows rows).column "iD" = [.int 1, .int 3] ∧
      (ofRows rows).column "Größe" = [.null, .null] ∧
      ∃ result, ofCursor (some [.text "id", .text "straße"]) [[.int 1, .int 2], [.int 3]] =
        .ok result ∧ result.column "Strasse" = [.int 2, .null] := by
  intro rows
  have uniform : Uniform rows := ⟨by decide +kernel, by decide +kernel⟩
  have labels : columnLabels (some [.text "id", .text "straße"]) = ["ID", "STRASSE"] := by
    decide +kernel
  have given : ofCursor (some [.text "id", .text "straße"]) [[.int 1, .int 2], [.int 3]] =
      .ok ⟨[[("ID", .int 1), ("STRASSE", .int 2)], [("ID", .int 3)]], ["ID", "STRASSE"]⟩ := by
    rw [ofCursor, labels]
    rfl
  obtain ⟨found, read⟩ := column_anyCase rows uniform (some [.text "id", .text "straße"])
    [[.int 1, .int 2], [.int 3]]
  refine ⟨?_, ?_, _, given, ?_⟩
  · obtain ⟨values, stored, raised, -⟩ := found "ID" (by decide +kernel) "iD" (by decide +kernel)
    have same : values = [.int 1, .int 3] :=
      List.map_injective_iff.mpr (fun _ _ => Option.some.inj) stored.symm
    exact same ▸ raised (by decide +kernel)
  · obtain ⟨values, stored, -, lost, -⟩ := found "Größe" (by decide +kernel) "Größe" rfl
    have same : values = [.int 2, .int 4] :=
      List.map_injective_iff.mpr (fun _ _ => Option.some.inj) stored.symm
    subst same
    exact lost (by decide +kernel)
  · exact read _ given "STRASSE" (by decide +kernel) "Strasse" (by decide +kernel)

/-- A key in lower case is not found by its name. -/
theorem column_missesSmall :
    Uniform [[("id", .int 1)]] ∧ "id" ∈ (ofRows [[("id", .int 1)]]).columns ∧
      (ofRows [[("id", .int 1)]]).under "id" = [some (.int 1)] ∧
      (ofRows [[("id", .int 1)]]).column "id" ≠ [.int 1] := by
  have upper : Text.upper "id" = "ID" := by decide +kernel
  refine ⟨⟨by decide +kernel, by decide +kernel⟩, by decide +kernel, rfl, ?_⟩
  rw [column_eq_under, upper]
  exact nofun

end QueryResult

end SqlRunner
