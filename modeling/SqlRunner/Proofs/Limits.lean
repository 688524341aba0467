import SqlRunner.Proofs.Registrations
import SqlRunner.Visitor

/-!
# Limits — visitors that are meant for a dialect by name

A visitor may be limited to dialects by name, and such a name is compared with the one that the
dialect gives itself. The registry is not asked. So whether the visitor is run for the dialect that
its name means to the registry depends on how that dialect came to be found under the name.

Where every dialect was registered under its own name, there are two ways in which the visitor is
passed over (`lower_eq_name_iff`). The name may be the alias, under which a dialect of another name
is found; this lasts until a dialect of that name is registered. And the dialect's own name may not
be in lower case, when it is equal to no name that was put into it.
-/

set_option autoImplicit false

namespace SqlRunner

namespace Registry

/-- The name is the alias, and stands for the dialect that it was made for. -/
def IsAlias (registrations : List (String × Dialect)) (name : String) : Prop :=
  Text.lower name = hiddenAlias ∧ ∀ e ∈ registrations, Text.lower e.1 ≠ hiddenAlias

/-- The built-in dialects call themselves by names in lower case, and by those that they are found
    under, but for the alias. -/
theorem names_of_builtin {key : String} {dialect : Dialect} (h : builtin.find? key = some dialect) :
    Text.lower dialect.name = dialect.name ∧ (key = dialect.name ↔ key ≠ hiddenAlias) := by
  obtain ⟨e, found, rfl⟩ := Option.map_eq_some_iff.mp h
  have named : ∀ e ∈ builtin.entries,
      Text.lower e.2.name = e.2.name ∧ (e.1 = e.2.name ↔ e.1 ≠ hiddenAlias) := by
    decide +kernel
  have here := List.find?_some found
  obtain rfl : e.1 = key := eq_of_beq here
  exact named e (List.mem_of_find?_eq_some found)

/-- Where the registered dialects call themselves by names in lower case, all do that are found. -/
theorem lower_name_of_all {registrations : List (String × Dialect)}
    (all : ∀ e ∈ registrations, Text.lower e.2.name = e.2.name) {key : String} {dialect : Dialect}
    (h : latest? registrations key = some dialect) : Text.lower dialect.name = dialect.name := by
  rcases latest?_cases h with ⟨e, mem, -, rfl⟩ | ⟨-, builtin⟩
  · exact all e mem
  · exact (names_of_builtin builtin).1

/-- **When a dialect calls itself by the name that it is found under**: when its own name is in
    lower case, and the name is not the alias. -/
theorem lower_eq_name_iff {registrations : List (String × Dialect)}
    (own : OwnNames registrations) {name : String} {dialect : Dialect}
    (h : latest? registrations (Text.lower name) = some dialect) :
    Text.lower name = dialect.name ↔
      Text.lower dialect.name = dialect.name ∧ ¬ IsAlias registrations name := by
  rcases latest?_cases h with ⟨e, mem, named, rfl⟩ | ⟨absent, builtin⟩
  · -- it was registered under the name, be that the one of the alias
    have taken : ¬ IsAlias registrations name := fun hidden =>
      hidden.2 e mem (named.trans hidden.1)
    rw [own e mem, named, and_iff_left taken]
  · obtain ⟨lower, same⟩ := names_of_builtin builtin
    rw [and_iff_right lower, same]
    exact not_congr ⟨fun hidden => ⟨hidden, hidden ▸ absent⟩, And.left⟩

end Registry

namespace Visitor

open Registry

/-- A visitor that is limited to one name is meant for the dialects of that name. -/
theorem appliesTo_one_iff {dialect : Dialect} (e : Edit) (name : String) :
    (edit e [name]).appliesTo dialect = true ↔ Text.lower name = dialect.name := by
  simp [appliesTo]

theorem applyAll_append (dialect : Dialect) (first second : List Visitor) (sql : String) :
    applyAll dialect (first ++ second) sql =
      applyAll dialect first sql >>= applyAll dialect second :=
  List.foldlM_append

/-- A visitor of a pipeline is run where it is meant for the dialect, and passed over otherwise. -/
theorem applyAll_edit_cons (dialect : Dialect) (e : Edit) (names : List String)
    (after : List Visitor) (sql : String) :
    applyAll dialect (edit e names :: after) sql =
      if (edit e names).appliesTo dialect then e.apply sql >>= applyAll dialect after
      else applyAll dialect after sql := by
  show (if (edit e names).appliesTo dialect then e.apply sql else .ok sql) >>= _ = _
  split
  case isTrue => rfl
  case isFalse => rfl

/-- **When a visitor is run for the dialect that its name means.** Let dialects be registered in
    whatever order, each of them under the name that it calls itself, and let a name mean a dialect
    to the registry. A visitor that is limited to this name is meant for that dialect if and only if
    the dialect's own name is in lower case, which it is where those of all registered dialects are,
    and the name is not the alias, or a dialect was registered under the alias. A pipeline runs the
    visitor in its place if it is meant for the dialect, and is otherwise as it were without it. -/
theorem limited_meant_iff {registrations : List (String × Dialect)} (own : OwnNames registrations)
    {name : String} {dialect : Dialect}
    (found : (ofRegistrations registrations).get name = .ok dialect) (e : Edit)
    (before after : List Visitor) (sql : String) :
    ((edit e [name]).appliesTo dialect = true ↔
      Text.lower dialect.name = dialect.name ∧ ¬ IsAlias registrations name) ∧
    ((∀ entry ∈ registrations, Text.lower entry.2.name = entry.2.name) →
      Text.lower dialect.name = dialect.name) ∧
    ((edit e [name]).appliesTo dialect = true →
      applyAll dialect (before ++ edit e [name] :: after) sql = (do
        let sql ← applyAll dialect before sql
        let sql ← e.apply sql
        applyAll dialect after sql)) ∧
    ((edit e [name]).appliesTo dialect = false →
      applyAll dialect (before ++ edit e [name] :: after) sql =
        applyAll dialect (before ++ after) sql) := by
  have meant := get_ofRegistrations_iff.mp found
  refine ⟨(appliesTo_one_iff e name).trans (lower_eq_name_iff own meant),
    fun all => lower_name_of_all all meant, fun applies => ?_, fun passed => ?_⟩
  · rw [applyAll_append]
    congr 1
    funext sql
    rw [applyAll_edit_cons, if_pos applies]
  · rw [applyAll_append, applyAll_append]
    congr 1
    funext sql
    rw [applyAll_edit_cons, if_neg (Bool.eq_false_iff.mp passed)]

/-- A dialect that takes the place of the alias, and a name in mixed case; the visitor before is
    limited to another dialect. -/
theorem limited_meant_iff_taken :
    (ofRegistrations [("H2", { name := "h2" }), ("postgres", { name := "postgres" })]).get
        "PostGres" = .ok { name := "postgres" } ∧
      applyAll { name := "postgres" }
        ([edit (.append "?") ["h2"]] ++ edit (.append "!") ["PostGres"] :: []) "SELECT 1" =
          .ok "SELECT 1!" := by
  have own : OwnNames [("H2", { name := "h2" }), ("postgres", { name := "postgres" })] := by
    intro e mem
    simp only [List.mem_cons, List.not_mem_nil, or_false] at mem
    rcases mem with rfl | rfl <;> decide +kernel
  have found : (ofRegistrations [("H2", { name := "h2" }),
      ("postgres", { name := "postgres" })]).get "PostGres" = .ok { name := "postgres" } :=
    get_ofRegistrations_iff.mpr (by decide +kernel)
  obtain ⟨meant, lower, run, -⟩ := limited_meant_iff own found (.append "!")
    [edit (.append "?") ["h2"]] [] "SELECT 1"
  have taken : ¬ IsAlias [("H2", { name := "h2" }), ("postgres", { name := "postgres" })]
      "PostGres" := fun hidden =>
    hidden.2 ("postgres", { name := "postgres" }) (by simp) (by decide +kernel)
  refine ⟨found, (run (meant.mpr ⟨lower ?_, taken⟩)).trans ?_⟩
  · decide +kernel
  · rw [applyAll_edit_cons, if_neg (by decide +kernel)]
    rfl

/-- **The alias is a name that a limit does not understand.** -/
theorem limited_missesAlias :
    Registry.builtin.get "postgres" = .ok .postgresql ∧
      (edit (.append "!") ["postgres"]).appliesTo .postgresql = false ∧
      applyAll .postgresql [edit (.append "!") ["postgres"]] "SELECT 1" = .ok "SELECT 1" := by
  have passed : (edit (.append "!") ["postgres"]).appliesTo .postgresql = false := by
    decide +kernel
  refine ⟨get_eq_ok_iff.mpr (by decide +kernel), passed, ?_⟩
  rw [applyAll_edit_cons, if_neg (Bool.eq_false_iff.mp passed)]
  rfl

end Visitor

end SqlRunner
