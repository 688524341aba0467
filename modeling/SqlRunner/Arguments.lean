import SqlRunner.Fault
import SqlRunner.Fields

/-!
# Arguments — fields that are handed on beside the arguments of a call

Some calls take any fields beside a few arguments of their own. A field under the name of such an
argument would give it twice, and the call is refused.
-/

set_option autoImplicit false

namespace SqlRunner

/-- The first of the fields that has one of the names. -/
def Fields.clash? (fields : Fields) (names : List String) : Option String :=
  (fields.find? fun e => names.contains e.1).map (·.1)

/-- Refuses fields under the names of a call's own arguments. -/
def Fields.checkClash (fields : Fields) (call : String) (names : List String) :
    Except Fault Unit :=
  match fields.clash? names with
  | some name => .error (.repeatedArgument call name)
  | none => .ok ()

/-- No refusal means that no field has one of the names. -/
theorem Fields.checkClash_eq_ok {fields : Fields} {call : String} {names : List String}
    (h : fields.checkClash call names = .ok ()) :
    ∀ e ∈ fields, names.contains e.1 = false := by
  unfold checkClash clash? at h
  cases found : List.find? (fun e => names.contains e.1) fields with
  | some e => rw [found] at h; cases h
  | none =>
    intro e he
    exact eq_false_of_ne_true (List.find?_eq_none.mp found e he)

end SqlRunner
