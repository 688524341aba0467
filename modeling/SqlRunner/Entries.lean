/-!
# Entries — values under names, in order of first appearance

Registered dialects, the variables of an environment, rows, contexts of errors and log lines are all
the same thing: values under names. Writing a name again keeps its place and changes its value.
-/

set_option autoImplicit false

namespace SqlRunner

/-- Values under names. -/
abbrev Entries (α : Type) := List (String × α)

namespace Entries

variable {α : Type}

/-- The value under a name. -/
def get? (entries : Entries α) (name : String) : Option α :=
  (entries.find? fun e => e.1 == name).map (·.2)

/-- The entries with one value written: in place where the name is there, at the end otherwise. -/
def put : Entries α → String → α → Entries α
  | [], name, value => [(name, value)]
  | (n, v) :: rest, name, value =>
    if n == name then (n, value) :: rest else (n, v) :: put rest name value

/-- The entries with those of `more` written one after another. -/
def merge (entries : Entries α) (more : List (String × α)) : Entries α :=
  more.foldl (fun acc e => put acc e.1 e.2) entries

/-- The entries without a name. -/
def remove (entries : Entries α) (name : String) : Entries α :=
  entries.filter fun e => e.1 != name

/-- The names, in order. -/
def names (entries : Entries α) : List String := entries.map (·.1)

/-- What was written last is what is read. -/
theorem get?_put_self (entries : Entries α) (name : String) (value : α) :
    get? (put entries name value) name = some value := by
  induction entries with
  | nil => simp [put, get?]
  | cons e rest ih =>
    obtain ⟨n, v⟩ := e
    by_cases h : n = name
    · simp [put, get?, h]
    · simpa [put, get?, h] using ih

/-- Writing one name leaves the others alone. -/
theorem get?_put_of_ne (entries : Entries α) {name other : String} (value : α)
    (h : other ≠ name) : get? (put entries name value) other = get? entries other := by
  induction entries with
  | nil => simp [put, get?, Ne.symm h]
  | cons e rest ih =>
    obtain ⟨n, v⟩ := e
    by_cases hn : n = name
    · subst hn
      simp [put, get?, Ne.symm h]
    · by_cases ho : n = other
      · subst ho
        simp [put, get?, hn]
      · simpa [put, get?, hn, ho] using ih

end Entries

end SqlRunner
