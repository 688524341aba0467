import SqlRunner.Datum
import SqlRunner.Entries

/-!
# Fields — data under names

A row has a value for each column, an error's context one for each entry, and an event or a log line
one for each thing it tells. All of them are fields.
-/

set_option autoImplicit false

namespace SqlRunner

/-- Data under names. -/
abbrev Fields := Entries Datum

end SqlRunner
