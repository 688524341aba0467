import SqlRunner.Conduct

/-!
# Callbacks — conducts that can be written down

A callback is a list of moves on a callable handle and an ending. The moves are made one after
another, and one that fails ends the callback at once; the ending is a failure, or an answer that
may draw on what the calls were answered. So a callback is a conduct (`Callback.conduct`).
-/

set_option autoImplicit false

namespace SqlRunner

/-- A move on a callable handle. -/
inductive Move where
  /-- Binds parameters in place of those bound before. -/
  | bind (parameters : List Datum)
  /-- Makes the call. -/
  | call
  /-- Closes the handle. -/
  | close

/-- How a callback ends. -/
inductive Ending where
  /-- With the bound parameters. -/
  | parameters
  /-- With the answers of all its calls. -/
  | answers
  /-- With the answer of its last call. -/
  | lastAnswer
  | value (value : Datum)
  | failure (failure : Failure)

/-- The ending, after calls with these answers. -/
def Ending.conduct (answers : List Datum) : Ending → Conduct
  | .parameters => .look fun h => .answer (.list h.parameters)
  | .answers => .answer (.list answers)
  | .lastAnswer => .answer (answers.getLast?.getD .null)
  | .value given => .answer given
  | .failure raised => .fail raised

/-- Moves one after another, up to the first that fails, and then the ending. -/
def Move.conduct (ending : Ending) (answers : List Datum) : List Move → Conduct
  | [] => ending.conduct answers
  | .bind parameters :: rest => .bind parameters (.onward fun _ => conduct ending answers rest)
  | .call :: rest => .call (.onward fun answer => conduct ending (answers ++ [answer]) rest)
  | .close :: rest => .close (.onward fun _ => conduct ending answers rest)

/-- Moves, and how they end. -/
structure Callback where
  moves : List Move := []
  ending : Ending

namespace Callback

/-- The callback as a conduct. -/
def conduct (callback : Callback) : Conduct := Move.conduct callback.ending [] callback.moves

/-- Whether the handle is left open. -/
def neverCloses (callback : Callback) : Bool :=
  callback.moves.all fun move =>
    match move with
    | .close => false
    | .bind _ | .call => true

theorem conduct_leavesOpen {callback : Callback} (h : callback.neverCloses = true) :
    callback.conduct.LeavesOpen := by
  obtain ⟨moves, ending⟩ := callback
  have after (answers : List Datum) : (Move.conduct ending answers moves).LeavesOpen := by
    induction moves generalizing answers with
    | nil =>
      cases ending with
      | parameters => exact fun _ => trivial
      | _ => trivial
    | cons move rest ih =>
      rw [neverCloses, List.all_cons, Bool.and_eq_true] at h
      cases move with
      | bind parameters => exact Conduct.leavesOpen_onward fun _ => ih h.2 answers
      | call => exact Conduct.leavesOpen_onward fun _ => ih h.2 _
      | close => cases h.1
  exact after []

end Callback

end SqlRunner
