import SqlRunner.Connection.Journal

/-!
# Holding — what a journal says is held, entry by entry

A journal tells who holds what. Before an operation nothing is held; acquiring a handle opens a
bracket, running a query through it opens a second one inside of the first, and closing takes them
away again, the inner one first. `Holding.step` is that reading, one entry at a time, and it answers
`none` where an entry is out of place: a second handle beside an open one, SQL through a handle that
is closed or of another kind, anything but closing the cursor while a cursor is open, or closing
what is not held.

A journal that starts and ends with nothing held is `Bracketed`. What is usually asked of resources
follows from it (`Bracketed.balanced`): as much is closed as was opened, of every kind, and at no
point more than one handle is open. That a cursor is open only while its handle is needs no
counting, for `step` knows no other way.
-/

set_option autoImplicit false

namespace SqlRunner

/-- What is held of a driver. -/
inductive Holding where
  | nothing
  /-- An open handle; `cursor` is a raw cursor, which is its own handle. -/
  | handle (resource : Resource)
  /-- An open handle and the open cursor of a query that was run through it. -/
  | reading (resource : Resource)
deriving DecidableEq

namespace Holding

/-- What is held after one more entry, if the entry is in place. -/
def step : Holding → Entry → Option Holding
  | nothing, .created => some (handle .statement)
  | nothing, .prepared _ => some (handle .prepared)
  | nothing, .preparedCall _ => some (handle .callable)
  | nothing, .cursorOpened => some (handle .cursor)
  | handle .statement, .ran .query _ => some (reading .statement)
  | handle .statement, .ran _ _ => some (handle .statement)
  | handle .statement, .escapes _ => some (handle .statement)
  | handle .prepared, .bound _ => some (handle .prepared)
  | handle .callable, .bound _ => some (handle .callable)
  | handle .prepared, .ranPrepared .query _ _ => some (reading .prepared)
  | handle .prepared, .ranPrepared _ _ _ => some (handle .prepared)
  | handle .callable, .called _ _ => some (handle .callable)
  | handle .cursor, .cursorRan _ _ => some (handle .cursor)
  | handle .cursor, .cursorCalled _ _ => some (handle .cursor)
  | handle .cursor, .cursorEscapes _ => some (handle .cursor)
  | handle r, .closed r' => if r = r' then some nothing else none
  | reading r, .closed .cursor => some (handle r)
  | _, _ => none

/-- What is held after all of a journal, if every entry of it is in place. -/
def follow (held : Holding) : List Entry → Option Holding
  | [] => some held
  | entry :: rest =>
    match held.step entry with
    | some next => next.follow rest
    | none => none

theorem follow_append (held : Holding) (before after : List Entry) :
    held.follow (before ++ after) =
      (held.follow before).bind fun next => next.follow after := by
  induction before generalizing held with
  | nil => rfl
  | cons entry rest ih =>
    simp only [List.cons_append, follow]
    cases held.step entry with
    | none => rfl
    | some next => exact ih next

theorem follow_append_of {held middle : Holding} {before : List Entry}
    (h : held.follow before = some middle) (after : List Entry) :
    held.follow (before ++ after) = middle.follow after := by
  rw [follow_append, h, Option.bind_some]

end Holding

/-- A journal that leaves nothing held, every entry of it in place. -/
def Bracketed (journal : List Entry) : Prop := Holding.nothing.follow journal = some .nothing

instance (journal : List Entry) : Decidable (Bracketed journal) :=
  inferInstanceAs (Decidable (_ = _))

/-- A query is read and closed before its handle is. -/
example : Bracketed [.created, .ran .query "SELECT 1", .closed .cursor, .closed .statement] := by
  decide

/-- Nothing is run through a handle that is closed. -/
example : ¬ Bracketed [.created, .closed .statement, .ran .execute "DELETE FROM t"] := by
  decide

namespace Bracketed

theorem nil : Bracketed [] := rfl

theorem append {first second : List Entry} (h₁ : Bracketed first) (h₂ : Bracketed second) :
    Bracketed (first ++ second) := (Holding.follow_append_of h₁ second).trans h₂

theorem flatten {segments : List (List Entry)} (h : ∀ segment ∈ segments, Bracketed segment) :
    Bracketed segments.flatten := by
  induction segments with
  | nil => exact nil
  | cons segment rest ih =>
    rw [List.flatten_cons]
    exact (h segment List.mem_cons_self).append
      (ih fun other hm => h other (List.mem_cons_of_mem segment hm))

end Bracketed

/-! ## Counting -/

/-- Whether the entry opens a thing of the kind. A query opens a cursor. -/
def Entry.opens (r : Resource) : Entry → Bool
  | .created => r == .statement
  | .prepared _ => r == .prepared
  | .preparedCall _ => r == .callable
  | .cursorOpened | .ran .query _ | .ranPrepared .query _ _ => r == .cursor
  | _ => false

/-- Whether the entry closes a thing of the kind. -/
def Entry.closes (r : Resource) : Entry → Bool
  | .closed other => r == other
  | _ => false

/-- How many things of a kind are held. -/
def Holding.count (r : Resource) : Holding → Nat
  | nothing => 0
  | handle held => if r = held then 1 else 0
  | reading held => (if r = held then 1 else 0) + (if r = .cursor then 1 else 0)

namespace Holding

/-- What is held, and what was closed, is what was opened: one entry. -/
theorem count_step {held next : Holding} {entry : Entry} (h : held.step entry = some next)
    (r : Resource) :
    held.count r + (entry.opens r).toNat = next.count r + (entry.closes r).toNat := by
  -- the cases are the rows of `step`; an entry that is out of place leads nowhere
  rcases held with _ | kind | kind
  · cases entry <;> cases h <;> cases r <;> rfl
  · cases entry with
    | ran verb sql => cases kind <;> cases verb <;> cases h <;> cases r <;> rfl
    | ranPrepared verb sql parameters =>
      cases kind <;> cases verb <;> cases h <;> cases r <;> rfl
    | closed other =>
      rw [step] at h
      split at h
      case isTrue same =>
        cases h
        cases same
        cases r <;> cases kind <;> rfl
      case isFalse => cases h
    | _ => cases kind <;> cases h <;> cases r <;> rfl
  · cases entry with
    | closed other =>
      -- While a cursor is open only its own closing is in place.
      cases other with
      | cursor =>
        cases h
        cases r <;> cases kind <;> rfl
      | _ => cases h
    | _ => cases h

/-- What is held, and what was closed, is what was opened: a whole journal. -/
theorem count_follow {held last : Holding} {journal : List Entry}
    (h : held.follow journal = some last) (r : Resource) :
    held.count r + journal.countP (Entry.opens r) =
      last.count r + journal.countP (Entry.closes r) := by
  induction journal generalizing held with
  | nil =>
    cases h
    rfl
  | cons entry rest ih =>
    rw [follow] at h
    cases hs : held.step entry with
    | none => rw [hs] at h; cases h
    | some next =>
      rw [hs] at h
      -- the balance of the first entry, and that of the others from where it leads
      have first := count_step hs r
      have others := ih h
      rw [List.countP_cons, List.countP_cons]
      cases ho : entry.opens r <;> cases hc : entry.closes r <;>
        simp only [ho, hc, Bool.toNat_true, Bool.toNat_false] at first <;> simp <;> omega

/-- Of the handles of a scripted connection no two are held together. -/
theorem count_handles_le (held : Holding) :
    held.count .statement + held.count .prepared + held.count .callable ≤ 1 := by
  rcases held with _ | kind | kind
  · exact Nat.zero_le 1
  · cases kind <;> decide
  · cases kind <;> decide

end Holding

/-- What a journal adds up to when everything was given back in time. -/
structure Balanced (journal : List Entry) : Prop where
  /-- **Nothing leaks and nothing is closed twice**: as much is closed as was opened. -/
  closed (r : Resource) : journal.countP (Entry.opens r) = journal.countP (Entry.closes r)
  /-- **One handle at a time**, at every point. -/
  single {before after : List Entry} (split : journal = before ++ after) :
    before.countP (Entry.opens .statement) + before.countP (Entry.opens .prepared) +
        before.countP (Entry.opens .callable) ≤
      before.countP (Entry.closes .statement) + before.countP (Entry.closes .prepared) +
        before.countP (Entry.closes .callable) + 1

namespace Bracketed

/-- At every point of a journal something is held, and what was opened so far is what was closed so
    far and what is held. -/
theorem held_at {before after : List Entry} (h : Bracketed (before ++ after)) :
    ∃ held : Holding, ∀ r, before.countP (Entry.opens r) =
      held.count r + before.countP (Entry.closes r) := by
  rw [Bracketed, Holding.follow_append] at h
  cases hb : Holding.nothing.follow before with
  | none => rw [hb] at h; cases h
  | some held =>
    refine ⟨held, fun r => ?_⟩
    simpa only [Holding.count, Nat.zero_add] using Holding.count_follow hb r

theorem balanced {journal : List Entry} (h : Bracketed journal) : Balanced journal where
  closed r := by
    have balance := Holding.count_follow h r
    simpa only [Holding.count, Nat.zero_add] using balance
  single {before after} split := by
    subst split
    obtain ⟨held, balance⟩ := h.held_at
    have one := held.count_handles_le
    simp only [balance]
    omega

end Bracketed

end SqlRunner
