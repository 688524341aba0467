import Mathlib.Data.List.Nodup
import SqlRunner.Entries

/-!
# Last writes — what entries hold after some were written one after another

Writing a name again keeps its place and changes its value. So the names of what was written are
kept in the order in which they first occur (`Entries.names_merge`), each of them once, and the
value under a name is the one that was written last (`Entries.get?_merge`). Where no name occurs
twice to begin with, entries are written as they are (`Entries.merge_of_nodup`).
-/

set_option autoImplicit false

namespace SqlRunner.Entries

variable {α : Type}

/-! ## Looking up -/

theorem get?_cons (e : String × α) (rest : Entries α) (name : String) :
    get? (e :: rest) name = if e.1 = name then some e.2 else get? rest name := by
  rw [get?, List.find?_cons]
  by_cases same : e.1 = name
  · rw [if_pos same, beq_iff_eq.mpr same]
    rfl
  · rw [if_neg same, beq_eq_false_iff_ne.mpr same]
    rfl

theorem get?_append (first second : Entries α) (name : String) :
    get? (first ++ second) name = (get? first name).or (get? second name) := by
  rw [get?, List.find?_append]
  cases h : List.find? (fun e => e.1 == name) first with
  | none => simp [get?, h]
  | some e => simp [get?, h]

theorem get?_eq_none_iff {entries : Entries α} {name : String} :
    entries.get? name = none ↔ name ∉ entries.names := by
  rw [get?, Option.map_eq_none_iff, List.find?_eq_none, names, List.mem_map]
  constructor
  · rintro none ⟨e, mem, rfl⟩
    exact none e mem (beq_self_eq_true e.1)
  · intro absent e mem same
    exact absent ⟨e, mem, eq_of_beq same⟩

theorem remove_of_notMem {entries : Entries α} {name : String} (absent : name ∉ entries.names) :
    entries.remove name = entries :=
  List.filter_eq_self.mpr fun _ mem => bne_iff_ne.mpr fun same =>
    absent (same ▸ List.mem_map_of_mem mem)

theorem exists_get?_of_mem {entries : Entries α} {name : String} (h : name ∈ entries.names) :
    ∃ value, entries.get? name = some value :=
  Option.ne_none_iff_exists'.mp fun none => get?_eq_none_iff.mp none h

/-! ## Writing -/

theorem names_cons (e : String × α) (rest : Entries α) : names (e :: rest) = e.1 :: names rest :=
  rfl

/-- A name is written where it is, or behind the others. -/
theorem names_put (entries : Entries α) (name : String) (value : α) :
    (put entries name value).names =
      if name ∈ entries.names then entries.names else entries.names ++ [name] := by
  induction entries with
  | nil => rfl
  | cons e rest ih =>
    obtain ⟨n, v⟩ := e
    rw [put, names_cons]
    by_cases same : n = name
    · rw [if_pos (beq_iff_eq.mpr same), if_pos (same ▸ List.mem_cons_self), names_cons]
    · rw [if_neg fun equal => same (eq_of_beq equal), names_cons, ih]
      by_cases mem : name ∈ names rest
      · rw [if_pos mem, if_pos (List.mem_cons_of_mem n mem)]
      · have absent : name ∉ n :: names rest := fun here =>
          mem ((List.mem_cons.mp here).resolve_left (Ne.symm same))
        rw [if_neg mem, if_neg absent, List.cons_append]

theorem mem_names_put {entries : Entries α} {name other : String} {value : α} :
    other ∈ (put entries name value).names ↔ other = name ∨ other ∈ entries.names := by
  rw [names_put]
  split
  case isTrue mem => exact ⟨.inr, fun h => h.elim (fun same => same ▸ mem) id⟩
  case isFalse => rw [List.mem_append, List.mem_singleton, or_comm]

theorem merge_cons (entries : Entries α) (e : String × α) (more : List (String × α)) :
    entries.merge (e :: more) = (entries.put e.1 e.2).merge more := rfl

theorem merge_append (entries : Entries α) (first second : List (String × α)) :
    entries.merge (first ++ second) = (entries.merge first).merge second :=
  List.foldl_append

/-- **Names are kept in the order of their first occurrence**, each of them once. -/
theorem names_merge (entries : Entries α) (more : List (String × α)) :
    (entries.merge more).names = entries.names ++
      ((more.map Prod.fst).filter fun name => name ∉ entries.names).eraseDups := by
  induction more generalizing entries with
  | nil => exact (List.append_nil _).symm
  | cons e rest ih =>
    rw [merge_cons, ih, names_put, List.map_cons]
    by_cases mem : e.1 ∈ entries.names
    · rw [if_pos mem, List.filter_cons_of_neg (by simpa using mem)]
    · rw [if_neg mem, List.filter_cons_of_pos (by simpa using mem), List.eraseDups_cons,
        List.filter_filter, List.append_assoc, List.singleton_append]
      -- a name is new behind this entry if it is another one and was new before
      refine congrArg (fun l => entries.names ++ e.1 :: l.eraseDups)
        (List.filter_congr fun name _ => ?_)
      by_cases same : name = e.1
      · simp [same]
      · simp [same]

/-- **What is found is what was written last**, or else what was there before. -/
theorem get?_merge (entries : Entries α) (more : List (String × α)) (name : String) :
    (entries.merge more).get? name = (get? more.reverse name).or (entries.get? name) := by
  induction more generalizing entries with
  | nil => rfl
  | cons e rest ih =>
    rw [merge_cons, ih, List.reverse_cons, get?_append, get?_cons]
    by_cases same : e.1 = name
    · rw [if_pos same, ← same, get?_put_self]
      cases get? rest.reverse e.1 <;> rfl
    · rw [if_neg same, get?_put_of_ne _ _ (Ne.symm same)]
      cases get? rest.reverse name <;> rfl

theorem get?_merge_of_notMem (entries : Entries α) {more : List (String × α)} {name : String}
    (h : name ∉ more.map Prod.fst) : (entries.merge more).get? name = entries.get? name := by
  have absent : name ∉ names more.reverse := by rwa [names, List.map_reverse, List.mem_reverse]
  rw [get?_merge, get?_eq_none_iff.mpr absent, Option.none_or]

theorem get?_merge_append (entries : Entries α) (before : List (String × α)) {name : String}
    (value : α) {after : List (String × α)} (h : name ∉ after.map Prod.fst) :
    (entries.merge (before ++ (name, value) :: after)).get? name = some value := by
  rw [merge_append, merge_cons, get?_merge_of_notMem _ h, get?_put_self]

/-! ## Entries without a name twice -/

theorem nodup_names_put {entries : Entries α} (once : entries.names.Nodup) (name : String)
    (value : α) : (put entries name value).names.Nodup := by
  rw [names_put]
  split
  case isTrue => exact once
  case isFalse new =>
    exact List.nodup_append.mpr ⟨once, by simp, fun a ha b hb =>
      fun same => new (List.mem_singleton.mp hb ▸ same ▸ ha)⟩

theorem nodup_names_merge {entries : Entries α} (once : entries.names.Nodup)
    (more : List (String × α)) : (entries.merge more).names.Nodup := by
  induction more generalizing entries with
  | nil => exact once
  | cons e rest ih => exact ih (nodup_names_put once e.1 e.2)

/-- Where no name is used twice, every entry is the one that is found under its name. -/
theorem get?_eq_some_iff {entries : Entries α} (once : entries.names.Nodup) {name : String}
    {value : α} : entries.get? name = some value ↔ (name, value) ∈ entries := by
  induction entries with
  | nil => exact ⟨nofun, nofun⟩
  | cons e rest ih =>
    obtain ⟨n, v⟩ := e
    rw [names_cons, List.nodup_cons] at once
    rw [List.mem_cons, get?_cons, Prod.mk.injEq]
    by_cases same : n = name
    · subst same
      have other : (n, value) ∉ rest := fun mem =>
        have named : n ∈ names rest := List.mem_map_of_mem mem
        once.1 named
      simp [other, eq_comm]
    · rw [if_neg same, ih once.2]
      simp [Ne.symm same]

/-- Where no name is used twice, it does not matter from which end one looks. -/
theorem get?_reverse {entries : Entries α} (once : entries.names.Nodup) (name : String) :
    get? entries.reverse name = entries.get? name := by
  have once' : (names entries.reverse).Nodup := by
    rw [names, List.map_reverse]
    exact List.nodup_reverse.mpr once
  refine Option.ext fun value => ?_
  rw [get?_eq_some_iff once', get?_eq_some_iff once, List.mem_reverse]

/-- Of entries that may lack a value, those that have one. -/
theorem get?_filterMap {pairs : Entries (Option α)} (once : pairs.names.Nodup) (name : String) :
    get? (pairs.filterMap fun (n, value?) => value?.map (n, ·)) name =
      (pairs.get? name).join := by
  induction pairs with
  | nil => rfl
  | cons e rest ih =>
    obtain ⟨n, value?⟩ := e
    rw [names_cons, List.nodup_cons] at once
    rw [get?_cons, List.filterMap_cons]
    by_cases same : n = name
    · subst same
      rw [if_pos rfl]
      cases value? with
      | none =>
        refine (ih once.2).trans ?_
        rw [get?_eq_none_iff.mpr once.1]
        rfl
      | some value => exact (get?_cons ..).trans (if_pos rfl)
    · rw [if_neg same, ← ih once.2]
      cases value? with
      | none => rfl
      | some value => exact (get?_cons ..).trans (if_neg same)

/-- A new name is written behind the others. -/
theorem put_of_notMem {entries : Entries α} {name : String} (value : α)
    (new : name ∉ entries.names) : entries.put name value = entries ++ [(name, value)] := by
  induction entries with
  | nil => rfl
  | cons e rest ih =>
    rw [names_cons, List.mem_cons, not_or] at new
    rw [put, if_neg fun same => new.1 (eq_of_beq same).symm, ih new.2, List.cons_append]

/-- Entries under names that are all new are written as they are. -/
theorem merge_of_nodup {entries more : Entries α} (once : (entries ++ more).names.Nodup) :
    entries.merge more = entries ++ more := by
  induction more generalizing entries with
  | nil => exact (List.append_nil _).symm
  | cons e rest ih =>
    have new : e.1 ∉ entries.names := by
      rw [names, List.map_append, List.nodup_append] at once
      exact fun mem => once.2.2 _ mem _ List.mem_cons_self rfl
    rw [← List.singleton_append, ← List.append_assoc] at once ⊢
    rw [List.singleton_append, merge_cons, put_of_notMem _ new, ih once]

end SqlRunner.Entries
