import SqlRunner.Proofs.Signs

/-!
# Binding — every marker finds its parameter

The markers of respelled SQL are counted while it is written, and the parameters are enumerated on
their own when they are bound. What brings the two together is the driver: it looks for the value of
a marker under the marker's name where markers are named, and under its position otherwise
(`Arguments.valueOf?`). Arguments fit so many markers if nothing that a driver looks for is missing
and nothing is there that it never looks for (`Arguments.Fits`).
-/

set_option autoImplicit false

namespace SqlRunner

namespace Sign

/-- No two markers have the same name. -/
theorem key_inj {k m : Nat} (h : key k = key m) : k = m := by
  have number : k.repr = m.repr := (String.append_right_inj "p").mp h
  -- a number can be read back from its digits
  have digits : Nat.toDigits 10 k = Nat.toDigits 10 m := by
    rw [Nat.repr_eq_ofList_toDigits, Nat.repr_eq_ofList_toDigits] at number
    exact String.ofList_injective number
  rw [← @Nat.ofDigitChars_ten_toDigits k, digits, Nat.ofDigitChars_ten_toDigits]

/-- The number of markers. -/
def markers (signs : List Sign) : Nat := signs.count .marker

end Sign

namespace Marker

namespace Arguments

/-- What a driver finds for a marker that `k` others come before. -/
def valueOf? (k : Nat) : Arguments → Option Datum
  | positional values => values[k]?
  | named fields => fields.get? (Sign.key (k + 1))

/-- Arguments as a style wants them, for so many markers and no others. -/
def Fits (style : MarkerStyle) (n : Nat) : Arguments → Prop
  | positional values => style ≠ .named ∧ values.length = n
  | named fields => style = .named ∧ fields.names.Nodup ∧
      ∀ name, name ∈ fields.names ↔ ∃ k, k < n ∧ name = Sign.key (k + 1)

end Arguments

/-- The fields of named parameters, of which `before` were named already. -/
def keyed (before : Nat) (parameters : List Datum) : Fields :=
  (parameters.zipIdx (before + 1)).map fun (value, k) => (Sign.key k, value)

theorem keyed_cons (before : Nat) (value : Datum) (rest : List Datum) :
    keyed before (value :: rest) = (Sign.key (before + 1), value) :: keyed (before + 1) rest := rfl

theorem bind_named (parameters : List Datum) :
    bind parameters .named = .named (keyed 0 parameters) := rfl

theorem names_keyed (before : Nat) (parameters : List Datum) :
    (keyed before parameters).names =
      (List.range' (before + 1) parameters.length).map Sign.key := by
  induction parameters generalizing before with
  | nil => rfl
  | cons value rest ih =>
    rw [keyed_cons, List.length_cons, List.range'_succ, List.map_cons, ← ih]
    rfl

/-- A parameter is found under the name of its place. -/
theorem get?_keyed (before : Nat) (parameters : List Datum) (k : Nat) :
    (keyed before parameters).get? (Sign.key (before + k + 1)) = parameters[k]? := by
  induction parameters generalizing before k with
  | nil => rfl
  | cons value rest ih =>
    rw [keyed_cons, Entries.get?, List.find?_cons]
    cases k with
    | zero => simp
    | succ k =>
      have differ : Sign.key (before + 1) ≠ Sign.key (before + (k + 1) + 1) := fun same => by
        have := Sign.key_inj same
        omega
      rw [beq_false_of_ne differ, List.getElem?_cons_succ, ← ih (before + 1) k, Entries.get?]
      simp only [Nat.add_assoc, Nat.add_comm 1 k]

/-- **What is bound is found where it is looked for.** -/
theorem valueOf?_bind (parameters : List Datum) (style : MarkerStyle) (k : Nat) :
    (bind parameters style).valueOf? k = parameters[k]? := by
  cases style with
  | named =>
    rw [bind_named, Arguments.valueOf?]
    have found := get?_keyed 0 parameters k
    rwa [Nat.zero_add] at found
  | _ => rfl

/-- **Nothing else is bound**, and nothing twice. -/
theorem bind_fits (parameters : List Datum) (style : MarkerStyle) :
    (bind parameters style).Fits style parameters.length := by
  cases style with
  | named =>
    rw [bind_named, Arguments.Fits, names_keyed]
    refine ⟨rfl, ?_, fun name => ?_⟩
    · exact List.Pairwise.map _ (fun k m differ same => differ (Sign.key_inj same))
        List.nodup_range'
    · constructor
      · intro h
        obtain ⟨k, hk, rfl⟩ := List.mem_map.mp h
        obtain ⟨i, hi, rfl⟩ := List.mem_range'.mp hk
        exact ⟨i, hi, by simp [Nat.add_comm]⟩
      · rintro ⟨k, hk, rfl⟩
        refine List.mem_map.mpr ⟨k + 1, List.mem_range'.mpr ⟨k, hk, ?_⟩, rfl⟩
        omega
  | _ => exact ⟨by simp, rfl⟩

/-- Parameters fit as many markers as there are of them, and no other number. -/
theorem bind_fits_iff (parameters : List Datum) (style : MarkerStyle) (n : Nat) :
    (bind parameters style).Fits style n ↔ n = parameters.length := by
  constructor
  · intro fits
    cases style with
    | named =>
      obtain ⟨-, -, names⟩ := fits
      obtain ⟨-, -, places⟩ := bind_fits parameters .named
      have same (k : Nat) : k < n ↔ k < parameters.length := by
        constructor
        · intro hk
          obtain ⟨m, hm, key⟩ := (places _).mp ((names (Sign.key (k + 1))).mpr ⟨k, hk, rfl⟩)
          exact Nat.succ.inj (Sign.key_inj key) ▸ hm
        · intro hk
          obtain ⟨m, hm, key⟩ := (names _).mp ((places (Sign.key (k + 1))).mpr ⟨k, hk, rfl⟩)
          exact Nat.succ.inj (Sign.key_inj key) ▸ hm
      have le := same parameters.length
      have ge := same n
      omega
    | _ => exact fits.2.symm
  · rintro rfl
    exact bind_fits parameters style

/-- **Respelling and binding go together.** SQL is respelled by reading it once and writing it in
    the style. That fails for one reason, a marker in a style without markers. Where there is a
    parameter for each marker, the arguments are those that the style wants, and every marker finds
    the parameter of its place. -/
theorem respell_reads_once (sql : String) (style : MarkerStyle) :
    (∀ text, respell sql style = .ok text ↔
      Sign.spell style 0 (Sign.ofSql sql) = some text.toList) ∧
    (∀ fault, respell sql style = .error fault ↔
      ∃ name, style = .other name ∧ fault = .unsupportedMarkers name ∧
        0 < Sign.markers (Sign.ofSql sql)) ∧
    ∀ parameters : List Datum, parameters.length = Sign.markers (Sign.ofSql sql) →
      (bind parameters style).Fits style (Sign.markers (Sign.ofSql sql)) ∧
      ∀ k (h : k < parameters.length),
        (bind parameters style).valueOf? k = some parameters[k] := by
  refine ⟨fun text => ?_, fun fault => ?_, fun parameters same => ⟨?_, fun k h => ?_⟩⟩
  · rw [respell_eq_spell]
    cases Sign.spell style 0 (Sign.ofSql sql) with
    | none => simp [spelled]
    | some written =>
      simp only [spelled, Option.map_some, Option.elim_some, Except.ok.injEq, Option.some.injEq]
      exact ⟨fun h => h ▸ String.toList_ofList.symm, fun h => h ▸ String.ofList_toList⟩
  · have unwritten := spell_eq_none_iff style (Sign.ofSql sql) 0
    rw [respell_eq_spell, Sign.markers, List.count_pos_iff]
    cases hs : Sign.spell style 0 (Sign.ofSql sql) with
    | some written =>
      constructor
      · intro h
        cases h
      · rintro ⟨name, rfl, -, marked⟩
        exact absurd (unwritten.mpr ⟨⟨name, rfl⟩, marked⟩) (by simp [hs])
    | none =>
      obtain ⟨⟨name, rfl⟩, marked⟩ := unwritten.mp hs
      constructor
      · intro h
        cases h
        exact ⟨name, rfl, rfl, marked⟩
      · rintro ⟨other, same, rfl, -⟩
        cases same
        rfl
  · exact same ▸ bind_fits parameters style
  · rw [valueOf?_bind, List.getElem?_eq_getElem h]

/-- The question mark in the literal is none of the markers. -/
theorem respell_reads_once_named :
    respell "VALUES (?, '?', ?)" .named = .ok "VALUES (:p1, '?', :p2)" ∧
    [Datum.int 7, Datum.text "a"].length = Sign.markers (Sign.ofSql "VALUES (?, '?', ?)") ∧
    (bind [.int 7, .text "a"] .named).valueOf? 1 = some (.text "a") := by
  obtain ⟨written, -, bound⟩ := respell_reads_once "VALUES (?, '?', ?)" .named
  have counted : [Datum.int 7, Datum.text "a"].length =
      Sign.markers (Sign.ofSql "VALUES (?, '?', ?)") := by decide +kernel
  exact ⟨(written _).mpr (by decide +kernel), counted, (bound _ counted).2 1 (by decide)⟩

end Marker

end SqlRunner
