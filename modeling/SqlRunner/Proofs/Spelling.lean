import SqlRunner.Proofs.Signs

/-!
# Spelling — which SQL a driver's markers can be written in

Respelling fails for one reason: the driver names a style that is unknown, and the SQL has a marker
to spell in it. SQL without markers passes in every style, known or not, and the five known styles
spell everything. `MarkerStyle.spells` is that condition.
-/

set_option autoImplicit false

namespace SqlRunner

/-- Whether the markers of SQL can be spelled in the style. -/
def MarkerStyle.spells (sql : String) : MarkerStyle → Bool
  | other _ => !(Marker.pieces sql.toList).contains .marker
  | question | format | extendedFormat | numeric | named => true

namespace Marker

/-- Cutting SQL into pieces and reading it find the same markers. -/
theorem marker_mem_pieces_iff (sql : String) :
    Piece.marker ∈ pieces sql.toList ↔ Sign.marker ∈ Sign.ofSql sql := by
  have same : (pieces sql.toList).flatMap Piece.signs = Sign.ofSql sql :=
    signs_piecesFrom sql.toList 0
  rw [← same, List.mem_flatMap]
  constructor
  · intro mem
    exact ⟨.marker, mem, List.mem_singleton_self _⟩
  · rintro ⟨piece, mem, sign⟩
    cases piece with
    | marker => exact mem
    | literal text => simp [Piece.signs] at sign
    | percent => simp [Piece.signs] at sign
    | plain c => simp [Piece.signs] at sign

/-- The markers of SQL can be spelled exactly if the SQL can be written. -/
theorem spells_iff (sql : String) (style : MarkerStyle) :
    style.spells sql = true ↔ (Sign.spell style 0 (Sign.ofSql sql)).isSome := by
  rw [← Option.ne_none_iff_isSome, ne_eq, spell_eq_none_iff, ← marker_mem_pieces_iff]
  cases style with
  | other name => simp [MarkerStyle.spells]
  | _ => simp [MarkerStyle.spells]

theorem respell_of_spells {style : MarkerStyle} {sql : String} (h : style.spells sql = true) :
    ∃ text, respell sql style = .ok text := by
  obtain ⟨text, written⟩ := Option.isSome_iff_exists.mp ((spells_iff sql style).mp h)
  refine ⟨String.ofList text, ?_⟩
  rw [respell_eq_spell, written]
  rfl

/-- **The one way in which respelling fails.** -/
theorem respell_of_not_spells {style : MarkerStyle} {sql : String}
    (h : style.spells sql = false) :
    ∃ name, style = .other name ∧ respell sql style = .error (.unsupportedMarkers name) := by
  have unwritten : Sign.spell style 0 (Sign.ofSql sql) = none := by
    rw [← Option.not_isSome_iff_eq_none, ← spells_iff, h]
    decide
  obtain ⟨⟨name, rfl⟩, -⟩ := (spell_eq_none_iff style _ 0).mp unwritten
  refine ⟨name, rfl, ?_⟩
  rw [respell_eq_spell, unwritten]
  rfl

end Marker

end SqlRunner
