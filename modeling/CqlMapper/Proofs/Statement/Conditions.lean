import CqlMapper.Conditional.Response
import CqlMapper.Proofs.Statement.Parts

/-!
Statements with conditions are known by their queries: whatever they write to, the word before the
conditions is in the text.
-/

namespace CqlMapper

namespace Text

theorem occursIn_iff {pattern text : List Char} :
    occursIn pattern text = true ↔ pattern <:+: text := by
  induction text with
  | nil => simp [occursIn]
  | cons first rest ih =>
      rw [occursIn, Bool.or_eq_true, List.isPrefixOf_iff_prefix, ih, List.infix_cons_iff]

theorem contains_iff {text pattern : String} :
    contains text pattern = true ↔ pattern.toList <:+: text.toList :=
  occursIn_iff

end Text

theorem WriteStatement.isConditionalQuery_of_conditions {statement : WriteStatement}
    (conditional : statement.conditions ≠ []) : isConditionalQuery statement.query = true := by
  have word : .text " IF " ∈ statement.pieces := by
    cases statement with
    | insert | delete => exact absurd rfl conditional
    | update table options assignments key conditions =>
        cases conditions with
        | nil => exact absurd rfl conditional
        | cons first rest => simp [pieces, conditionPieces]
  obtain ⟨front, back, split⟩ := List.append_of_mem word
  have text : statement.query =
      String.join (front.map Piece.query) ++ (" IF " ++ String.join (back.map Piece.query)) := by
    rw [query, split, List.map_append, String.join_append, List.map_cons, String.join_cons]
    rfl
  rw [isConditionalQuery, Text.contains_iff, text, String.toList_append, String.toList_append]
  exact List.infix_append' _ _ _

end CqlMapper
