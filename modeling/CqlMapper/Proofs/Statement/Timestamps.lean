import CqlMapper.Proofs.Statement.Parts

/-!
Where write statements bind a timestamp. The word before its placeholder occurs once in a statement
that has a timestamp and never in one that has none, whatever its table and columns are called.
-/

namespace CqlMapper

namespace Piece

def timestampWord : Piece := .text "TIMESTAMP "

/-- A piece that leaves no placeholder without a value and no value without a placeholder. -/
def Filled : Piece → Prop
  | .text _ | .bound _ => True
  | .unbound | .surplus _ => False

/-- Pieces that bind this timestamp and no other, at the placeholder after its word, or none. -/
def Dates : Option Int64 → List Piece → Prop
  | none, pieces => timestampWord ∉ pieces
  | some stamp, pieces => ∃ front back,
      pieces = front ++ timestampWord :: .bound (.bigInt stamp) :: back ∧
        (∀ piece ∈ front, piece.Filled) ∧ timestampWord ∉ front ∧ timestampWord ∉ back

theorem silent_of_opening {opening : String} (back : String)
    (differs : opening.toList.isPrefixOf "TIMESTAMP ".toList = false) :
    timestampWord ≠ .text (opening ++ back) := by
  intro same
  injection same with same
  have opens : opening.toList <+: "TIMESTAMP ".toList := by
    rw [same, String.toList_append]
    exact List.prefix_append _ _
  rw [List.isPrefixOf_iff_prefix.mpr opens] at differs
  cases differs

theorem silent_of_ending (front : String) {ending : String}
    (differs : ending.toList.isSuffixOf "TIMESTAMP ".toList = false) :
    timestampWord ≠ .text (front ++ ending) := by
  intro same
  injection same with same
  have ends : ending.toList <:+ "TIMESTAMP ".toList := by
    rw [same, String.toList_append]
    exact List.suffix_append _ _
  rw [List.isSuffixOf_iff_suffix.mpr ends] at differs
  cases differs

theorem silent_text {content : String} (differs : content ≠ "TIMESTAMP ") :
    timestampWord ≠ .text content := by
  intro same
  injection same with same
  exact differs same.symm

theorem silent_pair {content : String} {next : Piece} (silent : timestampWord ≠ .text content)
    (placeholder : ∀ text, next ≠ .text text) : timestampWord ∉ [.text content, next] := by
  intro member
  rcases List.mem_cons.mp member with named | valued
  · exact silent named
  · exact placeholder _ (List.mem_singleton.mp valued).symm

theorem silent_joined {separator : String} (apart : timestampWord ≠ .text separator)
    {parts : List (List Piece)} (silent : ∀ part ∈ parts, timestampWord ∉ part) :
    timestampWord ∉ joined separator parts := by
  induction parts with
  | nil => exact List.not_mem_nil
  | cons part rest ih =>
      obtain ⟨first, others⟩ := List.forall_mem_cons.mp silent
      cases rest with
      | nil => exact first
      | cons next rest =>
          intro member
          rcases List.mem_append.mp member with here | later
          · exact first here
          · rcases List.mem_cons.mp later with separating | further
            · exact apart separating
            · exact ih others further

theorem silent_assignment (column : String) (assignment : Assignment) :
    timestampWord ∉ assignment.pieces column := by
  cases assignment with
  | replace value | add value | subtract value | replaceAt index value =>
      exact silent_pair (silent_of_ending _ rfl) nofun
  | addBefore value =>
      intro member
      rcases List.mem_cons.mp member with named | others
      · exact silent_of_ending _ rfl named
      · rcases List.mem_cons.mp others with valued | again
        · cases valued
        · exact silent_of_opening column rfl (List.mem_singleton.mp again)
  | eraseAt index | erase =>
      intro member
      exact silent_of_ending _ rfl (List.mem_singleton.mp member)

theorem silent_restrictions (columns : List String) (values : List CqlValue) :
    ∀ part ∈ restrictions columns values, timestampWord ∉ part := by
  induction columns generalizing values with
  | nil => exact List.forall_mem_nil _
  | cons column columns ih =>
      have named : timestampWord ≠ .text (column ++ " = ") := silent_of_ending column rfl
      cases values with
      | nil => exact List.forall_mem_cons.mpr ⟨silent_pair named nofun, ih []⟩
      | cons value values => exact List.forall_mem_cons.mpr ⟨silent_pair named nofun, ih values⟩

theorem silent_key (key : KeyClause) : timestampWord ∉ key.pieces := by
  intro member
  rcases List.mem_append.mp member with restricted | surplus
  · exact silent_joined (silent_text (by decide)) (silent_restrictions key.columns key.values)
      restricted
  · obtain ⟨value, _, same⟩ := List.mem_map.mp surplus
    cases same

theorem silent_conditions (conditions : List BoundCondition) :
    timestampWord ∉ conditionPieces conditions := by
  cases conditions with
  | nil => exact List.not_mem_nil
  | cons first rest =>
      have each : ∀ part ∈ (first :: rest).map fun condition =>
          [Piece.text (condition.column ++ " " ++ condition.comparison.symbol ++ " "),
            .bound condition.value], timestampWord ∉ part := by
        rw [List.forall_mem_map]
        intro condition _
        refine silent_pair ?_ nofun
        rw [String.append_assoc]
        cases condition.comparison <;> exact silent_of_ending _ rfl
      intro member
      rcases List.mem_cons.mp member with word | joined
      · exact silent_text (by decide) word
      · exact silent_joined (silent_text (by decide)) each joined

theorem Dates.preceded {stamp : Option Int64} {front pieces : List Piece}
    (dates : Dates stamp pieces) (filled : ∀ piece ∈ front, piece.Filled)
    (silent : timestampWord ∉ front) : Dates stamp (front ++ pieces) := by
  cases stamp with
  | none => exact fun member => (List.mem_append.mp member).elim silent dates
  | some stamp =>
      obtain ⟨first, back, rfl, firstFilled, firstSilent, backSilent⟩ := dates
      refine ⟨front ++ first, back, by rw [List.append_assoc], ?_, ?_, backSilent⟩
      · exact List.forall_mem_append.mpr ⟨filled, firstFilled⟩
      · exact fun member => (List.mem_append.mp member).elim silent firstSilent

theorem Dates.followed {stamp : Option Int64} {pieces back : List Piece}
    (dates : Dates stamp pieces) (silent : timestampWord ∉ back) :
    Dates stamp (pieces ++ back) := by
  cases stamp with
  | none => exact fun member => (List.mem_append.mp member).elim dates silent
  | some stamp =>
      obtain ⟨front, last, rfl, filled, frontSilent, lastSilent⟩ := dates
      refine ⟨front, last ++ back, by simp, filled, frontSilent, ?_⟩
      exact fun member => (List.mem_append.mp member).elim lastSilent silent

theorem dates_options (options : UsingClause) : Dates options.timestamp options.pieces := by
  have usage : timestampWord ≠ .text " USING " := silent_text (by decide)
  have ttl : timestampWord ≠ .text "TTL " := silent_text (by decide)
  have between : timestampWord ≠ .text " AND " := silent_text (by decide)
  obtain ⟨seconds, micros⟩ := options
  cases micros with
  | none =>
      cases seconds with
      | none => exact List.not_mem_nil
      | some seconds => exact List.not_mem_cons_of_ne_of_not_mem usage (silent_pair ttl (by nofun))
  | some micros =>
      cases seconds with
      | none =>
          refine ⟨[.text " USING "], [], rfl, by simp [Filled], ?_, List.not_mem_nil⟩
          exact List.not_mem_cons_of_ne_of_not_mem usage List.not_mem_nil
      | some seconds =>
          have lifetime : timestampWord ∉ [.text "TTL ", .bound (.int seconds), .text " AND "] := by
            refine List.not_mem_cons_of_ne_of_not_mem ttl ?_
            refine List.not_mem_cons_of_ne_of_not_mem (by nofun) ?_
            exact List.not_mem_cons_of_ne_of_not_mem between List.not_mem_nil
          exact ⟨[.text " USING ", .text "TTL ", .bound (.int seconds), .text " AND "], [], rfl,
            by simp [Filled], List.not_mem_cons_of_ne_of_not_mem usage lifetime, List.not_mem_nil⟩

theorem filled_text (content : String) : ∀ piece ∈ [text content], piece.Filled :=
  List.forall_mem_singleton.mpr trivial

theorem filled_values (columns : List (String × CqlValue)) :
    ∀ piece ∈ joined ", " (columns.map fun column => [.bound column.2]), piece.Filled := by
  induction columns with
  | nil => exact List.forall_mem_nil _
  | cons column columns ih =>
      cases columns with
      | nil => exact List.forall_mem_singleton.mpr trivial
      | cons next columns =>
          exact List.forall_mem_cons.mpr ⟨trivial, List.forall_mem_cons.mpr ⟨trivial, ih⟩⟩

end Piece

namespace WriteStatement

open Piece

/-- A statement binds its timestamp once, in its own place, and no other. -/
theorem dates (statement : WriteStatement) : Piece.Dates statement.timestamp? statement.pieces := by
  cases statement with
  | insert table columns ifNotExists options =>
      have opening : timestampWord ≠ .text ("INSERT INTO " ++ table ++ " (" ++
          ", ".intercalate (columns.map (·.1)) ++ ") VALUES (") :=
        silent_of_ending _ rfl
      have listed : timestampWord ∉ joined ", " (columns.map fun column => [.bound column.2]) := by
        refine silent_joined (silent_text (by decide)) ?_
        rw [List.forall_mem_map]
        exact fun column _ member => nomatch List.mem_singleton.mp member
      have closing : timestampWord ≠ .text (if ifNotExists then ") IF NOT EXISTS" else ")") := by
        cases ifNotExists <;> exact silent_text (by decide)
      have closed := (dates_options options).preceded (filled_text _)
        (List.not_mem_cons_of_ne_of_not_mem closing List.not_mem_nil)
      have whole := closed.preceded
        (List.forall_mem_append.mpr ⟨filled_text _, filled_values columns⟩)
        (List.not_mem_cons_of_ne_of_not_mem opening listed)
      simpa [pieces, timestamp?] using whole
  | update table options assignments key conditions =>
      have opening : timestampWord ≠ .text ("UPDATE " ++ table) := silent_of_opening table rfl
      have set : timestampWord ∉
          joined ", " (assignments.map fun entry => entry.2.pieces entry.1) := by
        refine silent_joined (silent_text (by decide)) ?_
        rw [List.forall_mem_map]
        exact fun entry _ => silent_assignment entry.1 entry.2
      have back : timestampWord ∉ .text " SET " :: joined ", "
          (assignments.map fun entry => entry.2.pieces entry.1) ++
          .text " WHERE " :: key.pieces ++ conditionPieces conditions := by
        simp only [List.mem_append, List.mem_cons, not_or]
        exact ⟨⟨⟨silent_text (by decide), set⟩, silent_text (by decide), silent_key key⟩,
          silent_conditions conditions⟩
      have whole := ((dates_options options).preceded (filled_text _)
        (List.not_mem_cons_of_ne_of_not_mem opening List.not_mem_nil)).followed back
      simpa [pieces, timestamp?] using whole
  | delete table timestamp key =>
      have opening : timestampWord ≠ .text ("DELETE FROM " ++ table) := silent_of_opening table rfl
      have back : timestampWord ∉ .text " WHERE " :: key.pieces :=
        List.not_mem_cons_of_ne_of_not_mem (silent_text (by decide)) (silent_key key)
      have whole := ((dates_options ⟨none, timestamp⟩).preceded (filled_text _)
        (List.not_mem_cons_of_ne_of_not_mem opening List.not_mem_nil)).followed back
      simpa [pieces, timestamp?] using whole

end WriteStatement

end CqlMapper
