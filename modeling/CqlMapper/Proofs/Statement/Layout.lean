import CqlMapper.Statement.Basic
import CqlMapper.Proofs.Outcome

/-!
Write statements as rows of clauses, each a text together with the values for its placeholders. The
query is the texts one after the other and the bound values are those of the clauses, so that
placeholders and values line up from left to right.
-/

namespace CqlMapper

structure Clause where
  text : String
  values : List CqlValue

namespace Clause

abbrev Balanced (clause : Clause) : Prop :=
  placeholderCount clause.text = clause.values.length

def after (lead : String) (clause : Clause) : Clause :=
  ⟨lead ++ clause.text, clause.values⟩

def led (first between : String) : List Clause → List Clause
  | [] => []
  | clause :: rest => clause.after first :: rest.map (after between)

end Clause

def Assignment.clause (column : String) : Assignment → Clause
  | .replace value => ⟨column ++ " = ?", [value]⟩
  | .add value => ⟨column ++ " = " ++ column ++ " + ?", [value]⟩
  | .subtract value => ⟨column ++ " = " ++ column ++ " - ?", [value]⟩
  | .addBefore value => ⟨column ++ " = ? + " ++ column, [value]⟩
  | .replaceAt index value => ⟨column ++ "[" ++ Text.shownNat index ++ "] = ?", [value]⟩
  | .eraseAt index => ⟨column ++ "[" ++ Text.shownNat index ++ "] = null", []⟩
  | .erase => ⟨column ++ " = null", []⟩

def UsingClause.clauses (options : UsingClause) : List Clause :=
  Clause.led " USING " " AND "
    ((options.ttl.toList.map fun seconds => ⟨"TTL ?", [.int seconds]⟩) ++
      options.timestamp.toList.map fun micros => ⟨"TIMESTAMP ?", [.bigInt micros]⟩)

def KeyClause.clauses (key : KeyClause) : List Clause :=
  Clause.led " WHERE " " AND "
    ((key.columns.zip key.values).map fun entry => ⟨entry.1 ++ " = ?", [entry.2]⟩)

def BoundCondition.clause (condition : BoundCondition) : Clause :=
  ⟨condition.column ++ " " ++ condition.comparison.symbol ++ " ?", [condition.value]⟩

def WriteStatement.clauses : WriteStatement → List Clause
  | .insert table columns ifNotExists options =>
    ⟨"INSERT INTO " ++ table ++ " (" ++ ", ".intercalate (columns.map (·.1)) ++ ") VALUES (", []⟩ ::
      Clause.led "" ", " (columns.map fun column => ⟨"?", [column.2]⟩) ++
      ⟨if ifNotExists then ") IF NOT EXISTS" else ")", []⟩ :: options.clauses
  | .update table options assignments key conditions =>
    ⟨"UPDATE " ++ table, []⟩ :: options.clauses ++
      Clause.led " SET " ", " (assignments.map fun entry => entry.2.clause entry.1) ++
      key.clauses ++ Clause.led " IF " " AND " (conditions.map BoundCondition.clause)
  | .delete table timestamp key =>
    ⟨"DELETE FROM " ++ table, []⟩ :: UsingClause.clauses ⟨none, timestamp⟩ ++ key.clauses

namespace Piece

def Spells (pieces : List Piece) (clauses : List Clause) : Prop :=
  String.join (pieces.map query) = String.join (clauses.map (·.text)) ∧
    pieces.filterMap value? = clauses.flatMap (·.values)

variable {pieces others : List Piece} {clauses rest : List Clause}

theorem Spells.nil : Spells [] [] :=
  ⟨rfl, rfl⟩

theorem Spells.append (first : Spells pieces clauses) (second : Spells others rest) :
    Spells (pieces ++ others) (clauses ++ rest) := by
  refine ⟨?_, ?_⟩
  · rw [List.map_append, List.map_append, String.join_append, String.join_append, first.1, second.1]
  · rw [List.filterMap_append, List.flatMap_append, first.2, second.2]

theorem Spells.text (content : String) : Spells [.text content] [⟨content, []⟩] :=
  ⟨rfl, rfl⟩

theorem Spells.after {clause : Clause} (lead : String) (spells : Spells pieces [clause]) :
    Spells (.text lead :: pieces) [clause.after lead] := by
  refine ⟨?_, ?_⟩
  · have whole := spells.1
    simp only [List.map_cons, List.map_nil, String.join_cons, String.join_nil] at whole ⊢
    rw [whole, ← String.append_assoc]
    rfl
  · exact spells.2

theorem Spells.joined {parts : List (List Piece)} (first between : String)
    (each : List.Forall₂ (fun part clause => Spells part [clause]) parts clauses)
    (present : parts ≠ []) :
    Spells (.text first :: Piece.joined between parts) (Clause.led first between clauses) := by
  induction each generalizing first with
  | nil => exact absurd rfl present
  | @cons part clause parts clauses spells each ih =>
      cases each with
      | nil => exact spells.after first
      | @cons next nextClause parts clauses nextSpells each =>
          have rest := ih between (List.cons_ne_nil _ _)
          exact (spells.after first).append rest

theorem forall₂_spells {α : Type} {part : α → List Piece} {clause : α → Clause}
    (spells : ∀ item, Spells (part item) [clause item]) (items : List α) :
    List.Forall₂ (fun part clause => Spells part [clause]) (items.map part)
      (items.map clause) := by
  rw [List.forall₂_map_left_iff, List.forall₂_map_right_iff, List.forall₂_same]
  exact fun item _ => spells item

theorem spells_assignment (column : String) (assignment : Assignment) :
    Spells (assignment.pieces column) [assignment.clause column] := by
  cases assignment <;> refine ⟨?_, rfl⟩ <;>
    simp [Assignment.pieces, Assignment.clause, query, ← String.toList_inj]

theorem spells_condition (condition : BoundCondition) :
    Spells [.text (condition.column ++ " " ++ condition.comparison.symbol ++ " "),
      .bound condition.value] [condition.clause] := by
  refine ⟨?_, rfl⟩
  simp [BoundCondition.clause, query, ← String.toList_inj]

theorem spells_restriction (column : String) (value : CqlValue) :
    Spells [.text (column ++ " = "), .bound value] [⟨column ++ " = ?", [value]⟩] := by
  refine ⟨?_, rfl⟩
  simp [query, ← String.toList_inj]

theorem spells_options (options : UsingClause) : Spells options.pieces options.clauses := by
  have ttl (seconds : Int32) :
      Spells [.text "TTL ", .bound (.int seconds)] [⟨"TTL ?", [.int seconds]⟩] :=
    ⟨rfl, rfl⟩
  have timestamp (micros : Int64) :
      Spells [.text "TIMESTAMP ", .bound (.bigInt micros)] [⟨"TIMESTAMP ?", [.bigInt micros]⟩] :=
    ⟨rfl, rfl⟩
  obtain ⟨seconds, micros⟩ := options
  cases seconds with
  | none =>
      cases micros with
      | none => exact .nil
      | some micros =>
          exact .joined " USING " " AND " (.cons (timestamp micros) .nil) (List.cons_ne_nil _ _)
  | some seconds =>
      cases micros with
      | none => exact .joined " USING " " AND " (.cons (ttl seconds) .nil) (List.cons_ne_nil _ _)
      | some micros =>
          exact .joined " USING " " AND " (.cons (ttl seconds) (.cons (timestamp micros) .nil))
            (List.cons_ne_nil _ _)

theorem spells_key {key : KeyClause} (complete : key.columns.length = key.values.length)
    (present : key.columns ≠ []) : Spells (.text " WHERE " :: key.pieces) key.clauses := by
  obtain ⟨columns, values⟩ := key
  have each : List.Forall₂ (fun part clause => Spells part [clause])
      (restrictions columns values)
      ((columns.zip values).map fun entry => (⟨entry.1 ++ " = ?", [entry.2]⟩ : Clause)) := by
    clear present
    induction columns generalizing values with
    | nil => exact .nil
    | cons column columns ih =>
        cases values with
        | nil => cases complete
        | cons value values =>
            exact .cons (spells_restriction column value) (ih values (Nat.succ.inj complete))
  have restricted : restrictions columns values ≠ [] := by
    cases columns with
    | nil => exact absurd rfl present
    | cons column columns => cases values <;> exact List.cons_ne_nil _ _
  have surplus : values.drop columns.length = [] :=
    List.drop_eq_nil_of_le (Nat.le_of_eq complete.symm)
  simp only [KeyClause.pieces, surplus, List.map_nil, List.append_nil]
  exact .joined " WHERE " " AND " each restricted

theorem spells_conditions (conditions : List BoundCondition) :
    Spells (conditionPieces conditions)
      (Clause.led " IF " " AND " (conditions.map BoundCondition.clause)) := by
  cases conditions with
  | nil => exact .nil
  | cons condition conditions =>
      exact .joined " IF " " AND " (forall₂_spells spells_condition _) (by simp)

theorem spells_assignments {assignments : List (String × Assignment)} (present : assignments ≠ []) :
    Spells (.text " SET " :: joined ", " (assignments.map fun entry => entry.2.pieces entry.1))
      (Clause.led " SET " ", " (assignments.map fun entry => entry.2.clause entry.1)) := by
  have each (entry : String × Assignment) :
      Spells (entry.2.pieces entry.1) [entry.2.clause entry.1] :=
    spells_assignment entry.1 entry.2
  exact .joined " SET " ", " (forall₂_spells each assignments) (by simpa using present)

theorem spells_values (columns : List (String × CqlValue)) :
    Spells (joined ", " (columns.map fun column => [.bound column.2]))
      (Clause.led "" ", " (columns.map fun column => ⟨"?", [column.2]⟩)) := by
  cases columns with
  | nil => exact .nil
  | cons column columns =>
      have each (column : String × CqlValue) : Spells [.bound column.2] [⟨"?", [column.2]⟩] :=
        ⟨rfl, rfl⟩
      have spells := Spells.joined "" ", " (forall₂_spells each (column :: columns)) (by simp)
      -- The columns of VALUES have no word before them, hence no empty text before their pieces.
      have silent (pieces : List Piece) :
          String.join (pieces.map query) = String.join ((.text "" :: pieces).map query) := by
        rw [List.map_cons, String.join_cons]
        exact String.empty_append.symm
      exact ⟨(silent _).trans spells.1, spells.2⟩

end Piece

def KeyClause.Complete (key : KeyClause) : Prop :=
  key.columns ≠ [] ∧ key.columns.length = key.values.length

namespace WriteStatement

/-- A statement with something to set, where it sets, and a complete key, where it has one. -/
def Complete : WriteStatement → Prop
  | .insert _ _ _ _ => True
  | .update _ _ assignments key _ => assignments ≠ [] ∧ key.Complete
  | .delete _ _ key => key.Complete

theorem spells_pieces {statement : WriteStatement} (complete : statement.Complete) :
    Piece.Spells statement.pieces statement.clauses := by
  cases statement with
  | insert table columns ifNotExists options =>
      have head (content : String) :=
        (Piece.Spells.text content).append (Piece.spells_values columns)
      have tail (content : String) :=
        (Piece.Spells.text content).append (Piece.spells_options options)
      exact (head _).append (tail _)
  | update table options assignments key conditions =>
      obtain ⟨set, named, valued⟩ := complete
      have head := (Piece.Spells.text ("UPDATE " ++ table)).append (Piece.spells_options options)
      exact ((head.append (Piece.spells_assignments set)).append
        (Piece.spells_key valued named)).append (Piece.spells_conditions conditions)
  | delete table timestamp key =>
      obtain ⟨named, valued⟩ := complete
      have head := (Piece.Spells.text ("DELETE FROM " ++ table)).append
        (Piece.spells_options ⟨none, timestamp⟩)
      exact head.append (Piece.spells_key valued named)

end WriteStatement

theorem placeholderCount_append (front back : String) :
    placeholderCount (front ++ back) = placeholderCount front + placeholderCount back := by
  simp [placeholderCount]

abbrev Unmarked (name : String) : Prop :=
  placeholderCount name = 0

theorem unmarked_iff {name : String} : Unmarked name ↔ '?' ∉ name.toList :=
  List.count_eq_zero

theorem isDigit_of_mem_shownNat {value : Nat} {char : Char}
    (member : char ∈ (Text.shownNat value).toList) : char.isDigit = true := by
  have digits : (Text.shownNat value).toList = Nat.toDigits 10 value := Nat.toList_repr
  rw [digits] at member
  exact Nat.isDigit_of_mem_toDigits (by decide) (by decide) member

theorem unmarked_shownNat (value : Nat) : Unmarked (Text.shownNat value) := by
  rw [unmarked_iff]
  intro member
  exact absurd (isDigit_of_mem_shownNat member) (by decide)

theorem unmarked_symbol (comparison : Comparison) : Unmarked comparison.symbol := by
  cases comparison <;> rfl

theorem unmarked_intercalate {separator : String} (apart : Unmarked separator)
    {names : List String} (plain : ∀ name ∈ names, Unmarked name) :
    Unmarked (separator.intercalate names) := by
  induction names with
  | nil => rfl
  | cons name names ih =>
      obtain ⟨first, rest⟩ := List.forall_mem_cons.mp plain
      cases names with
      | nil => exact first
      | cons next names =>
          rw [Unmarked, String.intercalate_cons_cons, placeholderCount_append,
            placeholderCount_append, first, apart, ih rest]

namespace Clause

theorem Balanced.after {clause : Clause} {lead : String} (balanced : clause.Balanced)
    (unmarked : Unmarked lead) : (clause.after lead).Balanced := by
  rw [Balanced, Clause.after, placeholderCount_append, unmarked, balanced, Nat.zero_add]

theorem balanced_named {lead name : String} (keyword : Unmarked lead) (named : Unmarked name) :
    Balanced ⟨lead ++ name, []⟩ := by
  rw [Balanced, placeholderCount_append, keyword, named]
  rfl

theorem balanced_one {text : String} (value : CqlValue) (one : placeholderCount text = 1) :
    Balanced ⟨text, [value]⟩ :=
  one

theorem led_balanced (first between : String) {clauses : List Clause}
    (opening : Unmarked first) (further : Unmarked between)
    (balanced : ∀ clause ∈ clauses, clause.Balanced) :
    ∀ clause ∈ led first between clauses, clause.Balanced := by
  cases clauses with
  | nil => exact balanced
  | cons clause clauses =>
      obtain ⟨head, rest⟩ := List.forall_mem_cons.mp balanced
      refine List.forall_mem_cons.mpr ⟨head.after opening, ?_⟩
      rw [List.forall_mem_map]
      exact fun clause member => (rest clause member).after further

theorem placeholderCount_join {clauses : List Clause}
    (balanced : ∀ clause ∈ clauses, clause.Balanced) :
    placeholderCount (String.join (clauses.map (·.text))) =
      (clauses.flatMap (·.values)).length := by
  induction clauses with
  | nil => rfl
  | cons clause clauses ih =>
      obtain ⟨head, rest⟩ := List.forall_mem_cons.mp balanced
      rw [List.map_cons, String.join_cons, placeholderCount_append, head, ih rest,
        List.flatMap_cons, List.length_append]

end Clause

theorem Assignment.clause_balanced {column : String} (unmarked : Unmarked column)
    (assignment : Assignment) : (assignment.clause column).Balanced := by
  cases assignment with
  | replaceAt index value | eraseAt index =>
      have number := unmarked_shownNat index
      simp only [Clause.Balanced, Assignment.clause, placeholderCount_append]
      rw [unmarked, number]
      rfl
  | _ =>
      simp only [Clause.Balanced, Assignment.clause, placeholderCount_append]
      rw [unmarked]
      rfl

theorem UsingClause.clauses_balanced (options : UsingClause) :
    ∀ clause ∈ options.clauses, clause.Balanced := by
  apply Clause.led_balanced _ _ rfl rfl
  intro clause member
  rcases List.mem_append.mp member with ttl | timestamp
  · obtain ⟨seconds, _, rfl⟩ := List.mem_map.mp ttl
    exact Clause.balanced_one _ rfl
  · obtain ⟨micros, _, rfl⟩ := List.mem_map.mp timestamp
    exact Clause.balanced_one _ rfl

theorem KeyClause.clauses_balanced {key : KeyClause}
    (unmarked : ∀ name ∈ key.columns, Unmarked name) : ∀ clause ∈ key.clauses, clause.Balanced := by
  apply Clause.led_balanced _ _ rfl rfl
  rw [List.forall_mem_map]
  intro entry member
  have column := unmarked entry.1 (List.of_mem_zip member).1
  simp only [Clause.Balanced, placeholderCount_append]
  rw [column]
  rfl

theorem BoundCondition.clause_balanced {condition : BoundCondition}
    (unmarked : Unmarked condition.column) : condition.clause.Balanced := by
  have symbol := unmarked_symbol condition.comparison
  simp only [Clause.Balanced, BoundCondition.clause, placeholderCount_append]
  rw [unmarked, symbol]
  rfl

namespace WriteStatement

def names : WriteStatement → List String
  | .insert table columns _ _ => table :: columns.map (·.1)
  | .update table _ assignments key conditions =>
    table :: (assignments.map (·.1) ++ key.columns ++ conditions.map (·.column))
  | .delete table _ key => table :: key.columns

theorem clauses_balanced {statement : WriteStatement}
    (unmarked : ∀ name ∈ statement.names, Unmarked name) :
    ∀ clause ∈ statement.clauses, clause.Balanced := by
  cases statement with
  | insert table columns ifNotExists options =>
      obtain ⟨tableName, columnNames⟩ := List.forall_mem_cons.mp unmarked
      have listed : Unmarked (", ".intercalate (columns.map (·.1))) :=
        unmarked_intercalate rfl columnNames
      have head : Clause.Balanced ⟨"INSERT INTO " ++ table ++ " (" ++
          ", ".intercalate (columns.map (·.1)) ++ ") VALUES (", []⟩ := by
        simp only [Clause.Balanced, placeholderCount_append]
        rw [tableName, listed]
        rfl
      have items : ∀ clause ∈ columns.map fun column => (⟨"?", [column.2]⟩ : Clause),
          clause.Balanced := by
        rw [List.forall_mem_map]
        exact fun _ _ => Clause.balanced_one _ rfl
      have guarded : Clause.Balanced ⟨if ifNotExists then ") IF NOT EXISTS" else ")", []⟩ := by
        cases ifNotExists <;> rfl
      have front := List.forall_mem_cons.mpr ⟨head, Clause.led_balanced "" ", " rfl rfl items⟩
      have back := List.forall_mem_cons.mpr ⟨guarded, options.clauses_balanced⟩
      exact List.forall_mem_append.mpr ⟨front, back⟩
  | update table options assignments key conditions =>
      obtain ⟨tableName, others⟩ := List.forall_mem_cons.mp unmarked
      obtain ⟨columnNames, conditionNames⟩ := List.forall_mem_append.mp others
      obtain ⟨setNames, keyNames⟩ := List.forall_mem_append.mp columnNames
      have head : Clause.Balanced ⟨"UPDATE " ++ table, []⟩ := Clause.balanced_named rfl tableName
      have set : ∀ clause ∈ assignments.map fun entry => entry.2.clause entry.1,
          clause.Balanced := by
        rw [List.forall_mem_map] at setNames ⊢
        exact fun entry member => entry.2.clause_balanced (setNames entry member)
      have conditional : ∀ clause ∈ conditions.map BoundCondition.clause, clause.Balanced := by
        rw [List.forall_mem_map] at conditionNames ⊢
        exact fun condition member =>
          BoundCondition.clause_balanced (conditionNames condition member)
      have front := List.forall_mem_cons.mpr ⟨head, options.clauses_balanced⟩
      have middle :=
        List.forall_mem_append.mpr ⟨front, Clause.led_balanced " SET " ", " rfl rfl set⟩
      have keyed := List.forall_mem_append.mpr ⟨middle, KeyClause.clauses_balanced keyNames⟩
      exact List.forall_mem_append.mpr
        ⟨keyed, Clause.led_balanced " IF " " AND " rfl rfl conditional⟩
  | delete table timestamp key =>
      obtain ⟨tableName, keyNames⟩ := List.forall_mem_cons.mp unmarked
      have head : Clause.Balanced ⟨"DELETE FROM " ++ table, []⟩ :=
        Clause.balanced_named rfl tableName
      have front := List.forall_mem_cons.mpr ⟨head, UsingClause.clauses_balanced ⟨none, timestamp⟩⟩
      exact List.forall_mem_append.mpr ⟨front, KeyClause.clauses_balanced keyNames⟩

end WriteStatement

def UsingClause.values (options : UsingClause) : List CqlValue :=
  options.ttl.toList.map .int ++ options.timestamp.toList.map .bigInt

def Assignment.values : Assignment → List CqlValue
  | .replace value | .add value | .subtract value | .addBefore value | .replaceAt _ value => [value]
  | .eraseAt _ | .erase => []

/-- The values of USING, SET, the key and the conditions, or of the listed columns and USING. -/
def WriteStatement.arguments : WriteStatement → List CqlValue
  | .insert _ columns _ options => columns.map (·.2) ++ options.values
  | .update _ options assignments key conditions =>
    options.values ++ assignments.flatMap (·.2.values) ++ key.values ++ conditions.map (·.value)
  | .delete _ timestamp key => UsingClause.values ⟨none, timestamp⟩ ++ key.values

theorem Clause.values_led (first between : String) (clauses : List Clause) :
    (led first between clauses).flatMap (·.values) = clauses.flatMap (·.values) := by
  cases clauses with
  | nil => rfl
  | cons clause clauses =>
      rw [led, List.flatMap_cons, List.flatMap_cons, List.flatMap_map]
      rfl

theorem UsingClause.values_clauses (options : UsingClause) :
    options.clauses.flatMap (·.values) = options.values := by
  obtain ⟨ttl, timestamp⟩ := options
  cases ttl <;> cases timestamp <;> rfl

theorem KeyClause.values_clauses {key : KeyClause}
    (complete : key.columns.length = key.values.length) :
    key.clauses.flatMap (·.values) = key.values := by
  rw [clauses, Clause.values_led, List.flatMap_map, ← List.map_eq_flatMap]
  exact List.map_snd_zip (Nat.le_of_eq complete.symm)

namespace WriteStatement

theorem values_clauses {statement : WriteStatement} (complete : statement.Complete) :
    statement.clauses.flatMap (·.values) = statement.arguments := by
  cases statement with
  | insert table columns ifNotExists options =>
      simp only [clauses, arguments, List.flatMap_append, List.flatMap_cons, List.nil_append,
        Clause.values_led, List.flatMap_map, options.values_clauses, ← List.map_eq_flatMap]
  | update table options assignments key conditions =>
      have assigned (column : String) (assignment : Assignment) :
          (assignment.clause column).values = assignment.values := by
        cases assignment <;> rfl
      simp only [clauses, arguments, List.flatMap_append, List.flatMap_cons, List.nil_append,
        Clause.values_led, List.flatMap_map, options.values_clauses, assigned,
        KeyClause.values_clauses complete.2.2, BoundCondition.clause, ← List.map_eq_flatMap]
  | delete table timestamp key =>
      simp only [clauses, arguments, List.flatMap_append, List.flatMap_cons, List.nil_append,
        UsingClause.values_clauses, KeyClause.values_clauses complete.2]

/-- Placeholders and bound values line up, clause by clause and in number. -/
structure LinesUp (statement : WriteStatement) : Prop where
  complete : statement.Complete
  query : statement.query = String.join (statement.clauses.map (·.text))
  values : statement.values = statement.clauses.flatMap (·.values)
  balanced : ∀ clause ∈ statement.clauses, clause.Balanced
  count : placeholderCount statement.query = statement.values.length
  arguments : statement.values = statement.arguments

theorem linesUp {statement : WriteStatement} (complete : statement.Complete)
    (unmarked : ∀ name ∈ statement.names, Unmarked name) : statement.LinesUp := by
  obtain ⟨query, values⟩ := spells_pieces complete
  have balanced := clauses_balanced unmarked
  refine ⟨complete, query, values, balanced, ?_, values.trans (values_clauses complete)⟩
  change placeholderCount (String.join (statement.pieces.map Piece.query)) =
    (statement.pieces.filterMap Piece.value?).length
  rw [query, values]
  exact Clause.placeholderCount_join balanced

end WriteStatement

end CqlMapper
