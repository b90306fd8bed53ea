import CqlMapper.Proofs.Statement.Isolation
import CqlMapper.Proofs.Statement.Words

/-!
The words of write statements. As long as no name is the word that opens conditions, a query has
that word exactly if its statement is guarded, and then once.
-/

namespace CqlMapper

open Text

structure PlainWord (name : String) : Prop where
  unbroken : Unbroken name
  notIf : name ≠ "IF"

theorem PlainWord.lacks {name : String} (plain : PlainWord name) : Lacks name "IF" :=
  (lacks_unbroken plain.unbroken).mpr plain.notIf.symm

namespace WriteStatement

def isGuarded : WriteStatement → Bool
  | .insert _ _ ifNotExists _ => ifNotExists
  | .update _ _ _ _ conditions => !conditions.isEmpty
  | .delete _ _ _ => false

def isInsert : WriteStatement → Bool
  | .insert _ _ _ _ => true
  | .update _ _ _ _ _ | .delete _ _ _ => false

def isUpdate : WriteStatement → Bool
  | .update _ _ _ _ _ => true
  | .insert _ _ _ _ | .delete _ _ _ => false

def kind (statement : WriteStatement) : ConditionalKind :=
  if statement.isInsert then .insert else .update

end WriteStatement

theorem lacks_enumeration {parts : List String} (lacks : ∀ part ∈ parts, Lacks part "IF") :
    Lacks (", ".intercalate parts) "IF" := by
  apply lacks_intercalate (by decide) _ lacks
  intro front back left right
  have ended : Lacks (front ++ ",") "IF" :=
    left.append (by decide) (List.mem_singleton.mpr rfl) (by decide)
  have spaced := (lacks_space (front ++ ",") back).mpr ⟨ended, right⟩
  rw [String.append_assoc] at spaced ⊢
  exact spaced

theorem lacks_conjunction {parts : List String} (lacks : ∀ part ∈ parts, Lacks part "IF") :
    Lacks (" AND ".intercalate parts) "IF" := by
  have unbroken : Unbroken "AND" := by decide
  apply lacks_intercalate (by decide) _ lacks
  intro front back left right
  exact (lacks_keyword front back unbroken).mpr ⟨left, by decide, right⟩

theorem unbroken_shownNat (value : Nat) : Unbroken (shownNat value) := by
  intro member
  exact absurd (isDigit_of_mem_shownNat member) (by decide)

/-- The text of an assignment is its column, a space, and then anything but conditions. -/
theorem Assignment.lacks {column : String} (plain : PlainWord column) (assignment : Assignment) :
    Lacks (assignment.clause column).text "IF" := by
  have named := plain.lacks
  have assigned (value : String) (lacks : Lacks value "IF") :
      Lacks (column ++ " = " ++ value) "IF" := by
    have unbroken : Unbroken "=" := by decide
    exact (lacks_keyword column value unbroken).mpr ⟨named, by decide, lacks⟩
  have item (index : Nat) : Lacks (column ++ ("[" ++ shownNat index ++ "]")) "IF" := by
    have digits := unbroken_shownNat index
    refine named.append ?_ (?_ : '[' ∈ _) (by decide)
    · simpa [Unbroken] using digits
    · simp
  cases assignment with
  | replace value => exact (lacks_space column "= ?").mpr ⟨named, by decide⟩
  | erase => exact (lacks_space column "= null").mpr ⟨named, by decide⟩
  | add value =>
      have spaced := assigned _ ((lacks_space column "+ ?").mpr ⟨named, by decide⟩)
      rw [← String.append_assoc] at spaced
      exact spaced
  | subtract value =>
      have spaced := assigned _ ((lacks_space column "- ?").mpr ⟨named, by decide⟩)
      rw [← String.append_assoc] at spaced
      exact spaced
  | addBefore value =>
      have spaced := assigned _ ((lacks_space "? +" column).mpr ⟨by decide, named⟩)
      rw [String.append_assoc] at spaced
      change Lacks (column ++ " = ? + " ++ column) "IF"
      rw [String.append_assoc]
      exact spaced
  | replaceAt index value =>
      have spaced := (lacks_space _ "= ?").mpr ⟨item index, by decide⟩
      change Lacks (column ++ "[" ++ shownNat index ++ ("]" ++ (" " ++ "= ?"))) "IF"
      simpa only [String.append_assoc] using spaced
  | eraseAt index =>
      have spaced := (lacks_space _ "= null").mpr ⟨item index, by decide⟩
      change Lacks (column ++ "[" ++ shownNat index ++ ("]" ++ (" " ++ "= null"))) "IF"
      simpa only [String.append_assoc] using spaced

namespace UsingClause

def query (clause : UsingClause) : String :=
  String.join (clause.pieces.map Piece.query)

theorem lacks (clause : UsingClause) {front : String} (lacks : Lacks front "IF") :
    Lacks (front ++ clause.query) "IF" := by
  obtain ⟨ttl, timestamp⟩ := clause
  cases ttl with
  | none =>
      cases timestamp with
      | none => simpa [query, pieces] using lacks
      | some micros => exact (lacks_space front "USING TIMESTAMP ?").mpr ⟨lacks, by decide⟩
  | some seconds =>
      cases timestamp with
      | none => exact (lacks_space front "USING TTL ?").mpr ⟨lacks, by decide⟩
      | some micros =>
          exact (lacks_space front "USING TTL ? AND TIMESTAMP ?").mpr ⟨lacks, by decide⟩

end UsingClause

namespace BoundCondition

variable {condition : BoundCondition}

theorem words_clause (plain : PlainWord condition.column) :
    words condition.clause.text = [condition.column, condition.comparison.symbol, "?"] := by
  have symbol : Unbroken condition.comparison.symbol := by cases condition.comparison <;> decide
  change words (condition.column ++ " " ++ condition.comparison.symbol ++ (" " ++ "?")) = _
  rw [← String.append_assoc, words_append_space, words_append_space,
    words_of_unbroken plain.unbroken, words_of_unbroken symbol]
  rfl

theorem lacks (plain : PlainWord condition.column) : Lacks condition.clause.text "IF" := by
  have symbol : "IF" ≠ condition.comparison.symbol := by cases condition.comparison <;> decide
  rw [Lacks, words_clause plain, List.mem_cons, List.mem_cons]
  simp [plain.notIf.symm, symbol]

end BoundCondition

namespace WriteStatement

theorem query_insert (table : String) (columns : List (String × CqlValue)) (ifNotExists : Bool)
    (options : UsingClause) :
    (insert table columns ifNotExists options).query =
      "INSERT INTO " ++ table ++ " (" ++ ", ".intercalate (columns.map (·.1)) ++ ") VALUES (" ++
        ", ".intercalate (columns.map fun _ => "?") ++
        (if ifNotExists then ") IF NOT EXISTS" else ")") ++ options.query := by
  have bound : (columns.map fun column => [Piece.bound column.2]).map
      (fun part => String.join (part.map Piece.query)) = columns.map fun _ => "?" := by
    rw [List.map_map]
    rfl
  simp only [query, pieces, UsingClause.query, List.cons_append, List.map_cons, List.map_append,
    String.join_cons, String.join_append, KeyClause.query_joined, bound, Piece.query,
    String.append_assoc]

def unconditional (table : String) (options : UsingClause)
    (assignments : List (String × Assignment)) (key : KeyClause) : String :=
  "UPDATE " ++ table ++ options.query ++ " SET " ++
    ", ".intercalate (assignments.map fun entry => (entry.2.clause entry.1).text) ++
    " WHERE " ++ " AND ".intercalate (key.columns.map fun column => column ++ " = ?")

theorem query_conditions (first : BoundCondition) (others : List BoundCondition) :
    String.join ((conditionPieces (first :: others)).map Piece.query) =
      " IF " ++ " AND ".intercalate ((first :: others).map (·.clause.text)) := by
  have spelled : ((first :: others).map fun condition =>
      [Piece.text (condition.column ++ " " ++ condition.comparison.symbol ++ " "),
        .bound condition.value]).map (fun part => String.join (part.map Piece.query)) =
      (first :: others).map (·.clause.text) := by
    rw [List.map_map]
    apply List.map_congr_left
    intro condition _
    simpa using (Piece.spells_condition condition).1
  rw [conditionPieces, List.map_cons, String.join_cons, KeyClause.query_joined, spelled,
    Piece.query]
  exact List.cons_ne_nil _ _

theorem query_update (table : String) (options : UsingClause)
    (assignments : List (String × Assignment)) (key : KeyClause)
    (conditions : List BoundCondition) :
    (update table options assignments key conditions).query =
      unconditional table options assignments key ++
        String.join ((conditionPieces conditions).map Piece.query) := by
  have assigned : (assignments.map fun entry => entry.2.pieces entry.1).map
      (fun part => String.join (part.map Piece.query)) =
      assignments.map fun entry => (entry.2.clause entry.1).text := by
    rw [List.map_map]
    apply List.map_congr_left
    intro entry _
    simpa using (Piece.spells_assignment entry.1 entry.2).1
  simp only [query, pieces, unconditional, UsingClause.query, List.cons_append, List.map_cons,
    List.map_append, List.append_assoc, String.join_cons, String.join_append,
    KeyClause.query_joined, KeyClause.query_pieces, assigned, Piece.query, String.append_assoc]

theorem query_delete (table : String) (timestamp : Option Int64) (key : KeyClause) :
    (delete table timestamp key).query =
      "DELETE FROM " ++ table ++ UsingClause.query ⟨none, timestamp⟩ ++
        " WHERE " ++ " AND ".intercalate (key.columns.map fun column => column ++ " = ?") := by
  simp only [query, pieces, UsingClause.query, List.cons_append, List.map_cons, List.map_append,
    String.join_cons, String.join_append, KeyClause.query_pieces, Piece.query, String.append_assoc]

theorem lacks_restrictions {columns : List String} (plain : ∀ column ∈ columns, PlainWord column) :
    Lacks (" AND ".intercalate (columns.map fun column => column ++ " = ?")) "IF" := by
  apply lacks_conjunction
  rw [List.forall_mem_map]
  intro column member
  exact (lacks_space column "= ?").mpr ⟨(plain column member).lacks, by decide⟩

theorem lacks_unconditional {table : String} (options : UsingClause)
    {assignments : List (String × Assignment)} {key : KeyClause} (named : PlainWord table)
    (set : ∀ entry ∈ assignments, PlainWord entry.1)
    (keyed : ∀ column ∈ key.columns, PlainWord column) :
    Lacks (unconditional table options assignments key) "IF" := by
  have head : Lacks ("UPDATE " ++ table) "IF" :=
    (lacks_space "UPDATE" table).mpr ⟨by decide, named.lacks⟩
  have assigned : Lacks (", ".intercalate
      (assignments.map fun entry => (entry.2.clause entry.1).text)) "IF" := by
    apply lacks_enumeration
    rw [List.forall_mem_map]
    exact fun entry member => entry.2.lacks (set entry member)
  have setUnbroken : Unbroken "SET" := by decide
  have whereUnbroken : Unbroken "WHERE" := by decide
  have middle := (lacks_keyword _ _ setUnbroken).mpr ⟨options.lacks head, by decide, assigned⟩
  exact (lacks_keyword _ _ whereUnbroken).mpr ⟨middle, by decide, lacks_restrictions keyed⟩

theorem lacks_delete {table : String} (timestamp : Option Int64) {key : KeyClause}
    (named : PlainWord table) (keyed : ∀ column ∈ key.columns, PlainWord column) :
    Lacks (delete table timestamp key).query "IF" := by
  have head : Lacks ("DELETE FROM " ++ table) "IF" :=
    (lacks_space "DELETE FROM" table).mpr ⟨by decide, named.lacks⟩
  have unbroken : Unbroken "WHERE" := by decide
  have front := UsingClause.lacks ⟨none, timestamp⟩ head
  rw [query_delete]
  exact (lacks_keyword _ _ unbroken).mpr ⟨front, by decide, lacks_restrictions keyed⟩

theorem lacks_insert {table : String} {columns : List (String × CqlValue)} (options : UsingClause)
    (named : PlainWord table) (listed : ∀ column ∈ columns.map (·.1), PlainWord column) :
    Lacks (insert table columns false options).query "IF" := by
  have head : Lacks ("INSERT INTO " ++ table) "IF" :=
    (lacks_space "INSERT INTO" table).mpr ⟨by decide, named.lacks⟩
  have names : Lacks (", ".intercalate (columns.map (·.1))) "IF" :=
    lacks_enumeration fun column member => (listed column member).lacks
  have marks : Lacks (", ".intercalate (columns.map fun _ => "?")) "IF" := by
    apply lacks_enumeration
    rw [List.forall_mem_map]
    exact fun _ _ => by decide
  have parenthesized {text : String} (lacks : Lacks text "IF") :
      Lacks ("(" ++ text ++ ")") "IF" := by
    have opened : Lacks ("(" ++ text) "IF" :=
      lacks.prepend (by decide) (List.mem_singleton.mpr rfl) (by decide)
    exact opened.append (by decide) (List.mem_singleton.mpr rfl) (by decide)
  have unbroken : Unbroken "VALUES" := by decide
  have front := (lacks_space ("INSERT INTO " ++ table) _).mpr ⟨head, parenthesized names⟩
  have whole := options.lacks
    ((lacks_keyword _ _ unbroken).mpr ⟨front, by decide, parenthesized marks⟩)
  have text : (insert table columns false options).query =
      "INSERT INTO " ++ table ++ (" " ++ ("(" ++ ", ".intercalate (columns.map (·.1)) ++ ")")) ++
        (" " ++ "VALUES" ++ " ") ++
        ("(" ++ ", ".intercalate (columns.map fun _ => "?") ++ ")") ++ options.query := by
    rw [query_insert, if_neg Bool.false_ne_true]
    simp [← String.toList_inj]
  rw [text]
  exact whole

/-- An update with conditions has the word before them once, and then a column and a sign. -/
theorem words_conditional {table : String} (options : UsingClause)
    (assignments : List (String × Assignment)) (key : KeyClause) {first : BoundCondition}
    {others : List BoundCondition}
    (plain : ∀ condition ∈ first :: others, PlainWord condition.column) :
    ∃ rest, words (update table options assignments key (first :: others)).query =
        words (unconditional table options assignments key) ++
          "IF" :: first.column :: first.comparison.symbol :: rest ∧
      "IF" ∉ first.column :: first.comparison.symbol :: rest := by
  have guard : Lacks (" AND ".intercalate ((first :: others).map (·.clause.text))) "IF" := by
    apply lacks_conjunction
    rw [List.forall_mem_map]
    exact fun condition member => BoundCondition.lacks (plain condition member)
  have start := BoundCondition.words_clause (plain first List.mem_cons_self)
  have opens : ∃ rest, words (" AND ".intercalate ((first :: others).map (·.clause.text))) =
      first.column :: first.comparison.symbol :: rest := by
    cases others with
    | nil => exact ⟨_, start⟩
    | cons next others =>
        have unbroken : Unbroken "AND" := by decide
        have split := words_keyword first.clause.text
          (" AND ".intercalate ((next :: others).map (·.clause.text))) unbroken
        rw [start] at split
        rw [List.map_cons, List.map_cons, String.intercalate_cons_cons]
        exact ⟨_, split⟩
  obtain ⟨rest, guards⟩ := opens
  have unbroken : Unbroken "IF" := by decide
  have split := words_keyword (unconditional table options assignments key)
    (" AND ".intercalate ((first :: others).map (·.clause.text))) unbroken
  rw [guards, String.append_assoc] at split
  refine ⟨rest, ?_, guards ▸ guard⟩
  rw [query_update, query_conditions]
  exact split

theorem contains_ifNotExists (table : String) (columns : List (String × CqlValue))
    (options : UsingClause) :
    contains (insert table columns true options).query " IF NOT EXISTS" = true := by
  rw [contains_iff, query_insert, if_pos rfl, String.toList_append, String.toList_append]
  have guard : " IF NOT EXISTS".toList <:+: ") IF NOT EXISTS".toList :=
    ⟨[')'], [], rfl⟩
  exact (guard.trans (List.suffix_append _ _).isInfix).trans (List.prefix_append _ _).isInfix

theorem contains_if {query : String} (guarded : contains query " IF NOT EXISTS" = true) :
    isConditionalQuery query = true := by
  have start : " IF ".toList <:+: " IF NOT EXISTS".toList := ⟨[], "NOT EXISTS".toList, rfl⟩
  rw [contains_iff] at guarded
  rw [isConditionalQuery, contains_iff]
  exact start.trans guarded

/-- Only names could make a query look guarded that is not. -/
theorem isConditionalQuery_iff {statement : WriteStatement}
    (plain : ∀ name ∈ statement.names, PlainWord name) :
    isConditionalQuery statement.query = true ↔ statement.isGuarded = true := by
  have unguarded {query : String} (lacks : Lacks query "IF") :
      isConditionalQuery query = false := by
    have unbroken : Unbroken "IF" := by decide
    rw [← Bool.not_eq_true]
    exact fun found => lacks (mem_words_of_contains unbroken found)
  cases statement with
  | insert table columns ifNotExists options =>
      cases ifNotExists with
      | false =>
          obtain ⟨named, listed⟩ := List.forall_mem_cons.mp plain
          rw [unguarded (lacks_insert options named listed)]
          rfl
      | true => exact iff_of_true (contains_if (contains_ifNotExists table columns options)) rfl
  | update table options assignments key conditions =>
      cases conditions with
      | nil =>
          obtain ⟨named, others⟩ := List.forall_mem_cons.mp plain
          obtain ⟨columns, _⟩ := List.forall_mem_append.mp others
          obtain ⟨set, keyed⟩ := List.forall_mem_append.mp columns
          rw [List.forall_mem_map] at set
          have lacks := lacks_unconditional options named set keyed
          rw [query_update, unguarded (by simpa [conditionPieces] using lacks)]
          rfl
      | cons first others =>
          exact iff_of_true (isConditionalQuery_of_conditions (List.cons_ne_nil _ _)) rfl
  | delete table timestamp key =>
      obtain ⟨named, keyed⟩ := List.forall_mem_cons.mp plain
      rw [unguarded (lacks_delete timestamp named keyed)]
      rfl

theorem lacks_ifNotExists {table : String} (options : UsingClause)
    {assignments : List (String × Assignment)} {key : KeyClause} {first : BoundCondition}
    {others : List BoundCondition} (named : PlainWord table)
    (set : ∀ entry ∈ assignments, PlainWord entry.1)
    (keyed : ∀ column ∈ key.columns, PlainWord column)
    (plain : ∀ condition ∈ first :: others, PlainWord condition.column) :
    ¬ contains (update table options assignments key (first :: others)).query " IF NOT EXISTS" =
      true := by
  intro found
  obtain ⟨front, back, split⟩ := contains_iff.mp found
  obtain ⟨rest, whole, single⟩ := words_conditional options assignments key plain
  have lacks := lacks_unconditional options named set keyed
  have text : (update table options assignments key (first :: others)).query =
      String.ofList front ++ (" " ++ "IF" ++ " ") ++
        ("NOT" ++ (" " ++ ("EXISTS" ++ String.ofList back))) := by
    rw [← String.toList_inj, ← split]
    simp
  obtain ⟨before, last, more, after, ending, _, joined⟩ :=
    words_append "EXISTS" (String.ofList back)
  have alone : [] ++ ["EXISTS"] = before ++ [last] := ending
  obtain ⟨rfl, same⟩ := List.append_inj' alone rfl
  cases same
  have unbroken : Unbroken "IF" := by decide
  rw [text, words_keyword _ _ unbroken, ← String.append_assoc, words_append_space, joined] at whole
  -- The word stands in the text once, so that what follows it is the same in both readings.
  obtain ⟨_, _, following⟩ := (List.append_cons_inj_of_notMem lacks single).mp whole.symm
  have sign : first.comparison.symbol = "EXISTS" ++ more :=
    (List.cons.inj (List.cons.inj following).2).1
  have long := congrArg String.length sign
  rw [String.length_append] at long
  have short : first.comparison.symbol.length ≤ 2 := by cases first.comparison <;> decide
  have six : "EXISTS".length = 6 := rfl
  omega

/-- A guarded insert says so in words that no update has. -/
theorem conditionalKindOf_query {statement : WriteStatement}
    (plain : ∀ name ∈ statement.names, PlainWord name) (guarded : statement.isGuarded = true) :
    conditionalKindOf statement.query = statement.kind := by
  cases statement with
  | delete table timestamp key => cases guarded
  | insert table columns ifNotExists options =>
      have guarded : ifNotExists = true := guarded
      subst guarded
      rw [conditionalKindOf, if_pos (contains_ifNotExists table columns options)]
      rfl
  | update table options assignments key conditions =>
      cases conditions with
      | nil => cases guarded
      | cons first others =>
          obtain ⟨named, names⟩ := List.forall_mem_cons.mp plain
          obtain ⟨columns, guards⟩ := List.forall_mem_append.mp names
          obtain ⟨set, keyed⟩ := List.forall_mem_append.mp columns
          rw [List.forall_mem_map] at set guards
          rw [conditionalKindOf, if_neg (lacks_ifNotExists options named set keyed guards)]
          rfl

end WriteStatement

end CqlMapper
