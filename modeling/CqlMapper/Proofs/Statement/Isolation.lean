import CqlMapper.Proofs.Statement.Coverage

/-!
Counter writes stand apart. Each has a statement of its own that is marked as one, goes where the
counters are kept, and asks for no options; all other statements leave counter columns alone.
-/

namespace CqlMapper

inductive Purpose where
  | row
  | increment (property : String)
  | counterRow
  deriving DecidableEq

/-- What statements are generated for. A removal is generated for any key. -/
inductive Generation where
  | insert (strategy : InsertStrategy) (subject : Subject)
  | change (fields : Fields) (changes : List PropertyChange)
  | remove (key : List CqlValue)

namespace Generation

def statements (schema : EntitySchema) (options : WriteOptions) :
    Generation → Except WriteError (List GeneratedStatement)
  | .insert strategy subject => schema.insertStatements strategy subject options
  | .change fields changes => schema.changeStatements fields changes options
  | .remove key => .ok (schema.removeStatements key options)

def increments (schema : EntitySchema) (changes : List PropertyChange) : List Purpose :=
  (changes.filter schema.counts).map fun change => .increment change.property

def purposes (schema : EntitySchema) : Generation → List Purpose
  | .insert _ subject =>
    (if schema.isClusteredCounter then [] else [.row]) ++ increments schema subject.changes
  | .change _ changes =>
    (if changes.any schema.isWhole then [.row] else []) ++
      (changes.filter schema.isPart).map (fun _ => .row) ++ increments schema changes
  | .remove _ =>
    if schema.isClusteredCounter then [.counterRow]
    else if schema.counters.isEmpty then [.row] else [.row, .counterRow]

end Generation

theorem Request.exists_generation {request : Request} {schema : EntitySchema}
    {options : WriteOptions} {statements : List GeneratedStatement}
    (generated : request.generate schema options = .ok statements) :
    ∃ generation : Generation, generation.statements schema options = .ok statements := by
  cases request with
  | change fields changes => exact ⟨.change fields changes, generated⟩
  | insert strategy subject => exact ⟨.insert strategy subject, generated⟩
  | remove fields =>
      obtain ⟨key, _, rfl⟩ := Outcome.map_eq_ok.mp generated
      exact ⟨.remove key, rfl⟩
  | removeAt components =>
      obtain ⟨key, _, rfl⟩ := Outcome.map_eq_ok.mp generated
      exact ⟨.remove key, rfl⟩

namespace KeyClause

theorem queries_restrictions (columns : List String) (values : List CqlValue) :
    (restrictions columns values).map (fun part => String.join (part.map Piece.query)) =
      columns.map fun column => column ++ " = ?" := by
  induction columns generalizing values with
  | nil => rfl
  | cons column columns ih =>
      cases values with
      | nil =>
          rw [restrictions, List.map_cons, List.map_cons, ih]
          simp [Piece.query, String.append_assoc]
      | cons value values =>
          rw [restrictions, List.map_cons, List.map_cons, ih]
          simp [Piece.query, String.append_assoc]

theorem query_joined (separator : String) (parts : List (List Piece)) :
    String.join ((Piece.joined separator parts).map Piece.query) =
      separator.intercalate (parts.map fun part => String.join (part.map Piece.query)) := by
  induction parts with
  | nil => rfl
  | cons part parts ih =>
      cases parts with
      | nil => rfl
      | cons next parts =>
          rw [Piece.joined, List.map_append, List.map_cons, String.join_append,
            String.join_cons, ih]
          · simp only [List.map_cons, String.intercalate_cons_cons, Piece.query,
              String.append_assoc]
          · exact List.cons_ne_nil next parts

/-- The text of a key names its columns, whatever values it has for them. -/
theorem query_pieces (key : KeyClause) :
    String.join (key.pieces.map Piece.query) =
      " AND ".intercalate (key.columns.map fun column => column ++ " = ?") := by
  have surplus (values : List CqlValue) :
      String.join ((values.map Piece.surplus).map Piece.query) = "" := by
    induction values with
    | nil => rfl
    | cons value values ih => simpa [Piece.query] using ih
  rw [pieces, List.map_append, String.join_append, surplus, String.append_empty, query_joined,
    queries_restrictions]

end KeyClause

namespace EntitySchema

variable {entity : EntityDeclaration} {schema : EntitySchema} {options : WriteOptions}

inductive Houses (schema : EntitySchema) : String → Prop
  | companion {table : String} (named : schema.counterTable? = some table) : Houses schema table
  | own (alone : schema.counterTable? = none) (clustered : schema.isClusteredCounter = true) :
      Houses schema schema.table

def Uncounted (schema : EntitySchema) (columns : List String) : Prop :=
  ∀ property ∈ schema.counters, property.column ∉ columns

inductive Serves (schema : EntitySchema) : Purpose → GeneratedStatement → Prop
  | insert {columns : List (String × CqlValue)} {ifNotExists : Bool} {clause : UsingClause}
      (mixed : schema.isClusteredCounter = false)
      (uncounted : schema.Uncounted (columns.map (·.1))) :
      Serves schema .row (.plain (.insert schema.table columns ifNotExists clause))
  | update {clause : UsingClause} {entries : List (String × Assignment)} {key : KeyClause}
      {conditions : List BoundCondition} (mixed : schema.isClusteredCounter = false)
      (uncounted : schema.Uncounted (entries.map (·.1))) :
      Serves schema .row (.plain (.update schema.table clause entries key conditions))
  | delete {timestamp : Option Int64} {key : KeyClause}
      (mixed : schema.isClusteredCounter = false) :
      Serves schema .row (.plain (.delete schema.table timestamp key))
  | increment {property : Property} {home : String} {amount : CqlValue} {key : List CqlValue}
      {level : Option Level} (counter : property ∈ schema.counters) (houses : schema.Houses home) :
      Serves schema (.increment property.name) ⟨.update home .absent
        [(property.column, .add amount)] (schema.keyClause key) [], true, level⟩
  | counterRow {home : String} {key : List CqlValue} (houses : schema.Houses home) :
      Serves schema .counterRow ⟨.delete home none (schema.keyClause key), true, none⟩

def restriction (schema : EntitySchema) : String :=
  " WHERE " ++ " AND ".intercalate (schema.primaryKey.map fun property => property.column ++ " = ?")

/-- A statement serves its purpose, and is marked and worded as a counter write only for that. -/
structure Isolates (schema : EntitySchema) (purpose : Purpose) (statement : GeneratedStatement) :
    Prop where
  serves : schema.Serves purpose statement
  counter_iff : statement.counter = true ↔ purpose ≠ .row
  increment : ∀ name, purpose = .increment name → ∃ home, schema.Houses home ∧
    ∃ property ∈ schema.counters, property.name = name ∧
      statement.write.query = "UPDATE " ++ home ++ " SET " ++ property.column ++ " = " ++
        property.column ++ " + ?" ++ schema.restriction
  counterRow : purpose = .counterRow → ∃ home, schema.Houses home ∧
    statement.write.query = "DELETE FROM " ++ home ++ schema.restriction

theorem query_keyClause (schema : EntitySchema) (key : List CqlValue) :
    " WHERE " ++ String.join ((schema.keyClause key).pieces.map Piece.query) =
      schema.restriction := by
  rw [KeyClause.query_pieces, restriction, keyClause, List.map_map]
  rfl

theorem query_increment (schema : EntitySchema) (home column : String) (amount : CqlValue)
    (key : List CqlValue) :
    (WriteStatement.update home .absent [(column, .add amount)] (schema.keyClause key) []).query =
      "UPDATE " ++ home ++ " SET " ++ column ++ " = " ++ column ++ " + ?" ++
        schema.restriction := by
  rw [← query_keyClause schema key]
  simp [WriteStatement.query, WriteStatement.pieces, UsingClause.pieces, UsingClause.absent,
    Piece.joined, Assignment.pieces, conditionPieces, Piece.query, ← String.toList_inj]

theorem query_counterRow (schema : EntitySchema) (home : String) (key : List CqlValue) :
    (WriteStatement.delete home none (schema.keyClause key)).query =
      "DELETE FROM " ++ home ++ schema.restriction := by
  rw [← query_keyClause schema key]
  simp [WriteStatement.query, WriteStatement.pieces, UsingClause.pieces, Piece.query]

theorem Serves.isolates {purpose : Purpose} {statement : GeneratedStatement}
    (serves : schema.Serves purpose statement) : schema.Isolates purpose statement := by
  have unmarked (write : WriteStatement) :
      (GeneratedStatement.plain write).counter = true ↔ Purpose.row ≠ .row := by
    simp [GeneratedStatement.plain]
  cases serves with
  | insert mixed uncounted => exact ⟨.insert mixed uncounted, unmarked _, nofun, nofun⟩
  | update mixed uncounted => exact ⟨.update mixed uncounted, unmarked _, nofun, nofun⟩
  | delete mixed => exact ⟨.delete mixed, unmarked _, nofun, nofun⟩
  | increment counter houses =>
      refine ⟨.increment counter houses, by simp, ?_, nofun⟩
      intro name same
      cases same
      exact ⟨_, houses, _, counter, rfl, schema.query_increment _ _ _ _⟩
  | counterRow houses =>
      refine ⟨.counterRow houses, by simp, nofun, ?_⟩
      intro _
      exact ⟨_, houses, schema.query_counterRow _ _⟩

theorem mem_counters {property : Property} :
    property ∈ schema.counters ↔ property ∈ schema.properties ∧ property.isCounter = true :=
  List.mem_filter

theorem houses_counterHome {property : Property} (counter : property ∈ schema.counters) :
    schema.Houses schema.counterHome := by
  unfold counterHome
  cases companion : schema.counterTable? with
  | some table => exact .companion companion
  | none =>
      have clustered : schema.isClusteredCounter = true := by
        have something : schema.counters.isEmpty = false := by
          simpa using List.ne_nil_of_mem counter
        simpa [counterTable?, something] using companion
      exact .own companion clustered

theorem uncounted_of (built : entity.build = .ok schema) {columns : List String}
    (plain : ∀ column ∈ columns, ∃ property ∈ schema.properties,
      property.isCounter = false ∧ column = property.column) : schema.Uncounted columns := by
  intro counter member listed
  obtain ⟨property, belongs, notCounter, same⟩ := plain _ listed
  obtain ⟨counterMember, isCounter⟩ := mem_counters.mp member
  have distinct := (EntityDeclaration.built_of_build built).1.columns
  have equal : counter = property := List.inj_on_of_nodup_map distinct counterMember belongs same
  rw [equal, notCounter] at isCounter
  cases isCounter

theorem Increments.serves {change : PropertyChange} {key : List CqlValue}
    {statement : GeneratedStatement}
    (increments : schema.Increments (schema.keyClause key) change statement) :
    schema.Serves (.increment change.property) statement := by
  obtain ⟨property, delta, amount, found, isCounter, _, _, rfl⟩ := increments
  obtain ⟨member, name⟩ := mem_of_property? found
  have counter : property ∈ schema.counters := mem_counters.mpr ⟨member, isCounter⟩
  rw [← name]
  exact .increment counter (houses_counterHome counter)

theorem increments_serve {changes : List PropertyChange} {key : List CqlValue}
    {statements : List GeneratedStatement}
    (increments : List.Forall₂ (schema.Increments (schema.keyClause key))
      (changes.filter schema.counts) statements) :
    List.Forall₂ schema.Serves (Generation.increments schema changes) statements := by
  unfold Generation.increments
  rw [List.forall₂_map_left_iff]
  exact increments.imp fun _ _ => Increments.serves

theorem UpdateOf.serves (built : entity.build = .ok schema) {key : KeyClause}
    {entries : List (String × Assignment)} {statement : GeneratedStatement}
    (update : schema.UpdateOf options key entries statement)
    (mixed : schema.isClusteredCounter = false)
    (plain : ∀ entry ∈ entries, ∃ property ∈ schema.properties,
      property.isCounter = false ∧ entry.1 = property.column) :
    schema.Serves .row statement := by
  cases update with
  | update asks resolved =>
      refine .update mixed (uncounted_of built ?_)
      rw [List.forall_mem_map]
      exact plain

theorem Performs.serves (built : entity.build = .ok schema) {change : PropertyChange}
    {key : KeyClause} {statement : GeneratedStatement}
    (performs : schema.Performs options key change statement) :
    schema.Serves .row statement := by
  obtain ⟨property, assignment, found, notKey, plain, _, update⟩ := performs
  have member := (mem_of_property? found).1
  have mixed := not_clustered member notKey plain
  exact update.serves built mixed
    (List.forall_mem_singleton.mpr ⟨property, member, plain, rfl⟩)

theorem Combines.serve (built : entity.build = .ok schema) {changes : List PropertyChange}
    {key : KeyClause} {statements : List GeneratedStatement}
    (combines : schema.Combines options key changes statements) :
    List.Forall₂ schema.Serves (if changes.isEmpty then [] else [.row]) statements := by
  cases combines with
  | nothing => exact .nil
  | @one _ entries statement something assigns update =>
      have plain : ∀ entry ∈ entries, ∃ property ∈ schema.properties, property.isKey = false ∧
          property.isCounter = false ∧ entry.1 = property.column := by
        intro entry member
        obtain ⟨_, _, property, _, _, found, notKey, plain, _, _, rfl⟩ :=
          Outcome.exists_left assigns member
        exact ⟨property, (mem_of_property? found).1, notKey, plain, rfl⟩
      obtain ⟨change, member⟩ := List.exists_mem_of_ne_nil _ something
      obtain ⟨entry, among, _⟩ := Outcome.exists_left assigns.flip member
      obtain ⟨property, belongs, notKey, notCounter, _⟩ := plain entry among
      have mixed := not_clustered belongs notKey notCounter
      have row := update.serves built mixed fun entry member => by
        obtain ⟨property, belongs, _, notCounter, column⟩ := plain entry member
        exact ⟨property, belongs, notCounter, column⟩
      rw [if_neg (by simpa using something)]
      exact .cons row .nil

theorem uncounted_primaryKey {property : Property} (member : property ∈ schema.primaryKey) :
    property ∈ schema.properties ∧ property.isCounter = false := by
  obtain ⟨belongs, isKey⟩ := mem_primaryKey.mp member
  refine ⟨belongs, Bool.eq_false_iff.mpr fun counts => ?_⟩
  rw [isKey_of_isCounter counts] at isKey
  cases isKey

theorem Inserted.serve (built : entity.build = .ok schema) {strategy : InsertStrategy}
    {fields : Fields} {key : List CqlValue} {statements : List GeneratedStatement}
    (inserted : schema.Inserted strategy fields key options statements) :
    List.Forall₂ schema.Serves (if schema.isClusteredCounter then [] else [.row]) statements := by
  cases inserted with
  | nothing clustered =>
      rw [if_pos clustered]
      exact .nil
  | row mixed inserts =>
      obtain ⟨listed, columns, clause, plain, encoded, _, rfl⟩ := insertStatement_ok inserts
      rw [if_neg (by simp [mixed])]
      refine .cons (.insert mixed (uncounted_of built ?_)) .nil
      rw [List.map_append]
      refine List.forall_mem_append.mpr ⟨?_, ?_⟩
      · intro column member
        obtain ⟨entry, belongs, rfl⟩ := List.mem_map.mp member
        obtain ⟨property, keyed, same⟩ := List.mem_map.mp (List.of_mem_zip belongs).1
        obtain ⟨among, notCounter⟩ := uncounted_primaryKey keyed
        exact ⟨property, among, notCounter, same.symm⟩
      · intro column member
        obtain ⟨entry, belongs, rfl⟩ := List.mem_map.mp member
        obtain ⟨property, among, same, _⟩ := Outcome.exists_left encoded belongs
        obtain ⟨isProperty, isPlain⟩ := List.mem_filter.mp (plain.mem among)
        have role : property.role = .plain := by simpa [Property.isPlain] using isPlain
        exact ⟨property, isProperty, by rw [Property.isCounter, role]; rfl, same⟩

theorem insertedCounters_increments {key : List CqlValue} {changes : List PropertyChange}
    {statements : List GeneratedStatement}
    (made : schema.insertedCounters key changes = .ok statements) :
    List.Forall₂ (schema.Increments (schema.keyClause key)) (changes.filter schema.counts)
      statements := by
  obtain ⟨planned, plans, whole⟩ := Outcome.bind_eq_ok.mp made
  cases whole
  refine Outcome.forall₂_filterMap (Outcome.mapM_eq_ok.mp plans) ?_ ?_
  · intro change output plan counts
    obtain ⟨property, named, rest⟩ := Outcome.bind_eq_ok.mp plan
    have found := property?_of_ok named
    rw [counts_of_found found] at counts
    rw [if_pos counts] at rest
    obtain ⟨statement, counted, same⟩ := Outcome.bind_eq_ok.mp rest
    cases same
    exact ⟨statement, rfl, counterStatement_increments found counts counted⟩
  · intro change output plan counts
    obtain ⟨property, named, rest⟩ := Outcome.bind_eq_ok.mp plan
    have found := property?_of_ok named
    rw [counts_of_found found] at counts
    rw [if_neg (by simp [counts])] at rest
    cases rest
    rfl

theorem removeStatements_serve (schema : EntitySchema) (key : List CqlValue)
    (options : WriteOptions) :
    List.Forall₂ schema.Serves ((Generation.remove key).purposes schema)
      (schema.removeStatements key options) := by
  unfold Generation.purposes removeStatements
  cases clustered : schema.isClusteredCounter with
  | true =>
      have alone : schema.counterTable? = none := by simp [counterTable?, clustered]
      exact .cons (.counterRow (.own alone clustered)) .nil
  | false =>
      have row : schema.Serves .row
          (.plain (.delete schema.table options.timestamp (schema.keyClause key))) :=
        .delete clustered
      cases counters : schema.counters.isEmpty with
      | true =>
          have alone : schema.counterTable? = none := by simp [counterTable?, counters]
          simp only [alone, Option.toList_none, List.map_nil]
          exact .cons row .nil
      | false =>
          obtain ⟨table, named⟩ : ∃ table, schema.counterTable? = some table := by
            simp [counterTable?, counters, clustered]
          simp only [named, Option.toList_some, List.map_cons, List.map_nil]
          exact .cons row (.cons (.counterRow (.companion named)) .nil)

/-- Each statement of a generation serves its purpose, whatever it is generated for. -/
theorem generation_serves (built : entity.build = .ok schema) {generation : Generation}
    {statements : List GeneratedStatement}
    (generated : generation.statements schema options = .ok statements) :
    List.Forall₂ schema.Serves (generation.purposes schema) statements := by
  cases generation with
  | insert strategy subject =>
      obtain ⟨key, inserted, counters, _, inserts, counted, rfl⟩ := insertStatements_split generated
      have increments := increments_serve (insertedCounters_increments counted)
      exact List.rel_append (inserts.serve built) increments
  | change fields changes =>
      obtain ⟨key, combined, separate, increments, _, rfl, covers⟩ :=
        changeStatements_cover generated
      have together := covers.combined.serve built
      have nothing : (changes.filter schema.isWhole).isEmpty = !changes.any schema.isWhole := by
        rw [Bool.eq_iff_iff]
        simp
      have apart : List.Forall₂ schema.Serves ((changes.filter schema.isPart).map fun _ => .row)
          separate := by
        rw [List.forall₂_map_left_iff]
        exact covers.separate.imp fun _ _ => Performs.serves built
      have counted := increments_serve covers.increments
      refine List.rel_append (List.rel_append ?_ apart) counted
      cases whole : changes.any schema.isWhole <;> simpa [nothing, whole] using together
  | remove key =>
      cases generated
      exact schema.removeStatements_serve key options

end EntitySchema

end CqlMapper
