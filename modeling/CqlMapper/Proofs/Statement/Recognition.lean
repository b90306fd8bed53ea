import CqlMapper.Proofs.Statement.Wording

/-!
Which statements the store is taken to have carried out under a condition. The reader of answers
only sees the text of a query; as long as no name is the word that it looks for, it finds that word
exactly in the inserts and updates that were guarded.
-/

namespace CqlMapper

open Text

structure EntitySchema.PlainWords (schema : EntitySchema) : Prop where
  table : PlainWord schema.table
  counterTable : ∀ table, schema.counterTableName = some table → PlainWord table
  columns : ∀ property ∈ schema.properties, PlainWord property.column

namespace EntitySchema

variable {schema : EntitySchema} {options : WriteOptions}

inductive Holds (schema : EntitySchema) : String → Prop
  | rows : Holds schema schema.table
  | counters {table : String} (companion : schema.counterTable? = some table) : Holds schema table

theorem PlainWords.holds (plain : schema.PlainWords) {table : String} (holds : schema.Holds table) :
    PlainWord table := by
  cases holds with
  | rows => exact plain.table
  | counters companion =>
      unfold counterTable? at companion
      split at companion
      · cases companion
        cases chosen : schema.counterTableName with
        | some name => exact plain.counterTable name chosen
        | none =>
            refine ⟨?_, ?_⟩
            · have table := plain.table.unbroken
              simpa [Unbroken] using table
            · intro same
              have long := congrArg String.length same
              rw [Option.getD_none, String.length_append] at long
              have nine : "_counters".length = 9 := rfl
              have two : "IF".length = 2 := rfl
              omega
      · cases companion

theorem holds_counterHome (schema : EntitySchema) : schema.Holds schema.counterHome := by
  unfold counterHome
  cases companion : schema.counterTable? with
  | none => exact .rows
  | some table => exact .counters companion

def Owns (schema : EntitySchema) (column : String) : Prop :=
  ∃ property ∈ schema.properties, column = property.column

theorem PlainWords.owns (plain : schema.PlainWords) {column : String} (owns : schema.Owns column) :
    PlainWord column := by
  obtain ⟨property, member, rfl⟩ := owns
  exact plain.columns property member

theorem owns_primaryKey {column : String} (member : column ∈ schema.primaryKey.map (·.column)) :
    schema.Owns column := by
  obtain ⟨property, keyed, rfl⟩ := List.mem_map.mp member
  exact ⟨property, (mem_primaryKey.mp keyed).1, rfl⟩

/-- The statements that are made for some options: on the tables and columns of the schema, and
with the guard that was asked for unless they are deletes or write counters. -/
inductive Drafts (schema : EntitySchema) (options : WriteOptions) : GeneratedStatement → Prop
  | insert {columns : List (String × CqlValue)} {clause : UsingClause}
      (listed : ∀ column ∈ columns.map (·.1), schema.Owns column) :
      Drafts schema options (.plain (.insert schema.table columns options.ifNotExists clause))
  | update {clause : UsingClause} {entries : List (String × Assignment)} {key : List CqlValue}
      {conditions : List BoundCondition} (set : ∀ column ∈ entries.map (·.1), schema.Owns column)
      (resolved : List.Forall₂ schema.Resolves options.conditions conditions) :
      Drafts schema options
        (.plain (.update schema.table clause entries (schema.keyClause key) conditions))
  | increment {column : String} {amount : CqlValue} {key : List CqlValue} {level : Option Level}
      (owns : schema.Owns column) :
      Drafts schema options ⟨.update schema.counterHome .absent [(column, .add amount)]
        (schema.keyClause key) [], true, level⟩
  | delete {table : String} {timestamp : Option Int64} {key : List CqlValue} {counter : Bool}
      (holds : schema.Holds table) :
      Drafts schema options ⟨.delete table timestamp (schema.keyClause key), counter, none⟩

theorem Increments.drafts {change : PropertyChange} {key : List CqlValue}
    {statement : GeneratedStatement}
    (increments : schema.Increments (schema.keyClause key) change statement) :
    schema.Drafts options statement := by
  obtain ⟨property, delta, amount, found, _, _, _, rfl⟩ := increments
  exact .increment ⟨property, (mem_of_property? found).1, rfl⟩

theorem UpdateOf.drafts {key : List CqlValue} {entries : List (String × Assignment)}
    {statement : GeneratedStatement}
    (update : schema.UpdateOf options (schema.keyClause key) entries statement)
    (set : ∀ column ∈ entries.map (·.1), schema.Owns column) : schema.Drafts options statement := by
  cases update with
  | update asks resolved => exact .update set resolved

theorem Combines.drafts {changes : List PropertyChange} {key : List CqlValue}
    {statements : List GeneratedStatement}
    (combines : schema.Combines options (schema.keyClause key) changes statements) :
    ∀ statement ∈ statements, schema.Drafts options statement := by
  cases combines with
  | nothing => exact List.forall_mem_nil _
  | one something assigns update =>
      refine List.forall_mem_singleton.mpr (update.drafts ?_)
      rw [List.forall_mem_map]
      intro entry member
      obtain ⟨change, _, property, _, _, found, _, _, _, _, rfl⟩ :=
        Outcome.exists_left assigns member
      exact ⟨property, (mem_of_property? found).1, rfl⟩

theorem Performs.drafts {change : PropertyChange} {key : List CqlValue}
    {statement : GeneratedStatement}
    (performs : schema.Performs options (schema.keyClause key) change statement) :
    schema.Drafts options statement := by
  obtain ⟨property, assignment, found, _, _, _, update⟩ := performs
  exact update.drafts
    (List.forall_mem_singleton.mpr ⟨property, (mem_of_property? found).1, rfl⟩)

theorem Inserted.drafts {strategy : InsertStrategy} {fields : Fields} {key : List CqlValue}
    {statements : List GeneratedStatement}
    (inserted : schema.Inserted strategy fields key options statements) :
    ∀ statement ∈ statements, schema.Drafts options statement := by
  cases inserted with
  | nothing clustered => exact List.forall_mem_nil _
  | row mixed inserts =>
      obtain ⟨listed, columns, clause, plain, encoded, _, rfl⟩ := insertStatement_ok inserts
      refine List.forall_mem_singleton.mpr (.insert ?_)
      rw [List.map_append]
      refine List.forall_mem_append.mpr ⟨?_, ?_⟩
      · rw [List.forall_mem_map]
        exact fun entry member => owns_primaryKey (List.of_mem_zip member).1
      · rw [List.forall_mem_map]
        intro entry member
        obtain ⟨property, among, same, _⟩ := Outcome.exists_left encoded member
        exact ⟨property, (List.mem_filter.mp (plain.mem among)).1, same⟩

theorem removeStatements_drafts (schema : EntitySchema) (key : List CqlValue)
    (options : WriteOptions) :
    ∀ statement ∈ schema.removeStatements key options, schema.Drafts options statement := by
  unfold removeStatements
  split
  · exact List.forall_mem_singleton.mpr (.delete .rows)
  · refine List.forall_mem_cons.mpr ⟨.delete .rows, ?_⟩
    rw [List.forall_mem_map]
    intro table companion
    exact .delete (.counters (Option.mem_toList.mp companion))

theorem generation_drafts {generation : Generation} {statements : List GeneratedStatement}
    (generated : generation.statements schema options = .ok statements) :
    ∀ statement ∈ statements, schema.Drafts options statement := by
  have increments {key : List CqlValue} {changes : List PropertyChange}
      {counters : List GeneratedStatement}
      (each : List.Forall₂ (schema.Increments (schema.keyClause key)) changes counters) :
      ∀ statement ∈ counters, schema.Drafts options statement := by
    intro statement member
    obtain ⟨change, _, increments⟩ := Outcome.exists_left each member
    exact increments.drafts
  cases generation with
  | insert strategy subject =>
      obtain ⟨key, inserted, counters, _, inserts, counted, rfl⟩ := insertStatements_split generated
      have counts := increments (insertedCounters_increments counted)
      exact List.forall_mem_append.mpr ⟨inserts.drafts, counts⟩
  | change fields changes =>
      obtain ⟨key, combined, separate, counters, _, rfl, covers⟩ :=
        changeStatements_cover generated
      refine List.forall_mem_append.mpr ⟨List.forall_mem_append.mpr ⟨covers.combined.drafts, ?_⟩,
        increments covers.increments⟩
      intro statement member
      obtain ⟨change, _, performs⟩ := Outcome.exists_left covers.separate member
      exact performs.drafts
  | remove key =>
      cases generated
      exact schema.removeStatements_drafts key options

theorem Drafts.names {statement : GeneratedStatement} (drafts : schema.Drafts options statement)
    (plain : schema.PlainWords) : ∀ name ∈ statement.write.names, PlainWord name := by
  have columns {columns : List String} (owned : ∀ column ∈ columns, schema.Owns column) :
      ∀ column ∈ columns, PlainWord column :=
    fun column member => plain.owns (owned column member)
  have keyed := columns fun _ => schema.owns_primaryKey
  cases drafts with
  | insert listed => exact List.forall_mem_cons.mpr ⟨plain.table, columns listed⟩
  | @update _ _ _ conditions set resolved =>
      have guards : ∀ column ∈ conditions.map (·.column), schema.Owns column := by
        rw [List.forall_mem_map]
        intro bound member
        obtain ⟨condition, _, _, property, belongs, _, same, _⟩ :=
          Outcome.exists_left resolved member
        exact ⟨property, belongs, same⟩
      have set := List.forall_mem_append.mpr ⟨columns set, keyed⟩
      exact List.forall_mem_cons.mpr
        ⟨plain.table, List.forall_mem_append.mpr ⟨set, columns guards⟩⟩
  | increment owns =>
      have home := plain.holds schema.holds_counterHome
      have set := List.forall_mem_append.mpr
        ⟨List.forall_mem_singleton.mpr (plain.owns owns), keyed⟩
      exact List.forall_mem_cons.mpr
        ⟨home, List.forall_mem_append.mpr ⟨set, List.forall_mem_nil _⟩⟩
  | delete holds => exact List.forall_mem_cons.mpr ⟨plain.holds holds, keyed⟩

theorem Drafts.isGuarded_iff {statement : GeneratedStatement}
    (drafts : schema.Drafts options statement) :
    statement.write.isGuarded = true ↔
      statement.write.isInsert = true ∧ options.ifNotExists = true ∨
      statement.write.isUpdate = true ∧ statement.counter = false ∧ options.conditions ≠ [] := by
  cases drafts with
  | insert listed =>
      simp [GeneratedStatement.plain, WriteStatement.isGuarded, WriteStatement.isInsert,
        WriteStatement.isUpdate]
  | @update _ _ _ conditions set resolved =>
      have same : conditions = [] ↔ options.conditions = [] := by
        rw [← List.length_eq_zero_iff, ← List.length_eq_zero_iff, resolved.length_eq]
      simp [GeneratedStatement.plain, WriteStatement.isGuarded, WriteStatement.isInsert,
        WriteStatement.isUpdate, same]
  | increment owns | delete holds =>
      simp [WriteStatement.isGuarded, WriteStatement.isInsert, WriteStatement.isUpdate]

end EntitySchema

structure Recognized (options : WriteOptions) (statement : GeneratedStatement) : Prop where
  conditional : isConditionalQuery statement.write.query = true ↔
    statement.write.isInsert = true ∧ options.ifNotExists = true ∨
    statement.write.isUpdate = true ∧ statement.counter = false ∧ options.conditions ≠ []
  kind : isConditionalQuery statement.write.query = true →
    conditionalKindOf statement.write.query = statement.write.kind
  rejection : ∀ result rejection,
    interpret statement.write.query result = .ok (.rejected rejection) →
      isConditionalQuery statement.write.query = true ∧ rejection.kind = statement.write.kind

theorem interpret_rejected {query : String} {result : ResultSet} {rejection : Rejection}
    (read : interpret query result = .ok (.rejected rejection)) :
    isConditionalQuery query = true ∧ rejection.kind = conditionalKindOf query := by
  unfold interpret at read
  split at read
  · cases read
  · rename_i conditional
    have recognized : isConditionalQuery query = true := by simpa using conditional
    refine ⟨recognized, ?_⟩
    split at read
    · cases read
    · split at read
      · cases read
      · split at read
        · cases read
          rfl
        · cases read

/-- As long as no name is the word that opens conditions, the guarded statements are recognized and
no others, and their rejections are told apart. -/
theorem generated_recognized {schema : EntitySchema} (plain : schema.PlainWords)
    (options : WriteOptions) (generation : Generation) {statements : List GeneratedStatement}
    (generated : generation.statements schema options = .ok statements) :
    ∀ statement ∈ statements, Recognized options statement := by
  intro statement member
  have drafts := EntitySchema.generation_drafts generated statement member
  have names := drafts.names plain
  have recognized := WriteStatement.isConditionalQuery_iff names
  have kind : isConditionalQuery statement.write.query = true →
      conditionalKindOf statement.write.query = statement.write.kind :=
    fun conditional => WriteStatement.conditionalKindOf_query names (recognized.mp conditional)
  refine ⟨recognized.trans drafts.isGuarded_iff, kind, ?_⟩
  intro result rejection read
  obtain ⟨conditional, same⟩ := interpret_rejected read
  exact ⟨conditional, same.trans (kind conditional)⟩

def ifRed : WriteOptions :=
  { WriteOptions.standard with conditions := [⟨"club", .eq, .text "Reds"⟩] }

def newcomerIfRed : List GeneratedStatement :=
  let update (assignments : List (String × Assignment)) : GeneratedStatement :=
    .plain (.update "players" .absent assignments ⟨["id"], [.int 7]⟩ [⟨"club", .eq, .text "Reds"⟩])
  [update [("name", .replace (.text "Ann")), ("club", .replace (.text "Reds"))],
    update [("scores", .add (.list [.int 2]))],
    update [("scores", .replaceAt 0 (.int 3))],
    ⟨.update "players_counters" .absent [("wins", .add (.bigInt 1))] ⟨["id"], [.int 7]⟩ [], true,
      none⟩]

theorem generated_recognized_newcomer :
    playerSchema.changeStatements (Fields.empty.set "id" (.int 7)) newcomer.dirtyChanges ifRed =
        .ok newcomerIfRed ∧
      ∀ statement ∈ newcomerIfRed,
        isConditionalQuery statement.write.query = true ↔ statement.counter = false := by
  have plain : playerSchema.PlainWords := by
    refine ⟨⟨by decide, by decide⟩, nofun, ?_⟩
    have names : ∀ column ∈ playerSchema.properties.map (·.column),
        Unbroken column ∧ column ≠ "IF" := by decide
    intro property member
    obtain ⟨unbroken, notIf⟩ := names _ (List.mem_map_of_mem member)
    exact ⟨unbroken, notIf⟩
  have generated : playerSchema.changeStatements (Fields.empty.set "id" (.int 7))
      newcomer.dirtyChanges ifRed = .ok newcomerIfRed := rfl
  have recognized := generated_recognized plain ifRed (.change (Fields.empty.set "id" (.int 7))
    newcomer.dirtyChanges) generated
  refine ⟨generated, ?_⟩
  intro statement member
  have updates : ∀ statement ∈ newcomerIfRed,
      statement.write.isInsert = false ∧ statement.write.isUpdate = true := by decide
  obtain ⟨notInsert, isUpdate⟩ := updates statement member
  rw [(recognized statement member).conditional, notInsert, isUpdate]
  simp [ifRed]

end CqlMapper
