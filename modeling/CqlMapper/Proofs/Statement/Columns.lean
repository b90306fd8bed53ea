import CqlMapper.Proofs.Statement.Isolation

/-!
The columns that statements name. What a statement inserts, sets or restricts belongs to the table
that it writes, since counters and other properties are never mixed. Conditions make no such
difference: one on a counter goes to the table of the rows, which has no column for it.
-/

namespace CqlMapper

namespace WriteStatement

def table : WriteStatement → String
  | .insert table _ _ _ | .update table _ _ _ _ | .delete table _ _ => table

def writtenColumns : WriteStatement → List String
  | .insert _ columns _ _ => columns.map (·.1)
  | .update _ _ assignments key _ => assignments.map (·.1) ++ key.columns
  | .delete _ _ key => key.columns

def columns (statement : WriteStatement) : List String :=
  statement.names.tail

theorem columns_eq (statement : WriteStatement) :
    statement.columns = statement.writtenColumns ++ statement.conditions.map (·.column) := by
  cases statement with
  | insert | delete => exact (List.append_nil _).symm
  | update => rfl

end WriteStatement

def Property.inTable (property : Property) (counters : Bool) : Bool :=
  property.isKey || if counters then property.isCounter else property.isPlain

theorem Property.inTable_false_iff (property : Property) :
    property.inTable false = true ↔ property.isCounter = false := by
  unfold inTable isKey isPlain isCounter
  cases property.role <;> simp [PropertyRole.isKey]

namespace EntitySchema

variable {entity : EntityDeclaration} {schema : EntitySchema} {options : WriteOptions}

def tableColumns (schema : EntitySchema) (counters : Bool) : List String :=
  (schema.properties.filter (·.inTable counters)).map (·.column)

def Denotes (schema : EntitySchema) (name : String) (property : Property) : Prop :=
  property.column = name ∨
    property.name = name ∧ ∀ other ∈ schema.properties, other.column ≠ name

def OnCounter (schema : EntitySchema) (condition : Condition) : Prop :=
  ∃ property ∈ schema.counters, schema.Denotes condition.column property

/-- A statement that writes one of the tables of an entity. All columns that it names are of this
table, except that conditions on the row can be on any property. -/
structure KeepsTo (schema : EntitySchema) (statement : GeneratedStatement) : Prop where
  table : statement.write.table =
    if statement.counter then schema.counterHome else schema.table
  written : ∀ column ∈ statement.write.writtenColumns,
    column ∈ schema.tableColumns statement.counter
  conditions : ∀ condition ∈ statement.write.conditions,
    statement.counter = false ∧ ∃ property ∈ schema.properties, condition.column = property.column

theorem mem_tableColumns {property : Property} {counters : Bool}
    (member : property ∈ schema.properties) (present : property.inTable counters = true) :
    property.column ∈ schema.tableColumns counters :=
  List.mem_map_of_mem (List.mem_filter.mpr ⟨member, present⟩)

theorem keyClause_inTable (built : entity.build = .ok schema) {key : KeyClause}
    {components : List (Property × FieldValue)} (restricts : key.Restricts entity components)
    (counters : Bool) : ∀ column ∈ key.columns, column ∈ schema.tableColumns counters := by
  rw [restricts.columns, ← primaryKey_columns built, List.forall_mem_map]
  intro property member
  obtain ⟨belongs, isKey⟩ := mem_primaryKey.mp member
  exact mem_tableColumns belongs (by simp [Property.inTable, isKey])

theorem denotes_unique (built : entity.build = .ok schema) {name : String}
    {first second : Property} (member : first ∈ schema.properties)
    (otherMember : second ∈ schema.properties) (denotes : schema.Denotes name first)
    (otherDenotes : schema.Denotes name second) : first = second := by
  obtain ⟨distinct, _⟩ := EntityDeclaration.built_of_build built
  rcases denotes with column | ⟨called, unmatched⟩ <;>
    rcases otherDenotes with otherColumn | ⟨otherCalled, otherUnmatched⟩
  · exact List.inj_on_of_nodup_map distinct.columns member otherMember
      (column.trans otherColumn.symm)
  · exact absurd column (otherUnmatched first member)
  · exact absurd otherColumn (unmatched second otherMember)
  · exact List.inj_on_of_nodup_map distinct.names member otherMember
      (called.trans otherCalled.symm)

theorem column_mem_iff (built : entity.build = .ok schema) {property : Property}
    (member : property ∈ schema.properties) :
    property.column ∈ schema.tableColumns false ↔ property.isCounter = false := by
  rw [← property.inTable_false_iff]
  refine ⟨fun listed => ?_, mem_tableColumns member⟩
  obtain ⟨other, among, same⟩ := List.mem_map.mp listed
  obtain ⟨belongs, present⟩ := List.mem_filter.mp among
  -- No two properties share a column, so it is this one that the table holds.
  have distinct := (EntityDeclaration.built_of_build built).1.columns
  rwa [List.inj_on_of_nodup_map distinct belongs member same] at present

theorem Resolves.mem_iff (built : entity.build = .ok schema) {condition : Condition}
    {bound : BoundCondition} (resolves : schema.Resolves condition bound) :
    bound.column ∈ schema.tableColumns false ↔ ¬ schema.OnCounter condition := by
  obtain ⟨_, property, member, denotes, column, _⟩ := resolves
  rw [column, column_mem_iff built member]
  constructor
  · rintro plain ⟨counter, among, otherDenotes⟩
    obtain ⟨belongs, counts⟩ := mem_counters.mp among
    rw [denotes_unique built belongs member otherDenotes denotes, plain] at counts
    cases counts
  · intro apart
    rw [Bool.eq_false_iff]
    exact fun counts => apart ⟨property, mem_counters.mpr ⟨member, counts⟩, denotes⟩

theorem forall_resolves_iff (built : entity.build = .ok schema) {conditions : List Condition}
    {resolved : List BoundCondition}
    (resolves : List.Forall₂ schema.Resolves conditions resolved) :
    (∀ bound ∈ resolved, bound.column ∈ schema.tableColumns false) ↔
      ∀ condition ∈ conditions, ¬ schema.OnCounter condition := by
  induction resolves with
  | nil => simp
  | cons first _ ih => rw [List.forall_mem_cons, List.forall_mem_cons, first.mem_iff built, ih]

theorem keepsTo_of_binds (built : entity.build = .ok schema) {request : Request}
    {purpose : Purpose} {statement : GeneratedStatement}
    (binds : Binds entity schema options request statement)
    (serves : schema.Serves purpose statement) : schema.KeepsTo statement := by
  cases binds with
  | insert key listed columns clause restricts plain encoded asks =>
      refine ⟨rfl, ?_, List.forall_mem_nil _⟩
      simp only [GeneratedStatement.plain, WriteStatement.writtenColumns, List.map_append]
      refine List.forall_mem_append.mpr ⟨?_, ?_⟩
      · rw [List.forall_mem_map]
        intro entry member
        exact keyClause_inTable built restricts false entry.1 (List.of_mem_zip member).1
      · rw [List.forall_mem_map]
        intro entry member
        obtain ⟨property, among, column, _⟩ := Outcome.exists_left encoded member
        obtain ⟨belongs, isPlain⟩ := List.mem_filter.mp (plain.mem among)
        rw [column]
        exact mem_tableColumns belongs (by simp [Property.inTable, isPlain])
  | update clause assignments key conditions asks something sets restricts resolved =>
      cases serves with
      | update mixed uncounted =>
          refine ⟨rfl, List.forall_mem_append.mpr ⟨?_, keyClause_inTable built restricts false⟩, ?_⟩
          · rw [List.forall_mem_map]
            intro entry member
            obtain ⟨_, _, property, belongs, _, _, column, _⟩ := sets entry member
            -- What is set can be anything but a key so far; the purpose leaves counters out.
            have listed : property.column ∈ assignments.map (·.1) :=
              column ▸ List.mem_map_of_mem member
            have plain : property.isCounter = false := by
              rw [Bool.eq_false_iff]
              exact fun counts => uncounted property (mem_counters.mpr ⟨belongs, counts⟩) listed
            rw [column]
            exact (column_mem_iff built belongs).mpr plain
          · intro condition member
            obtain ⟨_, _, _, property, belongs, _, column, _⟩ :=
              Outcome.exists_left resolved member
            exact ⟨rfl, property, belongs, column⟩
  | count property delta amount key member counter pending encoded restricts =>
      refine ⟨rfl, List.forall_mem_cons.mpr ⟨?_, keyClause_inTable built restricts true⟩,
        List.forall_mem_nil _⟩
      exact mem_tableColumns member (by simp [Property.inTable, counter])
  | delete key restricts =>
      exact ⟨rfl, keyClause_inTable built restricts false, List.forall_mem_nil _⟩
  | deleteCounters table key home restricts =>
      exact ⟨home, keyClause_inTable built restricts true, List.forall_mem_nil _⟩

theorem removeStatements_conditions (schema : EntitySchema) (key : List CqlValue)
    (options : WriteOptions) :
    ∀ statement ∈ schema.removeStatements key options, statement.write.conditions = [] := by
  unfold removeStatements
  intro statement member
  split at member
  · rw [List.mem_singleton.mp member]
    rfl
  · rcases List.mem_cons.mp member with rfl | companion
    · rfl
    · obtain ⟨table, _, rfl⟩ := List.mem_map.mp companion
      rfl

end EntitySchema

namespace Request

variable {entity : EntityDeclaration} {schema : EntitySchema} {options : WriteOptions}
  {request : Request} {statements : List GeneratedStatement}

def changesRow (schema : EntitySchema) : Request → Bool
  | .change _ changes => changes.any fun change => !schema.counts change
  | .insert _ _ | .remove _ | .removeAt _ => false

theorem keepsTo_of_generate (built : entity.build = .ok schema)
    (generated : request.generate schema options = .ok statements) :
    ∀ statement ∈ statements, schema.KeepsTo statement := by
  intro statement member
  obtain ⟨generation, made⟩ := exists_generation generated
  obtain ⟨purpose, _, serves⟩ :=
    Outcome.exists_left (EntitySchema.generation_serves built made) member
  exact EntitySchema.keepsTo_of_binds built (binds_of_generate built generated statement member)
    serves

/-- Every update of the row is under all conditions that were asked for. -/
theorem conditions_of_generate (generated : request.generate schema options = .ok statements) :
    (request.changesRow schema = true → ∃ statement ∈ statements,
      schema.Updates options statement) ∧
    ∀ statement ∈ statements, statement.write.conditions = [] ∨
      request.changesRow schema = true ∧ schema.Updates options statement := by
  cases request with
  | change fields changes =>
      obtain ⟨plain, counters, rfl, parts⟩ := EntitySchema.changeStatements_parts generated
      have changes_iff : (Request.change fields changes).changesRow schema = true ↔ plain ≠ [] := by
        rw [ne_eq, parts.plain_nil]
        simp [changesRow]
      constructor
      · intro changesRow
        obtain ⟨statement, member⟩ := List.exists_mem_of_ne_nil _ (changes_iff.mp changesRow)
        exact ⟨statement, List.mem_append_left _ member, parts.updates statement member⟩
      · refine List.forall_mem_append.mpr ⟨fun statement member => ?_, fun statement member => ?_⟩
        · exact Or.inr ⟨changes_iff.mpr (List.ne_nil_of_mem member), parts.updates statement member⟩
        · exact Or.inl (parts.increments statement member).conditions
  | insert strategy subject =>
      refine ⟨nofun, fun statement member => Or.inl ?_⟩
      obtain ⟨key, inserted, counters, _, inserts, counted, rfl⟩ :=
        EntitySchema.insertStatements_split generated
      rcases List.mem_append.mp member with row | counter
      · cases inserts with
        | nothing clustered => cases row
        | row mixed inserts =>
            obtain ⟨_, _, _, _, _, _, rfl⟩ := EntitySchema.insertStatement_ok inserts
            rw [List.mem_singleton.mp row]
            rfl
      · exact (EntitySchema.insertedCounters_part counted statement counter).conditions
  | remove fields =>
      obtain ⟨key, _, rfl⟩ := Outcome.map_eq_ok.mp generated
      exact ⟨nofun, fun statement member =>
        Or.inl (schema.removeStatements_conditions key options statement member)⟩
  | removeAt components =>
      obtain ⟨key, _, rfl⟩ := Outcome.map_eq_ok.mp generated
      exact ⟨nofun, fun statement member =>
        Or.inl (schema.removeStatements_conditions key options statement member)⟩

end Request

/-- The columns that statements name are those of the table that they write, but for what their
conditions are on. They all are unless the row is changed on the condition of a counter. -/
theorem generate_columns {entity : EntityDeclaration} {schema : EntitySchema}
    (built : entity.build = .ok schema) (options : WriteOptions) (request : Request)
    {statements : List GeneratedStatement}
    (generated : request.generate schema options = .ok statements) :
    (∀ statement ∈ statements, schema.KeepsTo statement) ∧
      ((∀ statement ∈ statements, ∀ column ∈ statement.write.columns,
          column ∈ schema.tableColumns statement.counter) ↔
        (request.changesRow schema = true →
          ∀ condition ∈ options.conditions, ¬ schema.OnCounter condition)) := by
  have keeps := Request.keepsTo_of_generate built generated
  obtain ⟨conditional, conditions⟩ := Request.conditions_of_generate generated
  refine ⟨keeps, fun own changesRow => ?_, fun apart statement member => ?_⟩
  · obtain ⟨statement, member, updates⟩ := conditional changesRow
    rw [← EntitySchema.forall_resolves_iff built updates.conditions]
    intro bound among
    have listed : bound.column ∈ statement.write.columns := by
      rw [WriteStatement.columns_eq]
      exact List.mem_append_right _ (List.mem_map_of_mem among)
    simpa [updates.counter] using own statement member bound.column listed
  · rw [WriteStatement.columns_eq]
    refine List.forall_mem_append.mpr ⟨(keeps statement member).written, ?_⟩
    rw [List.forall_mem_map]
    rcases conditions statement member with nothing | ⟨changesRow, updates⟩
    · simp [nothing]
    · rw [updates.counter, EntitySchema.forall_resolves_iff built updates.conditions]
      exact apart changesRow

def reader : EntityDeclaration :=
  .simple "Reader" "readers" [.partitionKey "id" .int,
    { Declaration.property "name" .text with column := some "full_name" }, .counter "visits"]

def readerSchema : EntitySchema :=
  ⟨"Reader", "readers",
    [⟨"id", "id", .partitionKey, ⟨.int, .simple (.native .int)⟩, none⟩,
      ⟨"name", "full_name", .plain, ⟨.text, .simple (.native .text)⟩, none⟩,
      ⟨"visits", "visits", .counter, ⟨.counter, .simple .counter⟩, none⟩],
    none, none, none, none, []⟩

def readerChange : Request :=
  .change (Fields.empty.set "id" (.int 1))
    [⟨"name", .assign (.text "Anna")⟩, ⟨"visits", .assign (.counter 1)⟩]

def whileReader (column : String) (value : FieldValue) : WriteOptions :=
  { WriteOptions.standard with conditions := [⟨column, .eq, value⟩] }

def readerStatements (column : String) (value : CqlValue) : List GeneratedStatement :=
  [.plain (.update "readers" .absent [("full_name", .replace (.text "Anna"))] ⟨["id"], [.int 1]⟩
      [⟨column, .eq, value⟩]),
    ⟨.update "readers_counters" .absent [("visits", .add (.bigInt 1))] ⟨["id"], [.int 1]⟩ [],
      true, none⟩]

theorem generate_columns_reader :
    reader.build = .ok readerSchema ∧
      readerChange.generate readerSchema (whileReader "name" (.text "Ann")) =
        .ok (readerStatements "full_name" (.text "Ann")) ∧
      ∀ statement ∈ readerStatements "full_name" (.text "Ann"), ∀ column ∈ statement.write.columns,
        column ∈ readerSchema.tableColumns statement.counter := by
  have built : reader.build = .ok readerSchema := rfl
  have generated : readerChange.generate readerSchema (whileReader "name" (.text "Ann")) =
      .ok (readerStatements "full_name" (.text "Ann")) := rfl
  obtain ⟨_, own_iff⟩ := generate_columns built _ _ generated
  refine ⟨built, generated, own_iff.mpr fun _ condition member => ?_⟩
  rw [List.mem_singleton.mp member]
  simp [EntitySchema.OnCounter, EntitySchema.Denotes, EntitySchema.counters, readerSchema,
    Property.isCounter]

/-- A condition on the counter goes to the table of the rows, which has no column for it. -/
theorem counter_condition_misplaced :
    reader.build = .ok readerSchema ∧
      readerChange.generate readerSchema (whileReader "visits" (.bigInt 3)) =
        .ok (readerStatements "visits" (.bigInt 3)) ∧
      ((readerStatements "visits" (.bigInt 3)).map fun statement =>
          (statement.counter, statement.write.query)) =
        [(false, "UPDATE readers SET full_name = ? WHERE id = ? IF visits = ?"),
          (true, "UPDATE readers_counters SET visits = visits + ? WHERE id = ?")] ∧
      "visits" ∉ readerSchema.tableColumns false ∧
      ¬ ∀ statement ∈ readerStatements "visits" (.bigInt 3), ∀ column ∈ statement.write.columns,
        column ∈ readerSchema.tableColumns statement.counter := by
  refine ⟨rfl, rfl, rfl, by decide, ?_⟩
  decide

end CqlMapper
