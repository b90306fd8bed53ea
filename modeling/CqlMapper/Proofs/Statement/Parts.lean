import CqlMapper.Proofs.Statement.Binding

/-!
The two kinds of statements that come of an operation. Plain statements have the timestamp and the
conditions that were asked for; those that write counters have neither.
-/

namespace CqlMapper

namespace WriteStatement

def timestamp? : WriteStatement → Option Int64
  | .insert _ _ _ options | .update _ options _ _ _ => options.timestamp
  | .delete _ timestamp _ => timestamp

def conditions : WriteStatement → List BoundCondition
  | .update _ _ _ _ conditions => conditions
  | .insert _ _ _ _ | .delete _ _ _ => []

end WriteStatement

namespace EntitySchema

variable {schema : EntitySchema} {options : WriteOptions}

def counts (schema : EntitySchema) (change : PropertyChange) : Bool :=
  (schema.property? change.property).any (·.isCounter)

structure PlainPart (schema : EntitySchema) (options : WriteOptions)
    (statement : GeneratedStatement) : Prop where
  counter : statement.counter = false
  mixed : schema.isClusteredCounter = false
  timestamp : statement.write.timestamp? = options.timestamp

structure CounterPart (statement : GeneratedStatement) : Prop where
  counter : statement.counter = true
  timestamp : statement.write.timestamp? = none
  conditions : statement.write.conditions = []

structure Updates (schema : EntitySchema) (options : WriteOptions)
    (statement : GeneratedStatement) : Prop extends PlainPart schema options statement where
  conditions : List.Forall₂ schema.Resolves options.conditions statement.write.conditions

theorem not_clustered {property : Property} (member : property ∈ schema.properties)
    (notKey : property.isKey = false) (plain : property.isCounter = false) :
    schema.isClusteredCounter = false := by
  have among : property ∈ schema.nonKeys := List.mem_filter.mpr ⟨member, by simp [notKey]⟩
  have other : schema.nonKeys.all (·.isCounter) = false := by
    rw [List.all_eq_false]
    exact ⟨property, among, by simp [plain]⟩
  simp [isClusteredCounter, other]

theorem updateStatement_updates {assignments : List (String × Assignment)} {key : List CqlValue}
    {statement : GeneratedStatement} (mixed : schema.isClusteredCounter = false)
    (made : schema.updateStatement assignments key options = .ok statement) :
    schema.Updates options statement := by
  obtain ⟨clause, conditions, asks, resolved, rfl⟩ := updateStatement_ok made
  exact ⟨⟨rfl, mixed, asks.timestamp⟩, resolved⟩

theorem counterStatement_part {property : Property} {change : Change} {key : List CqlValue}
    {statement : GeneratedStatement}
    (made : schema.counterStatement property change key = .ok statement) :
    CounterPart statement := by
  obtain ⟨delta, amount, _, _, rfl⟩ := counterStatement_ok made
  exact ⟨rfl, rfl, rfl⟩

inductive Plans (schema : EntitySchema) (options : WriteOptions) (change : PropertyChange) :
    PlannedChange → Prop
  | counter {statement : GeneratedStatement} (counted : schema.counts change = true)
      (part : CounterPart statement) : Plans schema options change (.counter statement)
  | shared {column : String} {assignment : Assignment} (plain : schema.counts change = false)
      (mixed : schema.isClusteredCounter = false) :
      Plans schema options change (.shared column assignment)
  | collection {statement : GeneratedStatement} (plain : schema.counts change = false)
      (updates : schema.Updates options statement) :
      Plans schema options change (.collection statement)

theorem counts_of_found {change : PropertyChange} {property : Property}
    (found : schema.property? change.property = some property) :
    schema.counts change = property.isCounter := by
  simp [counts, found]

theorem plan_plans {key : List CqlValue} {change : PropertyChange} {planned : PlannedChange}
    (made : schema.plan key options change = .ok planned) :
    schema.Plans options change planned := by
  cases plan_planned made with
  | counter found counter counted =>
      exact .counter ((counts_of_found found).trans counter) (counterStatement_part counted)
  | shared found notKey plain whole assigned =>
      have mixed := not_clustered (mem_of_property? found).1 notKey plain
      exact .shared ((counts_of_found found).trans plain) mixed
  | collection found notKey plain part assigned updated =>
      have mixed := not_clustered (mem_of_property? found).1 notKey plain
      have updates := updateStatement_updates mixed updated
      exact .collection ((counts_of_found found).trans plain) updates

structure ChangeParts (schema : EntitySchema) (options : WriteOptions)
    (changes : List PropertyChange) (plain counters : List GeneratedStatement) : Prop where
  updates : ∀ statement ∈ plain, schema.Updates options statement
  increments : ∀ statement ∈ counters, CounterPart statement
  plain_nil : plain = [] ↔ ∀ change ∈ changes, schema.counts change = true
  counters_nil : counters = [] ↔ ∀ change ∈ changes, schema.counts change = false

theorem filterMap_nil_iff {planned : List PlannedChange} {changes : List PropertyChange}
    (plans : List.Forall₂ (schema.Plans options) changes planned) :
    (planned.filterMap PlannedChange.shared? = [] ∧
        planned.filterMap PlannedChange.collection? = [] ↔
      ∀ change ∈ changes, schema.counts change = true) ∧
    (planned.filterMap PlannedChange.counter? = [] ↔
      ∀ change ∈ changes, schema.counts change = false) := by
  induction plans with
  | nil => simp
  | cons plan _ ih =>
      obtain ⟨plainly, counted⟩ := ih
      simp only [List.filterMap_cons, List.forall_mem_cons]
      cases plan with
      | counter counts part =>
          simp only [PlannedChange.shared?, PlannedChange.collection?, PlannedChange.counter?,
            counts, plainly, reduceCtorEq, true_and, false_and, and_self]
      | shared plain mixed =>
          simp only [PlannedChange.shared?, PlannedChange.collection?, PlannedChange.counter?,
            plain, counted, reduceCtorEq, true_and, false_and, and_self, Bool.false_eq_true]
      | collection plain updates =>
          simp only [PlannedChange.shared?, PlannedChange.collection?, PlannedChange.counter?,
            plain, counted, reduceCtorEq, true_and, false_and, and_false, and_self,
            Bool.false_eq_true]

theorem changeStatements_parts {fields : Fields} {changes : List PropertyChange}
    {statements : List GeneratedStatement}
    (made : schema.changeStatements fields changes options = .ok statements) :
    ∃ plain counters, statements = plain ++ counters ∧
      schema.ChangeParts options changes plain counters := by
  obtain ⟨key, planned, combined, found, planning, combines, rfl⟩ := changeStatements_split made
  have plans := (Outcome.mapM_eq_ok.mp planning).imp fun _ _ => plan_plans
  obtain ⟨plainly, counted⟩ := filterMap_nil_iff plans
  have combined_nil := combines.nil_iff
  have together : ∀ statement ∈ combined, schema.Updates options statement := by
    generalize entries : planned.filterMap PlannedChange.shared? = shared at combines
    cases combines with
    | nothing => exact List.forall_mem_nil _
    | one something updated =>
        obtain ⟨entry, member⟩ := List.exists_mem_of_ne_nil _ something
        rw [← entries] at member
        obtain ⟨change, belongs, same⟩ := List.mem_filterMap.mp member
        obtain ⟨observed, _, plan⟩ := Outcome.exists_left plans belongs
        have mixed : schema.isClusteredCounter = false := by
          cases plan with
          | shared plain mixed => exact mixed
          | counter | collection => cases same
        exact List.forall_mem_singleton.mpr (updateStatement_updates mixed updated)
  refine ⟨combined ++ planned.filterMap PlannedChange.collection?,
    planned.filterMap PlannedChange.counter?, rfl, ?_, ?_, ?_, counted⟩
  · refine List.forall_mem_append.mpr ⟨together, ?_⟩
    intro statement member
    obtain ⟨change, _, plan⟩ := Outcome.exists_left plans (collection_mem.mp member)
    cases plan with
    | collection plain updates => exact updates
  · intro statement member
    obtain ⟨change, _, plan⟩ := Outcome.exists_left plans (counter_mem.mp member)
    cases plan with
    | counter counted part => exact part
  · rw [List.append_eq_nil_iff, combined_nil]
    exact plainly

theorem insertedCounters_part {key : List CqlValue} {changes : List PropertyChange}
    {statements : List GeneratedStatement}
    (made : schema.insertedCounters key changes = .ok statements) :
    ∀ statement ∈ statements, CounterPart statement := by
  intro statement member
  obtain ⟨_, _, _, _, _, _, counted⟩ := insertedCounters_ok made statement member
  exact counterStatement_part counted

theorem insertStatements_parts {strategy : InsertStrategy} {subject : Subject}
    {statements : List GeneratedStatement}
    (made : schema.insertStatements strategy subject options = .ok statements) :
    ∀ statement ∈ statements, schema.PlainPart options statement ∨ CounterPart statement := by
  obtain ⟨key, inserted, counters, found, inserts, counted, rfl⟩ := insertStatements_split made
  refine List.forall_mem_append.mpr ⟨?_, ?_⟩
  · cases inserts with
    | nothing clustered => exact List.forall_mem_nil _
    | row mixed inserts =>
        obtain ⟨listed, columns, clause, _, _, asks, rfl⟩ := insertStatement_ok inserts
        exact List.forall_mem_singleton.mpr (Or.inl ⟨rfl, mixed, asks.timestamp⟩)
  · exact fun statement member => Or.inr (insertedCounters_part counted statement member)

theorem removeStatements_parts (schema : EntitySchema) (key : List CqlValue)
    (options : WriteOptions) :
    ∀ statement ∈ schema.removeStatements key options,
      schema.PlainPart options statement ∨ CounterPart statement := by
  unfold removeStatements
  intro statement member
  split at member
  · rw [List.mem_singleton.mp member]
    exact Or.inr ⟨rfl, rfl, rfl⟩
  · rename_i mixed
    rcases List.mem_cons.mp member with rfl | companion
    · exact Or.inl ⟨rfl, by simpa using mixed, rfl⟩
    · obtain ⟨table, _, rfl⟩ := List.mem_map.mp companion
      exact Or.inr ⟨rfl, rfl, rfl⟩

/-- Every statement of an operation is plain, and then has its timestamp, or writes counters. -/
theorem generate_parts {request : Request} {statements : List GeneratedStatement}
    (generated : request.generate schema options = .ok statements) :
    ∀ statement ∈ statements, schema.PlainPart options statement ∨ CounterPart statement := by
  cases request with
  | change fields changes =>
      obtain ⟨plain, counters, rfl, parts⟩ := changeStatements_parts generated
      refine List.forall_mem_append.mpr ⟨?_, ?_⟩
      · exact fun statement member => Or.inl (parts.updates statement member).toPlainPart
      · exact fun statement member => Or.inr (parts.increments statement member)
  | insert strategy subject => exact insertStatements_parts generated
  | remove fields =>
      obtain ⟨key, _, rfl⟩ := Outcome.map_eq_ok.mp generated
      exact schema.removeStatements_parts key options
  | removeAt components =>
      obtain ⟨key, _, rfl⟩ := Outcome.map_eq_ok.mp generated
      exact schema.removeStatements_parts key options

end EntitySchema

end CqlMapper
