import CqlMapper.Statement.Generator
import CqlMapper.Proofs.Codec.RoundTrip
import CqlMapper.Proofs.Schema.Building
import CqlMapper.Proofs.Statement.Layout

/-!
What generated statements bind. Every value belongs to the clause where its placeholder stands, and
updates and deletes restrict each column of the primary key once, to the value of its component.
-/

namespace CqlMapper

inductive Request where
  | change (fields : Fields) (changes : List PropertyChange)
  | insert (strategy : InsertStrategy) (subject : Subject)
  | remove (fields : Fields)
  | removeAt (components : List FieldValue)

namespace Request

def generate (schema : EntitySchema) (options : WriteOptions) :
    Request → Except WriteError (List GeneratedStatement)
  | .change fields changes => schema.changeStatements fields changes options
  | .insert strategy subject => schema.insertStatements strategy subject options
  | .remove fields => (schema.keyOf fields).map fun key => schema.removeStatements key options
  | .removeAt components =>
    (schema.keyFrom components).map fun key => schema.removeStatements key options

def fields : Request → Fields
  | .change fields _ | .remove fields => fields
  | .insert _ subject => subject.value?
  | .removeAt _ => Fields.empty

def changes : Request → List PropertyChange
  | .change _ changes => changes
  | .insert _ subject => subject.changes
  | .remove _ | .removeAt _ => []

def current (request : Request) (property : Property) : FieldValue :=
  (request.fields property.name).getD .null

def components (schema : EntitySchema) (request : Request) : List (Property × FieldValue) :=
  match request with
  | .removeAt values => schema.primaryKey.zip values
  | request => schema.primaryKey.map fun property => (property, request.current property)

end Request

structure WriteOptions.Asks (options : WriteOptions) (clause : UsingClause) : Prop where
  ttl : clause.ttl.map Int32.toInt = options.ttl.map fun seconds => (seconds.toNat : Int)
  timestamp : clause.timestamp = options.timestamp

/-- A condition on the property whose column it names, or else on the property that it names. -/
def EntitySchema.Resolves (schema : EntitySchema) (condition : Condition)
    (bound : BoundCondition) : Prop :=
  bound.comparison = condition.comparison ∧ ∃ property ∈ schema.properties,
    (property.column = condition.column ∨ property.name = condition.column ∧
      ∀ other ∈ schema.properties, other.column ≠ condition.column) ∧
    bound.column = property.column ∧ property.encode condition.value = .ok bound.value

/-- A key that restricts each column of the primary key once, in order, to a value that encodes its
component. -/
structure KeyClause.Restricts (key : KeyClause) (entity : EntityDeclaration)
    (components : List (Property × FieldValue)) : Prop where
  columns : key.columns = entity.keyColumns
  nodup : key.columns.Nodup
  complete : key.Complete
  bound : List.Forall₂ (fun component restricted =>
    restricted.1 = component.1.column ∧ component.2.isNull = false ∧
      component.1.encode component.2 = .ok restricted.2 ∧ restricted.2.isNull = false)
    components (key.columns.zip key.values)

def Request.Sets (request : Request) (schema : EntitySchema) (entry : String × Assignment) : Prop :=
  ∃ change ∈ request.changes, ∃ property ∈ schema.properties,
    property.name = change.property ∧ property.isKey = false ∧ entry.1 = property.column ∧
      EntitySchema.assignmentOf property change.change = .ok entry.2

inductive Binds (entity : EntityDeclaration) (schema : EntitySchema) (options : WriteOptions)
    (request : Request) : GeneratedStatement → Prop
  | insert (key : KeyClause) (listed : List Property) (columns : List (String × CqlValue))
      (clause : UsingClause) (restricts : key.Restricts entity (request.components schema))
      (plain : listed.Sublist schema.plains)
      (encoded : List.Forall₂ (fun property entry =>
        entry.1 = property.column ∧ property.encode (request.current property) = .ok entry.2)
        listed columns)
      (asks : options.Asks clause) :
      Binds entity schema options request (.plain
        (.insert schema.table (key.columns.zip key.values ++ columns) options.ifNotExists clause))
  | update (clause : UsingClause) (assignments : List (String × Assignment)) (key : KeyClause)
      (conditions : List BoundCondition) (asks : options.Asks clause) (something : assignments ≠ [])
      (sets : ∀ entry ∈ assignments, request.Sets schema entry)
      (restricts : key.Restricts entity (request.components schema))
      (resolved : List.Forall₂ schema.Resolves options.conditions conditions) :
      Binds entity schema options request
        (.plain (.update schema.table clause assignments key conditions))
  | count (property : Property) (delta : FieldValue) (amount : CqlValue) (key : KeyClause)
      (member : property ∈ schema.properties) (counter : property.isCounter = true)
      (pending : ⟨property.name, .assign delta⟩ ∈ request.changes)
      (encoded : property.encode delta = .ok amount)
      (restricts : key.Restricts entity (request.components schema)) :
      Binds entity schema options request ⟨.update schema.counterHome .absent
        [(property.column, .add amount)] key [], true, property.writeLevel⟩
  | delete (key : KeyClause) (restricts : key.Restricts entity (request.components schema)) :
      Binds entity schema options request (.plain (.delete schema.table options.timestamp key))
  | deleteCounters (table : String) (key : KeyClause)
      (home : table = schema.counterHome)
      (restricts : key.Restricts entity (request.components schema)) :
      Binds entity schema options request ⟨.delete table none key, true, none⟩

namespace WriteError

theorem ofMapping_eq_ok {α : Type} {result : Except MappingError α} {value : α} :
    ofMapping result = .ok value ↔ result = .ok value := by
  cases result <;> simp [ofMapping]

end WriteError

namespace EntitySchema

variable {schema : EntitySchema} {options : WriteOptions}

theorem encodeKey_ok {property : Property} {value : Option FieldValue} {encoded : CqlValue}
    (encodes : encodeKey property value = .ok encoded) :
    (value.getD .null).isNull = false ∧ property.encode (value.getD .null) = .ok encoded ∧
      encoded.isNull = false := by
  cases value with
  | none => cases encodes
  | some component =>
      have isNull : component.isNull = false := by
        cases component <;> first | rfl | cases encodes
      have written : WriteError.ofMapping (property.encode component) = .ok encoded := by
        cases component <;> first | exact encodes | cases isNull
      have encoded := WriteError.ofMapping_eq_ok.mp written
      exact ⟨isNull, encoded, (Codec.encode_isNull encoded).trans isNull⟩

theorem usingOf_ok {clause : UsingClause} (asked : usingOf options = .ok clause) :
    options.Asks clause := by
  unfold usingOf at asked
  cases ttl : options.ttl with
  | none =>
      rw [ttl] at asked
      cases asked
      exact ⟨by rw [ttl]; rfl, rfl⟩
  | some seconds =>
      simp only [ttl] at asked
      split at asked
      · rename_i small
        cases asked
        have fits : (Int32.ofNat seconds.toNat).toInt = seconds.toNat := by
          apply Int32.toInt_ofNat_of_lt
          have last : Int32.maxValue.toInt = 2147483647 := rfl
          omega
        exact ⟨by simp [ttl, fits], rfl⟩
      · cases asked

theorem mem_of_property? {name : String} {property : Property}
    (found : schema.property? name = some property) :
    property ∈ schema.properties ∧ property.name = name :=
  ⟨List.mem_of_find?_eq_some found, by simpa using List.find?_some found⟩

theorem boundCondition_ok {condition : Condition} {bound : BoundCondition}
    (made : schema.boundCondition condition = .ok bound) : schema.Resolves condition bound := by
  obtain ⟨property, resolved, rest⟩ := Outcome.bind_eq_ok.mp made
  obtain ⟨value, encodes, whole⟩ := Outcome.bind_eq_ok.mp rest
  cases whole
  have encoded := WriteError.ofMapping_eq_ok.mp encodes
  refine ⟨rfl, property, ?_⟩
  unfold conditionProperty at resolved
  split at resolved
  · rename_i found
    cases resolved
    have column : property.column = condition.column := by simpa using List.find?_some found
    exact ⟨List.mem_of_find?_eq_some found, Or.inl column, rfl, encoded⟩
  · rename_i absent found
    cases resolved
    obtain ⟨member, name⟩ := mem_of_property? found
    have unmatched : ∀ other ∈ schema.properties, other.column ≠ condition.column := by
      simpa [propertyByColumn?] using absent
    exact ⟨member, Or.inr ⟨name, unmatched⟩, rfl, encoded⟩
  · cases resolved

theorem updateStatement_ok {assignments : List (String × Assignment)} {key : List CqlValue}
    {statement : GeneratedStatement}
    (made : schema.updateStatement assignments key options = .ok statement) :
    ∃ clause conditions, options.Asks clause ∧
      List.Forall₂ schema.Resolves options.conditions conditions ∧
      statement = .plain
        (.update schema.table clause assignments (schema.keyClause key) conditions) := by
  obtain ⟨clause, asked, rest⟩ := Outcome.bind_eq_ok.mp made
  obtain ⟨conditions, bound, whole⟩ := Outcome.bind_eq_ok.mp rest
  cases whole
  exact ⟨clause, conditions, usingOf_ok asked,
    (Outcome.mapM_eq_ok.mp bound).imp fun _ _ => boundCondition_ok, rfl⟩

theorem counterStatement_ok {property : Property} {change : Change} {key : List CqlValue}
    {statement : GeneratedStatement}
    (made : schema.counterStatement property change key = .ok statement) :
    ∃ delta amount, change = .assign delta ∧ property.encode delta = .ok amount ∧
      statement = ⟨.update schema.counterHome .absent [(property.column, .add amount)]
        (schema.keyClause key) [], true, property.writeLevel⟩ := by
  cases change with
  | assign delta =>
      obtain ⟨amount, encodes, whole⟩ := Outcome.bind_eq_ok.mp made
      cases whole
      exact ⟨delta, amount, rfl, WriteError.ofMapping_eq_ok.mp encodes, rfl⟩
  | _ => cases made

def EncodesKey (component : Property × FieldValue) (value : CqlValue) : Prop :=
  component.2.isNull = false ∧ component.1.encode component.2 = .ok value ∧ value.isNull = false

theorem restricts_of {entity : EntityDeclaration} (built : entity.build = .ok schema)
    {components : List (Property × FieldValue)} {values : List CqlValue}
    (named : components.map (·.1) = schema.primaryKey)
    (each : List.Forall₂ EncodesKey components values) :
    (schema.keyClause values).Restricts entity components := by
  have columns := primaryKey_columns built
  have bound : List.Forall₂ (fun component restricted =>
      restricted.1 = component.1.column ∧ component.2.isNull = false ∧
        component.1.encode component.2 = .ok restricted.2 ∧ restricted.2.isNull = false)
      components ((components.map (·.1.column)).zip values) := by
    clear named
    induction each with
    | nil => exact .nil
    | cons first _ ih => exact .cons ⟨rfl, first⟩ ih
  have counted : (schema.primaryKey.map (·.column)).length = values.length := by
    rw [← named, List.length_map, List.length_map, each.length_eq]
  refine ⟨columns, ?_, ⟨?_, counted⟩, ?_⟩
  · change (schema.primaryKey.map (·.column)).Nodup
    rw [columns]
    exact keyColumns_nodup built
  · change schema.primaryKey.map (·.column) ≠ []
    rw [columns]
    exact keyColumns_ne_nil built
  · change List.Forall₂ _ components ((schema.primaryKey.map (·.column)).zip values)
    rw [← named, List.map_map]
    exact bound

theorem keyOf_ok {entity : EntityDeclaration} (built : entity.build = .ok schema)
    {fields : Fields} {values : List CqlValue} (found : schema.keyOf fields = .ok values) :
    (schema.keyClause values).Restricts entity
      (schema.primaryKey.map fun property => (property, (fields property.name).getD .null)) := by
  apply restricts_of built
  · simp [Function.comp_def]
  · rw [List.forall₂_map_left_iff]
    exact (Outcome.mapM_eq_ok.mp found).imp fun _ _ => encodeKey_ok

theorem keyFrom_ok {entity : EntityDeclaration} (built : entity.build = .ok schema)
    {components : List FieldValue} {values : List CqlValue}
    (found : schema.keyFrom components = .ok values) :
    (schema.keyClause values).Restricts entity (schema.primaryKey.zip components) := by
  unfold keyFrom at found
  split at found
  · rename_i counted
    apply restricts_of built
    · exact List.map_fst_zip (Nat.le_of_eq counted.symm)
    · exact (Outcome.mapM_eq_ok.mp found).imp fun _ _ => encodeKey_ok
  · cases found

theorem property?_of_ok {name : String} {property : Property}
    (found : WriteError.ofMapping (schema.property name) = .ok property) :
    schema.property? name = some property := by
  have named := WriteError.ofMapping_eq_ok.mp found
  unfold EntitySchema.property at named
  split at named
  · rename_i present
    cases named
    exact present
  · cases named

theorem property_ok {name : String} {property : Property}
    (found : WriteError.ofMapping (schema.property name) = .ok property) :
    property ∈ schema.properties ∧ property.name = name :=
  mem_of_property? (property?_of_ok found)

inductive Planned (schema : EntitySchema) (key : List CqlValue) (options : WriteOptions)
    (change : PropertyChange) : PlannedChange → Prop
  | counter {property : Property} {statement : GeneratedStatement}
      (found : schema.property? change.property = some property)
      (counts : property.isCounter = true)
      (counted : schema.counterStatement property change.change key = .ok statement) :
      Planned schema key options change (.counter statement)
  | shared {property : Property} {assignment : Assignment}
      (found : schema.property? change.property = some property) (notKey : property.isKey = false)
      (plain : property.isCounter = false) (whole : change.change.isAssign = true)
      (assigned : assignmentOf property change.change = .ok assignment) :
      Planned schema key options change (.shared property.column assignment)
  | collection {property : Property} {assignment : Assignment} {statement : GeneratedStatement}
      (found : schema.property? change.property = some property) (notKey : property.isKey = false)
      (plain : property.isCounter = false) (part : change.change.isAssign = false)
      (assigned : assignmentOf property change.change = .ok assignment)
      (updated : schema.updateStatement [(property.column, assignment)] key options =
        .ok statement) :
      Planned schema key options change (.collection statement)

theorem plan_planned {key : List CqlValue} {change : PropertyChange} {planned : PlannedChange}
    (made : schema.plan key options change = .ok planned) :
    schema.Planned key options change planned := by
  obtain ⟨property, named, rest⟩ := Outcome.bind_eq_ok.mp made
  have found := property?_of_ok named
  split at rest
  · cases rest
  · rename_i key
    have notKey : property.isKey = false := by simpa using key
    split at rest
    · rename_i counts
      obtain ⟨statement, counted, whole⟩ := Outcome.bind_eq_ok.mp rest
      cases whole
      exact .counter found counts counted
    · rename_i counter
      have plain : property.isCounter = false := by simpa using counter
      obtain ⟨assignment, assigned, remaining⟩ := Outcome.bind_eq_ok.mp rest
      split at remaining
      · rename_i whole
        cases remaining
        exact .shared found notKey plain whole assigned
      · rename_i other
        have part : change.change.isAssign = false := by simpa using other
        obtain ⟨statement, updated, whole⟩ := Outcome.bind_eq_ok.mp remaining
        cases whole
        exact .collection found notKey plain part assigned updated

variable {entity : EntityDeclaration} {request : Request}

theorem binds_counterStatement {change : PropertyChange} {property : Property} {key : List CqlValue}
    {statement : GeneratedStatement} (pending : change ∈ request.changes)
    (member : property ∈ schema.properties) (name : property.name = change.property)
    (counter : property.isCounter = true)
    (restricts : (schema.keyClause key).Restricts entity (request.components schema))
    (made : schema.counterStatement property change.change key = .ok statement) :
    Binds entity schema options request statement := by
  obtain ⟨delta, amount, assigned, encoded, rfl⟩ := counterStatement_ok made
  have noted : ⟨property.name, .assign delta⟩ ∈ request.changes := by
    rw [name, ← assigned]
    exact pending
  exact .count property delta amount _ member counter noted encoded restricts

theorem binds_updateStatement {assignments : List (String × Assignment)} {key : List CqlValue}
    {statement : GeneratedStatement} (something : assignments ≠ [])
    (sets : ∀ entry ∈ assignments, request.Sets schema entry)
    (restricts : (schema.keyClause key).Restricts entity (request.components schema))
    (made : schema.updateStatement assignments key options = .ok statement) :
    Binds entity schema options request statement := by
  obtain ⟨clause, conditions, asks, resolved, rfl⟩ := updateStatement_ok made
  exact .update clause assignments _ conditions asks something sets restricts resolved

inductive Combined (schema : EntitySchema) (key : List CqlValue) (options : WriteOptions) :
    List (String × Assignment) → List GeneratedStatement → Prop
  | nothing : Combined schema key options [] []
  | one {entries : List (String × Assignment)} {statement : GeneratedStatement}
      (something : entries ≠ [])
      (updated : schema.updateStatement entries key options = .ok statement) :
      Combined schema key options entries [statement]

theorem Combined.nil_iff {key : List CqlValue} {entries : List (String × Assignment)}
    {combined : List GeneratedStatement} (combines : schema.Combined key options entries combined) :
    combined = [] ↔ entries = [] := by
  cases combines with
  | nothing => simp
  | one something updated => simp [something]

/-- Whole values first, then the statements of collections, then those of counters. -/
theorem changeStatements_split {fields : Fields} {changes : List PropertyChange}
    {statements : List GeneratedStatement}
    (made : schema.changeStatements fields changes options = .ok statements) :
    ∃ key planned combined, schema.keyOf fields = .ok key ∧
      changes.mapM (schema.plan key options) = .ok planned ∧
      schema.Combined key options (planned.filterMap PlannedChange.shared?) combined ∧
      statements = combined ++ planned.filterMap PlannedChange.collection? ++
        planned.filterMap PlannedChange.counter? := by
  obtain ⟨key, found, rest⟩ := Outcome.bind_eq_ok.mp made
  obtain ⟨planned, plans, remaining⟩ := Outcome.bind_eq_ok.mp rest
  cases entries : planned.filterMap PlannedChange.shared? with
  | nil =>
      simp only [entries, List.isEmpty_nil, if_true] at remaining
      cases remaining
      exact ⟨key, planned, [], found, plans, entries ▸ .nothing, rfl⟩
  | cons entry others =>
      simp only [entries, List.isEmpty_cons, Bool.false_eq_true, if_false] at remaining
      obtain ⟨combined, joined, whole⟩ := Outcome.bind_eq_ok.mp remaining
      obtain ⟨single, updated, rfl⟩ := Outcome.map_eq_ok.mp joined
      cases whole
      exact ⟨key, planned, [single], found, plans,
        entries ▸ .one (List.cons_ne_nil _ _) updated, rfl⟩

theorem collection_mem {planned : List PlannedChange} {statement : GeneratedStatement} :
    statement ∈ planned.filterMap PlannedChange.collection? ↔ .collection statement ∈ planned := by
  rw [List.mem_filterMap]
  refine ⟨?_, fun member => ⟨_, member, rfl⟩⟩
  rintro ⟨change, member, same⟩
  cases change <;> cases same
  exact member

theorem counter_mem {planned : List PlannedChange} {statement : GeneratedStatement} :
    statement ∈ planned.filterMap PlannedChange.counter? ↔ .counter statement ∈ planned := by
  rw [List.mem_filterMap]
  refine ⟨?_, fun member => ⟨_, member, rfl⟩⟩
  rintro ⟨change, member, same⟩
  cases change <;> cases same
  exact member

theorem sets_of_plan {key : List CqlValue} {change : PropertyChange} {column : String}
    {assignment : Assignment} (pending : change ∈ request.changes)
    (made : schema.plan key options change = .ok (.shared column assignment)) :
    request.Sets schema (column, assignment) := by
  cases plan_planned made with
  | shared found notKey plain whole assigned =>
      obtain ⟨member, name⟩ := mem_of_property? found
      exact ⟨change, pending, _, member, name, notKey, rfl, assigned⟩

theorem updates_of_plan (request : Request) {key : List CqlValue} {change : PropertyChange}
    {statement : GeneratedStatement} (pending : change ∈ request.changes)
    (made : schema.plan key options change = .ok (.collection statement)) :
    ∃ entry, request.Sets schema entry ∧
      schema.updateStatement [entry] key options = .ok statement := by
  cases plan_planned made with
  | collection found notKey plain part assigned updated =>
      obtain ⟨member, name⟩ := mem_of_property? found
      exact ⟨_, ⟨change, pending, _, member, name, notKey, rfl, assigned⟩, updated⟩

theorem binds_of_plan {key : List CqlValue} {change : PropertyChange}
    {statement : GeneratedStatement} (pending : change ∈ request.changes)
    (restricts : (schema.keyClause key).Restricts entity (request.components schema))
    (made : schema.plan key options change = .ok (.counter statement)) :
    Binds entity schema options request statement := by
  cases plan_planned made with
  | counter found counts counted =>
      obtain ⟨member, name⟩ := mem_of_property? found
      exact binds_counterStatement pending member name counts restricts counted

theorem binds_changeStatements (built : entity.build = .ok schema) {fields : Fields}
    {changes : List PropertyChange} {statements : List GeneratedStatement}
    (made : schema.changeStatements fields changes options = .ok statements) :
    ∀ statement ∈ statements, Binds entity schema options (.change fields changes) statement := by
  obtain ⟨key, planned, combined, found, plans, combines, rfl⟩ := changeStatements_split made
  have restricts : (schema.keyClause key).Restricts entity
      ((Request.change fields changes).components schema) :=
    keyOf_ok built found
  have together : ∀ statement ∈ combined,
      Binds entity schema options (.change fields changes) statement := by
    generalize entries : planned.filterMap PlannedChange.shared? = shared at combines
    cases combines with
    | nothing => exact List.forall_mem_nil _
    | one something updated =>
        refine List.forall_mem_singleton.mpr ?_
        refine binds_updateStatement something ?_ restricts updated
        intro entry member
        rw [← entries] at member
        obtain ⟨change, belongs, same⟩ := List.mem_filterMap.mp member
        obtain ⟨observed, pending, plan⟩ := Outcome.exists_of_mem_mapM plans belongs
        cases change <;> cases same
        exact sets_of_plan pending plan
  refine List.forall_mem_append.mpr ⟨List.forall_mem_append.mpr ⟨together, ?_⟩, ?_⟩
  · intro statement member
    obtain ⟨observed, pending, plan⟩ :=
      Outcome.exists_of_mem_mapM plans (collection_mem.mp member)
    obtain ⟨entry, sets, updated⟩ := updates_of_plan (.change fields changes) pending plan
    exact binds_updateStatement (List.cons_ne_nil _ _) (List.forall_mem_singleton.mpr sets)
      restricts updated
  · intro statement member
    obtain ⟨observed, pending, plan⟩ := Outcome.exists_of_mem_mapM plans (counter_mem.mp member)
    exact binds_of_plan pending restricts plan

theorem insertStatement_ok {strategy : InsertStrategy} {fields : Fields} {key : List CqlValue}
    {statement : GeneratedStatement}
    (made : schema.insertStatement strategy fields key options = .ok statement) :
    ∃ listed columns clause, listed.Sublist schema.plains ∧
      List.Forall₂ (fun (property : Property) entry => entry.1 = property.column ∧
        property.encode ((fields property.name).getD .null) = .ok entry.2) listed columns ∧
      options.Asks clause ∧
      statement = .plain (.insert schema.table (schema.keyColumns key ++ columns)
        options.ifNotExists clause) := by
  obtain ⟨columns, encoded, rest⟩ := Outcome.bind_eq_ok.mp made
  obtain ⟨clause, asked, whole⟩ := Outcome.bind_eq_ok.mp rest
  cases whole
  unfold insertedColumns at encoded
  have each := (Outcome.mapM_eq_ok.mp encoded).imp fun (property : Property) entry made =>
    show entry.1 = property.column ∧
        property.encode ((fields property.name).getD .null) = .ok entry.2 by
      obtain ⟨value, encodes, same⟩ := Outcome.bind_eq_ok.mp made
      cases same
      exact ⟨rfl, WriteError.ofMapping_eq_ok.mp encodes⟩
  exact ⟨_, columns, clause, List.filter_sublist, each, usingOf_ok asked, rfl⟩

theorem insertedCounters_ok {key : List CqlValue} {changes : List PropertyChange}
    {statements : List GeneratedStatement}
    (made : schema.insertedCounters key changes = .ok statements) :
    ∀ statement ∈ statements, ∃ change ∈ changes, ∃ property ∈ schema.properties,
      property.name = change.property ∧ property.isCounter = true ∧
        schema.counterStatement property change.change key = .ok statement := by
  obtain ⟨planned, plans, whole⟩ := Outcome.bind_eq_ok.mp made
  cases whole
  intro statement member
  obtain ⟨made, belongs, same⟩ := List.mem_filterMap.mp member
  cases same
  obtain ⟨change, pending, plan⟩ := Outcome.exists_of_mem_mapM plans belongs
  obtain ⟨property, found, rest⟩ := Outcome.bind_eq_ok.mp plan
  obtain ⟨propertyMember, name⟩ := property_ok found
  split at rest
  · rename_i counter
    obtain ⟨counted, makes, same⟩ := Outcome.bind_eq_ok.mp rest
    cases same
    exact ⟨change, pending, property, propertyMember, name, counter, makes⟩
  · cases rest

inductive Inserted (schema : EntitySchema) (strategy : InsertStrategy) (fields : Fields)
    (key : List CqlValue) (options : WriteOptions) : List GeneratedStatement → Prop
  | nothing (clustered : schema.isClusteredCounter = true) :
      Inserted schema strategy fields key options []
  | row {statement : GeneratedStatement} (mixed : schema.isClusteredCounter = false)
      (inserts : schema.insertStatement strategy fields key options = .ok statement) :
      Inserted schema strategy fields key options [statement]

theorem insertStatements_split {strategy : InsertStrategy} {subject : Subject}
    {statements : List GeneratedStatement}
    (made : schema.insertStatements strategy subject options = .ok statements) :
    ∃ key inserted counters, schema.keyOf subject.value? = .ok key ∧
      schema.Inserted strategy subject.value? key options inserted ∧
      schema.insertedCounters key subject.changes = .ok counters ∧
      statements = inserted ++ counters := by
  obtain ⟨key, found, rest⟩ := Outcome.bind_eq_ok.mp made
  cases clustered : schema.isClusteredCounter with
  | true =>
      simp only [clustered, if_true] at rest
      obtain ⟨inserted, nothing, remaining⟩ := Outcome.bind_eq_ok.mp rest
      obtain ⟨counters, counted, whole⟩ := Outcome.bind_eq_ok.mp remaining
      cases nothing
      cases whole
      exact ⟨key, [], counters, found, .nothing clustered, counted, rfl⟩
  | false =>
      simp only [clustered, Bool.false_eq_true, if_false] at rest
      obtain ⟨inserted, joined, remaining⟩ := Outcome.bind_eq_ok.mp rest
      obtain ⟨counters, counted, whole⟩ := Outcome.bind_eq_ok.mp remaining
      obtain ⟨single, inserts, rfl⟩ := Outcome.map_eq_ok.mp joined
      cases whole
      exact ⟨key, [single], counters, found, .row clustered inserts, counted, rfl⟩

theorem binds_insertStatements (built : entity.build = .ok schema) {strategy : InsertStrategy}
    {subject : Subject} {statements : List GeneratedStatement}
    (made : schema.insertStatements strategy subject options = .ok statements) :
    ∀ statement ∈ statements, Binds entity schema options (.insert strategy subject) statement := by
  obtain ⟨key, inserted, counters, found, inserts, counted, rfl⟩ := insertStatements_split made
  have restricts : (schema.keyClause key).Restricts entity
      ((Request.insert strategy subject).components schema) :=
    keyOf_ok built found
  refine List.forall_mem_append.mpr ⟨?_, ?_⟩
  · cases inserts with
    | nothing clustered => exact List.forall_mem_nil _
    | row mixed inserts =>
        obtain ⟨listed, columns, clause, plain, encoded, asks, rfl⟩ := insertStatement_ok inserts
        exact List.forall_mem_singleton.mpr
          (.insert _ listed columns clause restricts plain encoded asks)
  · intro statement member
    obtain ⟨change, pending, property, propertyMember, name, counter, makes⟩ :=
      insertedCounters_ok counted statement member
    exact binds_counterStatement pending propertyMember name counter restricts makes

theorem binds_removeStatements {key : List CqlValue}
    (restricts : (schema.keyClause key).Restricts entity (request.components schema)) :
    ∀ statement ∈ schema.removeStatements key options,
      Binds entity schema options request statement := by
  unfold removeStatements
  split
  · rename_i clustered
    intro statement member
    rw [List.mem_singleton.mp member]
    have home : schema.table = schema.counterHome := by
      simp [counterHome, counterTable?, clustered]
    exact .deleteCounters schema.table _ home restricts
  · intro statement member
    rcases List.mem_cons.mp member with rfl | companion
    · exact .delete _ restricts
    · obtain ⟨table, named, rfl⟩ := List.mem_map.mp companion
      have home : table = schema.counterHome := by
        rw [Option.mem_toList] at named
        simp [counterHome, Option.mem_def.mp named]
      exact .deleteCounters table _ home restricts

end EntitySchema

/-- The names that a schema puts into queries cannot be taken for placeholders. -/
structure EntitySchema.PlainNames (schema : EntitySchema) : Prop where
  table : Unmarked schema.table
  counterTable : ∀ table, schema.counterTable? = some table → Unmarked table
  columns : ∀ property ∈ schema.properties, Unmarked property.column

namespace EntitySchema.PlainNames

variable {entity : EntityDeclaration} {schema : EntitySchema}

theorem counterHome (plain : schema.PlainNames) : Unmarked schema.counterHome := by
  unfold EntitySchema.counterHome
  cases companion : schema.counterTable? with
  | none => exact plain.table
  | some table => exact plain.counterTable table companion

theorem keyColumns (plain : schema.PlainNames) (built : entity.build = .ok schema) :
    ∀ column ∈ entity.keyColumns, Unmarked column := by
  rw [← EntitySchema.primaryKey_columns built, List.forall_mem_map]
  intro property member
  exact plain.columns property (EntitySchema.mem_primaryKey.mp member).1

end EntitySchema.PlainNames

namespace Binds

variable {entity : EntityDeclaration} {schema : EntitySchema} {options : WriteOptions}
  {request : Request} {statement : GeneratedStatement}

theorem complete (binds : Binds entity schema options request statement) :
    statement.write.Complete := by
  cases binds with
  | insert => trivial
  | update _ _ _ _ _ something _ restricts => exact ⟨something, restricts.complete⟩
  | count _ _ _ _ _ _ _ _ restricts => exact ⟨List.cons_ne_nil _ _, restricts.complete⟩
  | delete _ restricts | deleteCounters _ _ _ restricts => exact restricts.complete

theorem names (binds : Binds entity schema options request statement)
    (built : entity.build = .ok schema) (plain : schema.PlainNames) :
    ∀ name ∈ statement.write.names, Unmarked name := by
  have keyNames {key : KeyClause} (restricts : key.Restricts entity (request.components schema)) :
      ∀ column ∈ key.columns, Unmarked column := by
    rw [restricts.columns]
    exact plain.keyColumns built
  cases binds with
  | insert key listed columns clause restricts subset encoded asks =>
      refine List.forall_mem_cons.mpr ⟨plain.table, ?_⟩
      rw [List.map_append]
      refine List.forall_mem_append.mpr ⟨?_, ?_⟩
      · intro column member
        obtain ⟨entry, belongs, rfl⟩ := List.mem_map.mp member
        exact keyNames restricts entry.1 (List.of_mem_zip belongs).1
      · rw [List.forall_mem_map]
        intro entry member
        obtain ⟨property, belongs, column, _⟩ := Outcome.exists_left encoded member
        rw [column]
        exact plain.columns property (List.mem_filter.mp (subset.mem belongs)).1
  | update clause assignments key conditions asks something sets restricts resolved =>
      refine List.forall_mem_cons.mpr ⟨plain.table, ?_⟩
      refine List.forall_mem_append.mpr ⟨List.forall_mem_append.mpr ⟨?_, keyNames restricts⟩, ?_⟩
      · rw [List.forall_mem_map]
        intro entry member
        obtain ⟨_, _, property, belongs, _, _, column, _⟩ := sets entry member
        rw [column]
        exact plain.columns property belongs
      · rw [List.forall_mem_map]
        intro condition member
        obtain ⟨_, _, _, property, belongs, _, column, _⟩ := Outcome.exists_left resolved member
        rw [column]
        exact plain.columns property belongs
  | count property delta amount key member counter pending encoded restricts =>
      refine List.forall_mem_cons.mpr ⟨plain.counterHome, ?_⟩
      refine List.forall_mem_append.mpr ⟨List.forall_mem_append.mpr ⟨?_, keyNames restricts⟩, ?_⟩
      · exact List.forall_mem_singleton.mpr (plain.columns property member)
      · simp
  | delete key restricts => exact List.forall_mem_cons.mpr ⟨plain.table, keyNames restricts⟩
  | deleteCounters table key home restricts =>
      exact List.forall_mem_cons.mpr ⟨home ▸ plain.counterHome, keyNames restricts⟩

end Binds

theorem Request.binds_of_generate {entity : EntityDeclaration} {schema : EntitySchema}
    (built : entity.build = .ok schema) {options : WriteOptions} {request : Request}
    {statements : List GeneratedStatement}
    (generated : request.generate schema options = .ok statements) :
    ∀ statement ∈ statements, Binds entity schema options request statement := by
  cases request with
  | change fields changes => exact EntitySchema.binds_changeStatements built generated
  | insert strategy subject => exact EntitySchema.binds_insertStatements built generated
  | remove fields =>
      obtain ⟨key, found, rfl⟩ := Outcome.map_eq_ok.mp generated
      exact EntitySchema.binds_removeStatements (EntitySchema.keyOf_ok built found)
  | removeAt components =>
      obtain ⟨key, found, rfl⟩ := Outcome.map_eq_ok.mp generated
      exact EntitySchema.binds_removeStatements (EntitySchema.keyFrom_ok built found)

/-- In every statement that is generated placeholders and bound values line up, and each value is
the one that its clause is about. -/
theorem generate_binds {entity : EntityDeclaration} {schema : EntitySchema}
    (built : entity.build = .ok schema) (plain : schema.PlainNames) (options : WriteOptions)
    (request : Request) {statements : List GeneratedStatement}
    (generated : request.generate schema options = .ok statements) :
    ∀ statement ∈ statements,
      statement.write.LinesUp ∧ Binds entity schema options request statement := by
  intro statement member
  have binds := Request.binds_of_generate built generated statement member
  exact ⟨WriteStatement.linesUp binds.complete (binds.names built plain), binds⟩

def members : EntityDeclaration :=
  .simple "Member" "members" [.clusteringKey "number" .int .desc, .partitionKey "team" .text,
    .property "name" .text, .property "tags" (.set .text)]

def membersSchema : EntitySchema :=
  ⟨"Member", "members",
    [⟨"number", "number", .clusteringKey .desc, ⟨.int, .simple (.native .int)⟩, none⟩,
      ⟨"team", "team", .partitionKey, ⟨.text, .simple (.native .text)⟩, none⟩,
      ⟨"name", "name", .plain, ⟨.text, .simple (.native .text)⟩, none⟩,
      ⟨"tags", "tags", .plain, ⟨.set .text, .set (.native .text)⟩, none⟩],
    none, none, none, none, []⟩

def nameChange : Request :=
  .change (Fields.empty.setAll [("team", .text "red"), ("number", .int 7)])
    [⟨"tags", .addToSet [.text "new"]⟩, ⟨"name", .assign (.text "Ann")⟩]

def whileNamed : WriteOptions :=
  { WriteOptions.standard with
    ttl := some 60, timestamp := some 5, conditions := [⟨"name", .eq, .text "An"⟩] }

def memberUpdate (column : String) (assignment : Assignment) : GeneratedStatement :=
  .plain (.update "members" ⟨some 60, some 5⟩ [(column, assignment)]
    ⟨["team", "number"], [.text "red", .int 7]⟩ [⟨"name", .eq, .text "An"⟩])

theorem generate_binds_members :
    ((memberUpdate "name" (.replace (.text "Ann"))).write.LinesUp ∧
      Binds members membersSchema whileNamed nameChange
        (memberUpdate "name" (.replace (.text "Ann")))) ∧
    (memberUpdate "tags" (.add (.set [.text "new"]))).write.LinesUp ∧
      Binds members membersSchema whileNamed nameChange
        (memberUpdate "tags" (.add (.set [.text "new"]))) := by
  have built : members.build = .ok membersSchema := rfl
  have plain : membersSchema.PlainNames := by
    refine ⟨rfl, fun table companion => ?_, ?_⟩
    · cases companion
    · simp [membersSchema, Unmarked, placeholderCount]
  have generated : nameChange.generate membersSchema whileNamed =
      .ok [memberUpdate "name" (.replace (.text "Ann")),
        memberUpdate "tags" (.add (.set [.text "new"]))] := rfl
  have each := generate_binds built plain whileNamed nameChange generated
  exact ⟨each _ List.mem_cons_self, each _ (List.mem_cons_of_mem _ List.mem_cons_self)⟩

end CqlMapper
