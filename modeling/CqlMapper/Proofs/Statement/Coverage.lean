import CqlMapper.Proofs.Record.Assigned
import CqlMapper.Proofs.Statement.Parts

/-!
Where each change goes. Whole values of plain properties share one update, every other change has a
statement of its own, and no change is lost, repeated or moved.
-/

namespace CqlMapper

inductive Property.Performs (property : Property) : Change → Assignment → Prop
  | assign {value : FieldValue} {encoded : CqlValue}
      (encodes : property.encode value = .ok encoded) :
      Performs property (.assign value) (.replace encoded)
  | addToSet {values : List FieldValue} {encoded : List CqlValue}
      (shape : property.type.isSet = true)
      (encodes : property.codec.element.encodeAll values = .ok encoded) :
      Performs property (.addToSet values) (.add (.set encoded))
  | removeFromSet {values : List FieldValue} {encoded : List CqlValue}
      (shape : property.type.isSet = true)
      (encodes : property.codec.element.encodeAll values = .ok encoded) :
      Performs property (.removeFromSet values) (.subtract (.set encoded))
  | append {values : List FieldValue} {encoded : List CqlValue}
      (shape : property.type.isList = true)
      (encodes : property.codec.element.encodeAll values = .ok encoded) :
      Performs property (.append values) (.add (.list encoded))
  | prepend {values : List FieldValue} {encoded : List CqlValue}
      (shape : property.type.isList = true)
      (encodes : property.codec.element.encodeAll values = .ok encoded) :
      Performs property (.prepend values) (.addBefore (.list encoded))
  | setAt {index : Nat} {value : FieldValue} {encoded : CqlValue}
      (shape : property.type.isList = true)
      (encodes : property.codec.element.encode value = .ok encoded) :
      Performs property (.setAt index value) (.replaceAt index encoded)
  | removeAt {index : Nat} (shape : property.type.isList = true) :
      Performs property (.removeAt index) (.eraseAt index)
  | putToMap {entries : List (FieldValue × FieldValue)} {encoded : List (CqlValue × CqlValue)}
      (shape : property.type.isMap = true)
      (encodes : (EntitySchema.keyCodec property).encodeEntries property.codec.element entries =
        .ok encoded) :
      Performs property (.putToMap entries) (.add (.map encoded))
  | removeFromMap {keys : List FieldValue} {encoded : List CqlValue}
      (shape : property.type.isMap = true)
      (encodes : (EntitySchema.keyCodec property).encodeAll keys = .ok encoded) :
      Performs property (.removeFromMap keys) (.subtract (.set encoded))
  | clear : Performs property .clear .erase

namespace EntitySchema

variable {schema : EntitySchema} {options : WriteOptions}

def isWhole (schema : EntitySchema) (change : PropertyChange) : Bool :=
  !schema.counts change && change.change.isAssign

def isPart (schema : EntitySchema) (change : PropertyChange) : Bool :=
  !schema.counts change && !change.change.isAssign

inductive UpdateOf (schema : EntitySchema) (options : WriteOptions) (key : KeyClause)
    (entries : List (String × Assignment)) : GeneratedStatement → Prop
  | update {clause : UsingClause} {conditions : List BoundCondition} (asks : options.Asks clause)
      (resolved : List.Forall₂ schema.Resolves options.conditions conditions) :
      UpdateOf schema options key entries
        (.plain (.update schema.table clause entries key conditions))

def Assigns (schema : EntitySchema) (change : PropertyChange) (entry : String × Assignment) :
    Prop :=
  ∃ property value encoded, schema.property? change.property = some property ∧
    property.isKey = false ∧ property.isCounter = false ∧ change.change = .assign value ∧
    property.encode value = .ok encoded ∧ entry = (property.column, .replace encoded)

def Performs (schema : EntitySchema) (options : WriteOptions) (key : KeyClause)
    (change : PropertyChange) (statement : GeneratedStatement) : Prop :=
  ∃ property assignment, schema.property? change.property = some property ∧
    property.isKey = false ∧ property.isCounter = false ∧
    property.Performs change.change assignment ∧
    schema.UpdateOf options key [(property.column, assignment)] statement

def Increments (schema : EntitySchema) (key : KeyClause) (change : PropertyChange)
    (statement : GeneratedStatement) : Prop :=
  ∃ property delta amount, schema.property? change.property = some property ∧
    property.isCounter = true ∧ change.change = .assign delta ∧
    property.encode delta = .ok amount ∧
    statement = ⟨.update schema.counterHome .absent [(property.column, .add amount)] key [], true,
      property.writeLevel⟩

inductive Combines (schema : EntitySchema) (options : WriteOptions) (key : KeyClause) :
    List PropertyChange → List GeneratedStatement → Prop
  | nothing : Combines schema options key [] []
  | one {changes : List PropertyChange} {entries : List (String × Assignment)}
      {statement : GeneratedStatement} (something : changes ≠ [])
      (assigns : List.Forall₂ schema.Assigns changes entries)
      (update : schema.UpdateOf options key entries statement) :
      Combines schema options key changes [statement]

structure Covers (schema : EntitySchema) (options : WriteOptions) (key : KeyClause)
    (changes : List PropertyChange) (combined separate increments : List GeneratedStatement) :
    Prop where
  combined : schema.Combines options key (changes.filter schema.isWhole) combined
  separate : List.Forall₂ (schema.Performs options key) (changes.filter schema.isPart) separate
  increments : List.Forall₂ (schema.Increments key) (changes.filter schema.counts) increments

theorem requireShape_ok {property : Property} {change : Change} {fits : FieldType → Bool}
    {shaped : Unit} (required : requireShape property change fits = .ok shaped) :
    fits property.type = true := by
  unfold requireShape at required
  split at required
  · rename_i fitting
    exact fitting
  · cases required

theorem assignmentOf_performs {property : Property} {change : Change} {assignment : Assignment}
    (made : assignmentOf property change = .ok assignment) :
    property.Performs change assignment := by
  cases change with
  | assign value =>
      obtain ⟨encoded, encodes, whole⟩ := Outcome.bind_eq_ok.mp made
      cases whole
      exact .assign (WriteError.ofMapping_eq_ok.mp encodes)
  | clear =>
      cases made
      exact .clear
  | removeAt index =>
      obtain ⟨_, shaped, rest⟩ := Outcome.bind_eq_ok.mp made
      cases rest
      exact .removeAt (requireShape_ok shaped)
  | addToSet values | removeFromSet values | append values | prepend values | setAt index value
  | putToMap entries | removeFromMap keys =>
      obtain ⟨_, shaped, rest⟩ := Outcome.bind_eq_ok.mp made
      obtain ⟨encoded, encodes, whole⟩ := Outcome.bind_eq_ok.mp rest
      cases whole
      have shape := requireShape_ok shaped
      have encodes := WriteError.ofMapping_eq_ok.mp encodes
      constructor <;> assumption

theorem updateStatement_of {entries : List (String × Assignment)} {key : List CqlValue}
    {statement : GeneratedStatement}
    (made : schema.updateStatement entries key options = .ok statement) :
    schema.UpdateOf options (schema.keyClause key) entries statement := by
  obtain ⟨clause, conditions, asks, resolved, rfl⟩ := updateStatement_ok made
  exact .update asks resolved

theorem shared_assigns {key : List CqlValue} {change : PropertyChange} {planned : PlannedChange}
    (plan : schema.Planned key options change planned) (whole : schema.isWhole change = true) :
    ∃ entry, planned.shared? = some entry ∧ schema.Assigns change entry := by
  simp only [isWhole, Bool.and_eq_true, Bool.not_eq_true'] at whole
  obtain ⟨plain, isAssign⟩ := whole
  cases plan with
  | counter found counts counted =>
      rw [counts_of_found found, counts] at plain
      cases plain
  | collection found notKey notCounter part =>
      rw [part] at isAssign
      cases isAssign
  | @shared property assignment found notKey notCounter _ assigned =>
      refine ⟨(property.column, assignment), rfl, ?_⟩
      obtain ⟨name, change⟩ := change
      cases assignmentOf_performs assigned with
      | assign encodes => exact ⟨property, _, _, found, notKey, notCounter, rfl, encodes, rfl⟩
      | _ => cases isAssign

theorem shared_none {key : List CqlValue} {change : PropertyChange} {planned : PlannedChange}
    (plan : schema.Planned key options change planned) (other : schema.isWhole change = false) :
    planned.shared? = none := by
  cases plan with
  | counter | collection => rfl
  | shared found notKey plain whole assigned =>
      simp [isWhole, counts_of_found found, plain, whole] at other

theorem collection_performs {key : List CqlValue} {change : PropertyChange}
    {planned : PlannedChange} (plan : schema.Planned key options change planned)
    (part : schema.isPart change = true) :
    ∃ statement, planned.collection? = some statement ∧
      schema.Performs options (schema.keyClause key) change statement := by
  simp only [isPart, Bool.and_eq_true, Bool.not_eq_true'] at part
  obtain ⟨plain, notAssign⟩ := part
  cases plan with
  | counter found counts counted =>
      rw [counts_of_found found, counts] at plain
      cases plain
  | shared found notKey notCounter whole =>
      rw [whole] at notAssign
      cases notAssign
  | @collection property assignment statement found notKey notCounter _ assigned updated =>
      exact ⟨statement, rfl, property, assignment, found, notKey, notCounter,
        assignmentOf_performs assigned, updateStatement_of updated⟩

theorem collection_none {key : List CqlValue} {change : PropertyChange} {planned : PlannedChange}
    (plan : schema.Planned key options change planned) (other : schema.isPart change = false) :
    planned.collection? = none := by
  cases plan with
  | counter | shared => rfl
  | collection found notKey plain part assigned updated =>
      simp [isPart, counts_of_found found, plain, part] at other

theorem counterStatement_increments {key : List CqlValue} {change : PropertyChange}
    {property : Property} {statement : GeneratedStatement}
    (found : schema.property? change.property = some property)
    (counts : property.isCounter = true)
    (counted : schema.counterStatement property change.change key = .ok statement) :
    schema.Increments (schema.keyClause key) change statement := by
  obtain ⟨delta, amount, assigned, encodes, same⟩ := counterStatement_ok counted
  exact ⟨property, delta, amount, found, counts, assigned, encodes, same⟩

theorem counter_increments {key : List CqlValue} {change : PropertyChange}
    {planned : PlannedChange} (plan : schema.Planned key options change planned)
    (counts : schema.counts change = true) :
    ∃ statement, planned.counter? = some statement ∧
      schema.Increments (schema.keyClause key) change statement := by
  cases plan with
  | counter found counter counted =>
      exact ⟨_, rfl, counterStatement_increments found counter counted⟩
  | shared found notKey plain | collection found notKey plain =>
      rw [counts_of_found found, plain] at counts
      cases counts

theorem counter_none {key : List CqlValue} {change : PropertyChange} {planned : PlannedChange}
    (plan : schema.Planned key options change planned) (other : schema.counts change = false) :
    planned.counter? = none := by
  cases plan with
  | shared | collection => rfl
  | counter found counts counted =>
      rw [counts_of_found found, counts] at other
      cases other

theorem changeStatements_cover {fields : Fields} {changes : List PropertyChange}
    {statements : List GeneratedStatement}
    (made : schema.changeStatements fields changes options = .ok statements) :
    ∃ key combined separate increments, schema.keyOf fields = .ok key ∧
      statements = combined ++ separate ++ increments ∧
      schema.Covers options (schema.keyClause key) changes combined separate increments := by
  obtain ⟨key, planned, combined, found, planning, combines, rfl⟩ := changeStatements_split made
  have plans := (Outcome.mapM_eq_ok.mp planning).imp fun _ _ => plan_planned
  have assigns := Outcome.forall₂_filterMap plans (fun _ _ => shared_assigns)
    (fun _ _ => shared_none)
  have performs := Outcome.forall₂_filterMap plans (fun _ _ => collection_performs)
    (fun _ _ => collection_none)
  have increments := Outcome.forall₂_filterMap plans (fun _ _ => counter_increments)
    (fun _ _ => counter_none)
  refine ⟨key, combined, _, _, found, rfl, ?_, performs, increments⟩
  generalize planned.filterMap PlannedChange.shared? = entries at assigns combines
  generalize changes.filter schema.isWhole = wholes at assigns
  cases combines with
  | nothing =>
      cases assigns
      exact .nothing
  | one something updated =>
      refine .one ?_ assigns (updateStatement_of updated)
      rintro rfl
      cases assigns
      exact something rfl

/-- Amounts of counters are no values of other properties. -/
theorem Assigns.uncounted {entity : EntityDeclaration} (built : entity.build = .ok schema)
    {change : PropertyChange} {entry : String × Assignment} (assigns : schema.Assigns change entry)
    (amount : Int64) : change.change ≠ .assign (.counter amount) := by
  obtain ⟨property, value, encoded, found, notKey, plain, assigned, encodes, _⟩ := assigns
  intro counted
  rw [assigned] at counted
  cases counted
  obtain ⟨declaration, _, makes⟩ := Outcome.exists_left
    (EntityDeclaration.built_of_build built).1.each (mem_of_property? found).1
  obtain ⟨mapper, owner, chosen⟩ := makes.codec
  have counterType := Codec.counter_of_encode chosen encodes
  rw [Property.isCounter, makes.role, Declaration.role] at plain
  rw [Property.isKey, makes.role, Declaration.role] at notKey
  cases keyed : declaration.key with
  | none => simp [keyed, counterType] at plain
  | some part => cases part <;> simp [keyed, PropertyRole.isKey] at notKey

/-- Values of different properties are for different columns. -/
theorem columns_of_assigns (columns : (schema.properties.map (·.column)).Nodup)
    {changes : List PropertyChange} {entries : List (String × Assignment)}
    (assigns : List.Forall₂ schema.Assigns changes entries)
    (names : (changes.map (·.property)).Nodup) : (entries.map (·.1)).Nodup := by
  induction assigns with
  | nil => exact List.nodup_nil
  | @cons change entry changes entries first others ih =>
      obtain ⟨fresh, rest⟩ := List.nodup_cons.mp names
      refine List.nodup_cons.mpr ⟨?_, ih rest⟩
      intro repeated
      obtain ⟨later, among, same⟩ := List.mem_map.mp repeated
      obtain ⟨source, belongs, property, _, _, found, _, _, _, _, rfl⟩ :=
        Outcome.exists_left others among
      obtain ⟨own, _, _, present, _, _, _, _, rfl⟩ := first
      obtain ⟨ownMember, ownName⟩ := mem_of_property? present
      obtain ⟨member, name⟩ := mem_of_property? found
      have equal : property = own := List.inj_on_of_nodup_map columns member ownMember same
      refine fresh (List.mem_map.mpr ⟨source, belongs, ?_⟩)
      rw [← name, equal, ownName]

theorem columns_of_record {entity : EntityDeclaration} (built : entity.build = .ok schema)
    {record : Record} (reached : record.Reached) {entries : List (String × Assignment)}
    (assigns : List.Forall₂ schema.Assigns (record.dirtyChanges.filter schema.isWhole) entries) :
    (entries.map (·.1)).Nodup := by
  have wholes : ∀ change, schema.isWhole change = true → change.change.isAssign = true := by
    intro change whole
    simp only [isWhole, Bool.and_eq_true] at whole
    exact whole.2
  have uncounted : ∀ change ∈ record.dirtyChanges.filter schema.isWhole, ∀ amount,
      change.change ≠ .assign (.counter amount) := by
    intro change member
    obtain ⟨entry, _, assigned⟩ := Outcome.exists_left assigns.flip member
    exact Assigns.uncounted built assigned
  have names := reached.tidy.wholes_nodup wholes uncounted
  exact columns_of_assigns (EntityDeclaration.built_of_build built).1.columns assigns names

end EntitySchema

def WriteStatement.setColumns : WriteStatement → List String
  | .update _ _ assignments _ _ => assignments.map (·.1)
  | .insert _ _ _ _ | .delete _ _ _ => []

/-- The statements made of some changes perform each of them once: whole values of plain properties
together, other changes one by one, and increments last. When a record reports the changes, no
column is set twice in the first statement. -/
theorem changes_covered {entity : EntityDeclaration} {schema : EntitySchema}
    (built : entity.build = .ok schema) (options : WriteOptions) (fields : Fields)
    (changes : List PropertyChange) {statements : List GeneratedStatement}
    (generated : schema.changeStatements fields changes options = .ok statements) :
    ∃ key combined separate increments,
      (schema.keyClause key).Restricts entity
        ((Request.change fields changes).components schema) ∧
      statements = combined ++ separate ++ increments ∧
      schema.Covers options (schema.keyClause key) changes combined separate increments ∧
      (∀ statement ∈ statements, Piece.Spells statement.write.pieces statement.write.clauses) ∧
      ∀ record : Record, record.Reached → changes = record.dirtyChanges →
        ∀ statement ∈ combined, statement.write.setColumns.Nodup := by
  obtain ⟨key, combined, separate, increments, found, split, covers⟩ :=
    EntitySchema.changeStatements_cover generated
  have restricts : (schema.keyClause key).Restricts entity
      ((Request.change fields changes).components schema) :=
    EntitySchema.keyOf_ok built found
  have spelled : ∀ statement ∈ statements,
      Piece.Spells statement.write.pieces statement.write.clauses := by
    intro statement member
    have binds := EntitySchema.binds_changeStatements built generated statement member
    exact WriteStatement.spells_pieces binds.complete
  refine ⟨key, combined, separate, increments, restricts, split, covers, spelled, ?_⟩
  rintro record reached rfl
  have combines := covers.combined
  generalize wholes : record.dirtyChanges.filter schema.isWhole = changes at combines
  cases combines with
  | nothing => exact List.forall_mem_nil _
  | one something assigns update =>
      rw [← wholes] at assigns
      have columns := EntitySchema.columns_of_record built reached assigns
      refine List.forall_mem_singleton.mpr ?_
      cases update with
      | update asks resolved => exact columns

def player : EntityDeclaration :=
  .simple "Player" "players" [.partitionKey "id" .int, .property "name" .text,
    .property "club" .text, .property "scores" (.list .int), .counter "wins"]

def playerSchema : EntitySchema :=
  ⟨"Player", "players",
    [⟨"id", "id", .partitionKey, ⟨.int, .simple (.native .int)⟩, none⟩,
      ⟨"name", "name", .plain, ⟨.text, .simple (.native .text)⟩, none⟩,
      ⟨"club", "club", .plain, ⟨.text, .simple (.native .text)⟩, none⟩,
      ⟨"scores", "scores", .plain, ⟨.list .int, .list (.native .int)⟩, none⟩,
      ⟨"wins", "wins", .counter, ⟨.counter, .simple .counter⟩, none⟩],
    none, none, none, none, []⟩

def newcomer : Record :=
  (((((Record.new "Player").set "name" (.text "Ann")).increment "wins" 1).operate "scores"
    (.append [.int 2])).operate "scores" (.setAt 0 (.int 3))).set "club" (.text "Reds")

theorem newcomer_reached : newcomer.Reached := by
  have named := (Record.Reached.new "Player").apply (.set "name" (.text "Ann")) rfl
  have won := named.apply (.increment "wins" 1) rfl
  have scored := won.apply (.listAppend "scores" [.int 2]) rfl
  have corrected := scored.apply (.listSet "scores" 0 (.int 3)) rfl
  exact corrected.apply (.set "club" (.text "Reds")) rfl

def playerUpdate (assignments : List (String × Assignment)) : GeneratedStatement :=
  .plain (.update "players" .absent assignments ⟨["id"], [.int 7]⟩ [])

def newcomerStatements : List GeneratedStatement :=
  [playerUpdate [("name", .replace (.text "Ann")), ("club", .replace (.text "Reds"))],
    playerUpdate [("scores", .add (.list [.int 2]))],
    playerUpdate [("scores", .replaceAt 0 (.int 3))],
    ⟨.update "players_counters" .absent [("wins", .add (.bigInt 1))] ⟨["id"], [.int 7]⟩ [], true,
      none⟩]

theorem changes_covered_newcomer :
    player.build = .ok playerSchema ∧
      playerSchema.changeStatements (Fields.empty.set "id" (.int 7)) newcomer.dirtyChanges
        .standard = .ok newcomerStatements ∧
      ∃ key combined separate increments,
        newcomerStatements = combined ++ separate ++ increments ∧
        playerSchema.Covers .standard (playerSchema.keyClause key) newcomer.dirtyChanges combined
          separate increments ∧
        ∀ statement ∈ combined, statement.write.setColumns.Nodup := by
  have built : player.build = .ok playerSchema := rfl
  have generated : playerSchema.changeStatements (Fields.empty.set "id" (.int 7))
      newcomer.dirtyChanges .standard = .ok newcomerStatements := rfl
  obtain ⟨key, combined, separate, increments, _, split, covers, _, apart⟩ :=
    changes_covered built .standard (Fields.empty.set "id" (.int 7)) newcomer.dirtyChanges generated
  exact ⟨built, generated, key, combined, separate, increments, split, covers,
    apart newcomer newcomer_reached rfl⟩

end CqlMapper
