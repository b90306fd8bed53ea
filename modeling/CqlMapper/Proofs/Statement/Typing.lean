import CqlMapper.Proofs.Statement.Coverage

/-!
Bound values have the types that their placeholders ask for: that of the column where a value is
stored or compared, and what a collection operator takes where a part of a column is changed.
-/

namespace CqlMapper

/-- A value that a placeholder of some type takes. A placeholder of no type takes none. -/
def Fits (required : Option CqlType) (value : CqlValue) : Prop :=
  ∃ type, required = some type ∧ value.conformsTo type = true

def UsingClause.required (options : UsingClause) : List (Option CqlType) :=
  (options.ttl.toList.map fun _ => some .int) ++ options.timestamp.toList.map fun _ => some .bigInt

namespace Assignment

/-- What is added to a column is of its own type, if it can be added to at all. -/
def addend? : CqlType → Option CqlType
  | .counter => some .counter
  | .set element => some (.set element)
  | .list element => some (.list element)
  | .map key value => some (.map key value)
  | _ => none

/-- From a set a set is taken, and from a map the set of some of its keys. -/
def subtrahend? : CqlType → Option CqlType
  | .set element => some (.set element)
  | .map key _ => some (.set key)
  | _ => none

def list? : CqlType → Option CqlType
  | .list element => some (.list element)
  | _ => none

def item? : CqlType → Option CqlType
  | .list element => some element
  | _ => none

def required (column : Option CqlType) : Assignment → List (Option CqlType)
  | .replace _ => [column]
  | .add _ => [column.bind addend?]
  | .subtract _ => [column.bind subtrahend?]
  | .addBefore _ => [column.bind list?]
  | .replaceAt _ _ => [column.bind item?]
  | .eraseAt _ | .erase => []

end Assignment

def EntitySchema.columnType? (schema : EntitySchema) (column : String) : Option CqlType :=
  (schema.propertyByColumn? column).map Property.columnType

def WriteStatement.required (schema : EntitySchema) : WriteStatement → List (Option CqlType)
  | .insert _ columns _ options =>
    (columns.map fun column => schema.columnType? column.1) ++ options.required
  | .update _ options assignments key conditions =>
    options.required ++
      (assignments.flatMap fun entry => entry.2.required (schema.columnType? entry.1)) ++
      key.columns.map schema.columnType? ++
      conditions.map fun condition => schema.columnType? condition.column
  | .delete _ timestamp key =>
    UsingClause.required ⟨none, timestamp⟩ ++ key.columns.map schema.columnType?

namespace Declaration.Makes

variable {declaration : Declaration} {property : Property}

theorem type (makes : declaration.Makes property) : property.type = declaration.type := by
  obtain ⟨mapper, owner, chosen⟩ := makes.codec
  obtain ⟨shape, _, made⟩ := Outcome.map_eq_ok.mp chosen
  rw [Property.type, ← made]

theorem counter (makes : declaration.Makes property) (counter : property.isCounter = true) :
    property.type = .counter := by
  rw [Property.isCounter, makes.role, Declaration.role] at counter
  rw [makes.type]
  cases keyed : declaration.key with
  | some part => cases part <;> simp [keyed] at counter
  | none =>
      by_cases same : declaration.type = .counter
      · exact same
      · simp [keyed, same] at counter

theorem columnType (makes : declaration.Makes property) (notCounter : property.type ≠ .counter) :
    property.columnType = property.codec.target := by
  have plain : property.isCounter = false := by
    rw [← Bool.not_eq_true]
    exact fun counter => notCounter (makes.counter counter)
  simp [Property.columnType, plain]

/-- The shape of a codec is chosen by the declared type. -/
theorem chosen (makes : declaration.Makes property) : ∃ mapper owner,
    Codec.shapeFor mapper owner property.type declaration.hints = .ok property.codec.shape := by
  obtain ⟨mapper, owner, chosen⟩ := makes.codec
  obtain ⟨shape, found, made⟩ := Outcome.map_eq_ok.mp chosen
  rw [makes.type, ← made]
  exact ⟨mapper, owner, found⟩

theorem columnType_list (makes : declaration.Makes property) {element : FieldType}
    (type : property.type = .list element) :
    property.columnType = .list property.codec.element.target := by
  obtain ⟨mapper, owner, chosen⟩ := makes.chosen
  rw [type] at chosen
  obtain ⟨codec, _, made⟩ := Outcome.map_eq_ok.mp chosen
  rw [makes.columnType (type ▸ nofun), Codec.target, Codec.element, ← made]

theorem columnType_set (makes : declaration.Makes property) {element : FieldType}
    (type : property.type = .set element) :
    property.columnType = .set property.codec.element.target := by
  obtain ⟨mapper, owner, chosen⟩ := makes.chosen
  rw [type] at chosen
  obtain ⟨codec, _, made⟩ := Outcome.map_eq_ok.mp chosen
  rw [makes.columnType (type ▸ nofun), Codec.target, Codec.element, ← made]

theorem columnType_map (makes : declaration.Makes property) {key value : FieldType}
    (type : property.type = .map key value) : property.columnType =
      .map (EntitySchema.keyCodec property).target property.codec.element.target := by
  obtain ⟨mapper, owner, chosen⟩ := makes.chosen
  rw [type] at chosen
  obtain ⟨keyCodec, _, rest⟩ := Outcome.bind_eq_ok.mp chosen
  obtain ⟨valueCodec, _, made⟩ := Outcome.bind_eq_ok.mp rest
  have shaped := Outcome.pure_eq_ok.mp made
  rw [makes.columnType (type ▸ nofun), EntitySchema.keyCodec, Codec.target, Codec.element,
    Codec.key?, ← shaped]
  rfl

end Declaration.Makes

namespace FieldType

variable {type : FieldType}

theorem isList_iff : type.isList = true ↔ ∃ element, type = .list element := by
  cases type <;> simp [isList]

theorem isSet_iff : type.isSet = true ↔ ∃ element, type = .set element := by
  cases type <;> simp [isSet]

theorem isMap_iff : type.isMap = true ↔ ∃ key value, type = .map key value := by
  cases type <;> simp [isMap]

end FieldType

namespace Property

variable {declaration : Declaration} {property : Property}

/-- A counter is bound as a plain number, which its column takes as well. -/
theorem encode_conforms (makes : declaration.Makes property) {value : FieldValue}
    {encoded : CqlValue} (encodes : property.encode value = .ok encoded) :
    encoded.conformsTo property.columnType = true := by
  have conforms := Codec.encode_conforms encodes
  by_cases type : property.type = .counter
  · obtain ⟨mapper, owner, chosen⟩ := makes.chosen
    rw [type] at chosen
    have made : CodecShape.simple .counter = property.codec.shape := Except.ok.inj chosen
    rw [Codec.target, ← made] at conforms
    have number : encoded.conformsTo .bigInt = true := conforms
    unfold columnType
    split
    · cases encoded <;> first | rfl | cases number
    · rw [Codec.target, ← made]
      exact number
  · rw [makes.columnType type]
    exact conforms

theorem Performs.fits (makes : declaration.Makes property) {change : Change}
    {assignment : Assignment} (performs : property.Performs change assignment) :
    List.Forall₂ Fits (assignment.required (some property.columnType)) assignment.values := by
  cases performs with
  | assign encodes => exact .cons ⟨_, rfl, encode_conforms makes encodes⟩ .nil
  | addToSet shape encodes =>
      obtain ⟨element, type⟩ := FieldType.isSet_iff.mp shape
      have conforms := ElementCodec.encodeAll_conforms encodes
      rw [makes.columnType_set type]
      exact .cons ⟨_, rfl, conforms⟩ .nil
  | removeFromSet shape encodes =>
      obtain ⟨element, type⟩ := FieldType.isSet_iff.mp shape
      have conforms := ElementCodec.encodeAll_conforms encodes
      rw [makes.columnType_set type]
      exact .cons ⟨_, rfl, conforms⟩ .nil
  | append shape encodes | prepend shape encodes =>
      obtain ⟨element, type⟩ := FieldType.isList_iff.mp shape
      have conforms := ElementCodec.encodeAll_conforms encodes
      rw [makes.columnType_list type]
      exact .cons ⟨_, rfl, conforms⟩ .nil
  | setAt shape encodes =>
      obtain ⟨element, type⟩ := FieldType.isList_iff.mp shape
      have conforms := ElementCodec.encode_conforms encodes
      rw [makes.columnType_list type]
      exact .cons ⟨_, rfl, conforms⟩ .nil
  | putToMap shape encodes =>
      obtain ⟨key, value, type⟩ := FieldType.isMap_iff.mp shape
      have conforms := ElementCodec.encodeEntries_conforms encodes
      rw [makes.columnType_map type]
      exact .cons ⟨_, rfl, conforms⟩ .nil
  | removeFromMap shape encodes =>
      obtain ⟨key, value, type⟩ := FieldType.isMap_iff.mp shape
      have conforms := ElementCodec.encodeAll_conforms encodes
      rw [makes.columnType_map type]
      exact .cons ⟨_, rfl, conforms⟩ .nil
  | removeAt shape => exact .nil
  | clear => exact .nil

end Property

namespace EntitySchema

variable {entity : EntityDeclaration} {schema : EntitySchema} {options : WriteOptions}

theorem exists_makes (built : entity.build = .ok schema) {property : Property}
    (member : property ∈ schema.properties) :
    ∃ declaration ∈ entity.declarations, declaration.Makes property :=
  Outcome.exists_left (EntityDeclaration.built_of_build built).1.each member

theorem columnType?_of_mem (built : entity.build = .ok schema) {property : Property}
    (member : property ∈ schema.properties) :
    schema.columnType? property.column = some property.columnType := by
  have columns := (EntityDeclaration.built_of_build built).1.columns
  unfold columnType? propertyByColumn?
  cases found : schema.properties.find? (·.column == property.column) with
  | none =>
      have absent := List.find?_eq_none.mp found property member
      simp at absent
  | some other =>
      have same : other.column = property.column := by simpa using List.find?_some found
      have equal : other = property :=
        List.inj_on_of_nodup_map columns (List.mem_of_find?_eq_some found) member same
      rw [equal]
      rfl

theorem encode_fits (built : entity.build = .ok schema) {property : Property}
    (member : property ∈ schema.properties) {value : FieldValue} {encoded : CqlValue}
    (encodes : property.encode value = .ok encoded) :
    Fits (schema.columnType? property.column) encoded := by
  obtain ⟨declaration, _, makes⟩ := exists_makes built member
  exact ⟨_, columnType?_of_mem built member, Property.encode_conforms makes encodes⟩

end EntitySchema

theorem forall₂_fits_map {α : Type} {type : α → Option CqlType} {value : α → CqlValue}
    {items : List α} (fits : ∀ item ∈ items, Fits (type item) (value item)) :
    List.Forall₂ Fits (items.map type) (items.map value) := by
  rw [List.forall₂_map_left_iff, List.forall₂_map_right_iff, List.forall₂_same]
  exact fits

theorem UsingClause.fits (options : UsingClause) :
    List.Forall₂ Fits options.required options.values := by
  refine List.rel_append (forall₂_fits_map ?_) (forall₂_fits_map ?_)
  · exact fun _ _ => ⟨_, rfl, rfl⟩
  · exact fun _ _ => ⟨_, rfl, rfl⟩

namespace Binds

variable {entity : EntityDeclaration} {schema : EntitySchema} {options : WriteOptions}
  {request : Request} {statement : GeneratedStatement}

theorem components_mem {component : Property × FieldValue}
    (member : component ∈ request.components schema) : component.1 ∈ schema.properties := by
  have keyed : component.1 ∈ schema.primaryKey := by
    cases request with
    | removeAt values => exact (List.of_mem_zip member).1
    | change | insert | remove =>
        obtain ⟨property, keyed, rfl⟩ := List.mem_map.mp member
        exact keyed
  exact (EntitySchema.mem_primaryKey.mp keyed).1

theorem key_fits (built : entity.build = .ok schema) {key : KeyClause}
    (restricts : key.Restricts entity (request.components schema)) :
    ∀ entry ∈ key.columns.zip key.values, Fits (schema.columnType? entry.1) entry.2 := by
  intro entry member
  obtain ⟨component, belongs, column, _, encodes, _⟩ :=
    Outcome.exists_left restricts.bound member
  rw [column]
  exact EntitySchema.encode_fits built (components_mem belongs) encodes

theorem keyValues_fit (built : entity.build = .ok schema) {key : KeyClause}
    (restricts : key.Restricts entity (request.components schema)) :
    List.Forall₂ Fits (key.columns.map schema.columnType?) key.values := by
  have each := forall₂_fits_map (key_fits built restricts)
  have counted := Nat.le_of_eq restricts.complete.2
  have values : (key.columns.zip key.values).map (·.2) = key.values :=
    List.map_snd_zip (Nat.le_of_eq restricts.complete.2.symm)
  have columns := congrArg (List.map schema.columnType?) (List.map_fst_zip counted)
  rw [List.map_map] at columns
  rw [values] at each
  exact columns ▸ each

theorem conditions_fit (built : entity.build = .ok schema) {asked : List Condition}
    {conditions : List BoundCondition}
    (resolved : List.Forall₂ schema.Resolves asked conditions) :
    List.Forall₂ Fits (conditions.map fun condition => schema.columnType? condition.column)
      (conditions.map (·.value)) := by
  refine forall₂_fits_map ?_
  intro bound member
  obtain ⟨_, _, _, property, belongs, _, column, encodes⟩ := Outcome.exists_left resolved member
  rw [column]
  exact EntitySchema.encode_fits built belongs encodes

theorem assignments_fit (built : entity.build = .ok schema)
    {assignments : List (String × Assignment)}
    (sets : ∀ entry ∈ assignments, request.Sets schema entry) :
    List.Forall₂ Fits
      (assignments.flatMap fun entry => entry.2.required (schema.columnType? entry.1))
      (assignments.flatMap (·.2.values)) := by
  induction assignments with
  | nil => exact .nil
  | cons entry assignments ih =>
      obtain ⟨first, rest⟩ := List.forall_mem_cons.mp sets
      obtain ⟨change, _, property, member, _, _, column, assigned⟩ := first
      obtain ⟨declaration, _, makes⟩ := EntitySchema.exists_makes built member
      have fits := (EntitySchema.assignmentOf_performs assigned).fits makes
      rw [List.flatMap_cons, List.flatMap_cons, column,
        EntitySchema.columnType?_of_mem built member]
      exact List.rel_append fits (ih rest)

/-- All that a generated statement binds fits where it is bound. -/
theorem fits (binds : Binds entity schema options request statement)
    (built : entity.build = .ok schema) :
    List.Forall₂ Fits (statement.write.required schema) statement.write.arguments := by
  cases binds with
  | insert key listed columns clause restricts plain encoded asks =>
      refine List.rel_append (forall₂_fits_map ?_) clause.fits
      refine List.forall_mem_append.mpr ⟨key_fits built restricts, ?_⟩
      intro entry member
      obtain ⟨property, among, column, encodes⟩ := Outcome.exists_left encoded member
      rw [column]
      exact EntitySchema.encode_fits built (List.mem_filter.mp (plain.mem among)).1 encodes
  | update clause assignments key conditions asks something sets restricts resolved =>
      have set := List.rel_append clause.fits (assignments_fit built sets)
      have keyed := List.rel_append set (keyValues_fit built restricts)
      exact List.rel_append keyed (conditions_fit built resolved)
  | count property delta amount key member counter pending encoded restricts =>
      obtain ⟨type, found, conforms⟩ := EntitySchema.encode_fits built member encoded
      have ofCounter : property.columnType = .counter := by
        rw [Property.columnType, if_pos counter]
      rw [EntitySchema.columnType?_of_mem built member, ofCounter] at found
      cases found
      have added : Fits ((schema.columnType? property.column).bind Assignment.addend?) amount := by
        rw [EntitySchema.columnType?_of_mem built member, ofCounter]
        exact ⟨.counter, rfl, conforms⟩
      have keyed := List.rel_append (.cons added .nil) (keyValues_fit built restricts)
      simpa [WriteStatement.required, WriteStatement.arguments, UsingClause.required,
        UsingClause.values, UsingClause.absent, Assignment.required, Assignment.values] using keyed
  | delete key restricts =>
      exact List.rel_append (UsingClause.fits _) (keyValues_fit built restricts)
  | deleteCounters table key home restricts =>
      exact List.rel_append (UsingClause.fits _) (keyValues_fit built restricts)

end Binds

end CqlMapper
