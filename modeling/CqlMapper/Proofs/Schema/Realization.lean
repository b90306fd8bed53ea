import CqlMapper.Proofs.Schema.WellFormed

/-!
What a schema makes of its declarations: one property for each of them, a primary key in the order
that clauses follow, a property for each of its columns, and a place for its counters.
-/

namespace CqlMapper

structure Declaration.Becomes (declaration : Declaration) (property : Property) : Prop
    extends declaration.Makes property where
  type : property.type = declaration.type
  writeLevel : property.writeLevel = declaration.writeLevel

namespace EntityDeclaration

variable {entity : EntityDeclaration} {schema : EntitySchema}

theorem extend_becomes {built next : List Property} {declaration : Declaration}
    (extended : entity.extend built declaration = .ok next) :
    ∃ property, next = built ++ [property] ∧ declaration.Becomes property := by
  unfold extend at extended
  split at extended
  · cases extended
  · split at extended
    · cases extended
    · split at extended
      · cases extended
      · obtain ⟨codec, chosen, made⟩ := Outcome.bind_eq_ok.mp extended
        obtain ⟨shape, _, whole⟩ := Outcome.map_eq_ok.mp chosen
        cases made
        refine ⟨_, rfl, ⟨rfl, rfl, rfl, _, _, chosen⟩, ?_, rfl⟩
        rw [← whole]
        rfl

theorem extendAll_becomes {declared declarations : List Declaration}
    {built final : List Property} (before : List.Forall₂ Declaration.Becomes declared built)
    (extended : declarations.foldlM entity.extend built = .ok final) :
    List.Forall₂ Declaration.Becomes (declared ++ declarations) final := by
  induction declarations generalizing declared built with
  | nil =>
      cases extended
      rw [List.append_nil]
      exact before
  | cons declaration declarations ih =>
      obtain ⟨next, first, rest⟩ := Outcome.bind_eq_ok.mp extended
      obtain ⟨property, rfl, becomes⟩ := extend_becomes first
      have whole := ih (List.rel_append before (.cons becomes .nil)) rest
      rwa [List.append_assoc] at whole

theorem build_eq (built : entity.build = .ok schema) :
    List.Forall₂ Declaration.Becomes entity.declarations schema.properties ∧
      schema = ⟨entity.name, entity.table, schema.properties, entity.counterTable,
        entity.readLevel, entity.writeLevel, entity.insertStrategy, entity.interceptors⟩ := by
  obtain ⟨properties, extended, rest⟩ := Outcome.bind_eq_ok.mp built
  have each : List.Forall₂ Declaration.Becomes entity.declarations properties :=
    extendAll_becomes .nil extended
  split at rest
  · cases rest
    exact ⟨each, rfl⟩
  · cases rest

end EntityDeclaration

namespace Declaration

def IsCounter (declaration : Declaration) : Prop :=
  declaration.key = none ∧ declaration.type = .counter

def IsPlain (declaration : Declaration) : Prop :=
  declaration.key = none ∧ declaration.type ≠ .counter

variable {declaration : Declaration} {property : Property}

theorem Becomes.isKey (becomes : declaration.Becomes property) :
    property.isKey = declaration.key.isSome := by
  rw [Property.isKey, becomes.role, role]
  cases declaration.key with
  | none =>
      by_cases counter : declaration.type = .counter
      · simp only [counter, ↓reduceIte]
        rfl
      · simp only [counter, ↓reduceIte]
        rfl
  | some part => cases part <;> rfl

theorem Becomes.isCounter (becomes : declaration.Becomes property) :
    property.isCounter = true ↔ declaration.IsCounter := by
  rw [Property.isCounter, becomes.role, role, IsCounter]
  cases declaration.key with
  | none => by_cases counter : declaration.type = .counter <;> simp [counter]
  | some part => cases part <;> simp

theorem Becomes.isPlain (becomes : declaration.Becomes property) :
    property.isPlain = true ↔ declaration.IsPlain := by
  rw [Property.isPlain, becomes.role, role, IsPlain]
  cases declaration.key with
  | none => by_cases counter : declaration.type = .counter <;> simp [counter]
  | some part => cases part <;> simp

theorem isSome_key (declaration : Declaration) :
    declaration.key.isSome = (declaration.isPartition || declaration.isClustering) := by
  unfold isPartition isClustering
  cases declaration.key with
  | none => rfl
  | some part => cases part <;> rfl

end Declaration

structure EntitySchema.Realizes (schema : EntitySchema) (entity : EntityDeclaration) : Prop where
  properties : List.Forall₂ Declaration.Becomes entity.declarations schema.properties
  primaryKey : List.Forall₂ Declaration.Becomes
    (entity.declarations.filter Declaration.isPartition ++
      entity.declarations.filter Declaration.isClustering) schema.primaryKey
  keyLength : schema.primaryKey.length = entity.declarations.countP (·.key.isSome)
  orders : List.Forall₂ (fun declaration entry => declaration.Becomes entry.1 ∧
      declaration.key = some (.clustering entry.2))
    (entity.declarations.filter Declaration.isClustering) schema.clusteringKeys
  byName : ∀ property ∈ schema.properties, schema.property? property.name = some property
  byColumn : ∀ property ∈ schema.properties,
    schema.propertyByColumn? property.column = some property
  keys : schema.primaryKey.Perm (schema.properties.filter Property.isKey)
  partition : (schema.primaryKey ++ schema.plains ++ schema.counters).Perm schema.properties
  distinct : schema.properties.Nodup
  clustered : schema.isClusteredCounter = true ↔
    (∃ declaration ∈ entity.declarations, declaration.key = none) ∧
      ∀ declaration ∈ entity.declarations, declaration.key = none → declaration.type = .counter
  companion : ∀ table, schema.counterTable? = some table ↔
    (∃ declaration ∈ entity.declarations, declaration.IsCounter) ∧
      (∃ declaration ∈ entity.declarations, declaration.IsPlain) ∧
        table = entity.counterTable.getD (entity.table ++ "_counters")

namespace EntitySchema

variable {entity : EntityDeclaration} {schema : EntitySchema} {declarations : List Declaration}
  {properties : List Property}

theorem exists_declared_iff {declared : Declaration → Prop} {made : Property → Prop}
    (each : List.Forall₂ Declaration.Becomes declarations properties)
    (same : ∀ {declaration property}, declaration.Becomes property →
      (made property ↔ declared declaration)) :
    (∃ property ∈ properties, made property) ↔
      ∃ declaration ∈ declarations, declared declaration := by
  induction each with
  | nil => simp
  | cons becomes _ ih => simp only [List.exists_mem_cons_iff, ih, same becomes]

theorem forall_declared_iff {declared : Declaration → Prop} {made : Property → Prop}
    (each : List.Forall₂ Declaration.Becomes declarations properties)
    (same : ∀ {declaration property}, declaration.Becomes property →
      (made property ↔ declared declaration)) :
    (∀ property ∈ properties, made property) ↔
      ∀ declaration ∈ declarations, declared declaration := by
  induction each with
  | nil => simp
  | cons becomes _ ih => simp only [List.forall_mem_cons, ih, same becomes]

theorem filter_declared {declared : Declaration → Bool} {made : Property → Bool}
    (each : List.Forall₂ Declaration.Becomes declarations properties)
    (same : ∀ {declaration property}, declaration.Makes property →
      made property = declared declaration) :
    List.Forall₂ Declaration.Becomes (declarations.filter declared) (properties.filter made) := by
  refine List.rel_filter (fun declaration property becomes => ?_) each
  change declared declaration = true ↔ made property = true
  rw [same becomes.toMakes]

theorem primaryKey_declared
    (each : List.Forall₂ Declaration.Becomes entity.declarations schema.properties) :
    List.Forall₂ Declaration.Becomes
      (entity.declarations.filter Declaration.isPartition ++
        entity.declarations.filter Declaration.isClustering) schema.primaryKey := by
  rw [primaryKey_eq]
  exact List.rel_append (filter_declared each fun makes => makes.isPartition)
    (filter_declared each fun makes => makes.isClustering)

theorem clusteringKeys_declared
    (each : List.Forall₂ Declaration.Becomes entity.declarations schema.properties) :
    List.Forall₂ (fun declaration entry => declaration.Becomes entry.1 ∧
        declaration.key = some (.clustering entry.2))
      (entity.declarations.filter Declaration.isClustering) schema.clusteringKeys := by
  refine Outcome.forall₂_filterMap each ?_ ?_
  · intro declaration property becomes kept
    obtain ⟨order, key⟩ : ∃ order, declaration.key = some (.clustering order) := by
      unfold Declaration.isClustering at kept
      split at kept
      · rename_i order key
        exact ⟨order, key⟩
      · cases kept
    refine ⟨(property, order), ?_, becomes, key⟩
    rw [becomes.role, Declaration.role, key]
  · intro declaration property becomes dropped
    have unclustered := becomes.toMakes.isClustering.trans dropped
    cases role : property.role with
    | clusteringKey order =>
        simp [Property.isClustering, Property.isKey, Property.isPartition, PropertyRole.isKey,
          role] at unclustered
    | _ => rfl

theorem length_primaryKey
    (each : List.Forall₂ Declaration.Becomes entity.declarations schema.properties) :
    schema.primaryKey.length = entity.declarations.countP (·.key.isSome) := by
  rw [← (primaryKey_declared each).length_eq, List.length_append, ← List.countP_eq_length_filter,
    ← List.countP_eq_length_filter]
  induction entity.declarations with
  | nil => rfl
  | cons declaration rest ih =>
      have part := declaration.isSome_key
      have apart : declaration.isPartition = false ∨ declaration.isClustering = false := by
        unfold Declaration.isPartition Declaration.isClustering
        cases declaration.key with
        | none => exact Or.inl rfl
        | some part => cases part <;> simp
      rw [List.countP_cons, List.countP_cons, List.countP_cons, ← ih, part]
      rcases apart with off | off
      · rw [off, Bool.false_or, if_neg Bool.false_ne_true]
        omega
      · rw [off, Bool.or_false, if_neg Bool.false_ne_true]
        omega

theorem nonKeys_perm (schema : EntitySchema) :
    (schema.plains ++ schema.counters).Perm schema.nonKeys := by
  have halves := List.filter_append_perm Property.isPlain schema.nonKeys
  unfold nonKeys at halves ⊢
  rw [List.filter_filter, List.filter_filter] at halves
  have plain : (fun property : Property => property.isPlain && !property.isKey) =
      Property.isPlain := by
    funext property
    cases role : property.role <;>
      simp [Property.isPlain, Property.isKey, PropertyRole.isKey, role]
  have counter : (fun property : Property => (!property.isPlain) && !property.isKey) =
      Property.isCounter := by
    funext property
    cases role : property.role <;>
      simp [Property.isPlain, Property.isCounter, Property.isKey, PropertyRole.isKey, role]
  rwa [plain, counter] at halves

theorem properties_perm (schema : EntitySchema) :
    (schema.primaryKey ++ schema.plains ++ schema.counters).Perm schema.properties := by
  rw [List.append_assoc]
  exact ((primaryKey_perm schema).append (nonKeys_perm schema)).trans
    (List.filter_append_perm Property.isKey schema.properties)

theorem find?_eq_of_nodup {key : Property → String} {property : Property}
    (distinct : (properties.map key).Nodup) (member : property ∈ properties) :
    properties.find? (fun other => key other == key property) = some property := by
  obtain ⟨found, search⟩ : ∃ found,
      properties.find? (fun other => key other == key property) = some found :=
    Option.isSome_iff_exists.mp (List.find?_isSome.mpr ⟨property, member, by simp⟩)
  have same : key found = key property := by simpa using List.find?_some search
  rw [search, List.inj_on_of_nodup_map distinct (List.mem_of_find?_eq_some search) member same]

theorem isClusteredCounter_iff (schema : EntitySchema) :
    schema.isClusteredCounter = true ↔
      (∃ property ∈ schema.properties, property.isKey = false) ∧
        ∀ property ∈ schema.properties, property.isKey = false → property.isCounter = true := by
  have some_nonKey : (!schema.nonKeys.isEmpty) = true ↔
      ∃ property ∈ schema.properties, property.isKey = false := by
    simp [nonKeys, List.filter_eq_nil_iff]
  have all_counters : schema.nonKeys.all (·.isCounter) = true ↔
      ∀ property ∈ schema.properties, property.isKey = false → property.isCounter = true := by
    simp only [nonKeys, List.all_eq_true, List.mem_filter, Bool.not_eq_true', and_imp]
  rw [isClusteredCounter, Bool.and_eq_true, some_nonKey, all_counters]

/-- With a plain property beside them, counters do not fill the rows of the entity itself. -/
theorem counters_mixed_iff (schema : EntitySchema) :
    (!schema.counters.isEmpty && !schema.isClusteredCounter) = true ↔
      (∃ property ∈ schema.properties, property.isCounter = true) ∧
        ∃ property ∈ schema.properties, property.isPlain = true := by
  have counted : (!schema.counters.isEmpty) = true ↔
      ∃ property ∈ schema.properties, property.isCounter = true := by
    simp [counters, List.filter_eq_nil_iff]
  rw [Bool.and_eq_true, Bool.not_eq_true' schema.isClusteredCounter,
    ← Bool.not_eq_true schema.isClusteredCounter, isClusteredCounter_iff, counted]
  constructor
  · rintro ⟨⟨counter, member, counts⟩, other⟩
    refine ⟨⟨counter, member, counts⟩, ?_⟩
    by_contra noPlain
    refine other ⟨⟨counter, member, isKey_of_isCounter counts⟩, ?_⟩
    intro property belongs notKey
    by_contra notCounter
    exact noPlain ⟨property, belongs, isPlain_iff.mpr ⟨notKey, by simpa using notCounter⟩⟩
  · rintro ⟨counter, plain, member, isPlain⟩
    refine ⟨counter, ?_⟩
    rintro ⟨_, all⟩
    obtain ⟨notKey, notCounter⟩ := isPlain_iff.mp isPlain
    rw [all plain member notKey] at notCounter
    cases notCounter

theorem counterTable?_iff (schema : EntitySchema) (table : String) :
    schema.counterTable? = some table ↔
      (∃ property ∈ schema.properties, property.isCounter = true) ∧
        (∃ property ∈ schema.properties, property.isPlain = true) ∧
          table = schema.counterTableName.getD (schema.table ++ "_counters") := by
  have mixed := schema.counters_mixed_iff
  unfold counterTable?
  by_cases both : (!schema.counters.isEmpty && !schema.isClusteredCounter) = true
  · rw [if_pos both]
    obtain ⟨counter, plain⟩ := mixed.mp both
    simp only [Option.some.injEq, counter, plain, true_and]
    exact eq_comm
  · rw [if_neg both]
    rw [mixed] at both
    simp only [reduceCtorEq, false_iff]
    rintro ⟨counter, plain, _⟩
    exact both ⟨counter, plain⟩

theorem realizes_of_build (built : entity.build = .ok schema) : schema.Realizes entity := by
  obtain ⟨each, whole⟩ := EntityDeclaration.build_eq built
  have made := (EntityDeclaration.built_of_build built).1
  constructor
  · exact each
  · exact primaryKey_declared each
  · exact length_primaryKey each
  · exact clusteringKeys_declared each
  · exact fun property member => find?_eq_of_nodup made.names member
  · exact fun property member => find?_eq_of_nodup made.columns member
  · exact primaryKey_perm schema
  · exact properties_perm schema
  · exact made.names.of_map
  · rw [isClusteredCounter_iff]
    refine and_congr (exists_declared_iff each fun becomes => ?_)
      (forall_declared_iff each fun {declaration property} becomes => ?_)
    · rw [becomes.isKey, Option.isSome_eq_false_iff, Option.isNone_iff_eq_none]
    · rw [becomes.isKey, becomes.isCounter, Declaration.IsCounter, Option.isSome_eq_false_iff,
        Option.isNone_iff_eq_none]
      constructor
      · exact fun counts unkeyed => (counts unkeyed).2
      · exact fun counts unkeyed => ⟨unkeyed, counts unkeyed⟩
  · intro table
    rw [counterTable?_iff, exists_declared_iff each fun becomes => becomes.isCounter,
      exists_declared_iff each fun becomes => becomes.isPlain, whole]

end EntitySchema

/-- A schema is made of exactly the declarations that are well formed, and it keeps to them. -/
theorem EntityDeclaration.build_realizes (entity : EntityDeclaration) :
    ((∃ schema, entity.build = .ok schema) ↔ entity.WellFormed) ∧
      ∀ schema, entity.build = .ok schema → schema.Realizes entity :=
  ⟨build_succeeds, fun _ built => EntitySchema.realizes_of_build built⟩

def standing : EntityDeclaration :=
  .simple "Standing" "standings" [.clusteringKey "season" .int .desc, .partitionKey "team" .text,
    { Declaration.property "division" (.enum "Division" ["UPPER", "LOWER"]) with
      column := some "played_in" },
    .counter "points"]

theorem standing_realizes : ∃ schema, standing.build = .ok schema ∧ standing.WellFormed ∧
    schema.Realizes standing ∧ schema.primaryKey.map (·.name) = ["team", "season"] ∧
      schema.counterTable? = some "standings_counters" := by
  have accepted := (EntityDeclaration.build_realizes standing).1
  have kept := (EntityDeclaration.build_realizes standing).2
  exact ⟨_, rfl, accepted.mp ⟨_, rfl⟩, kept _ rfl, rfl, rfl⟩

end CqlMapper
