import Mathlib.Data.List.Nodup
import CqlMapper.Schema.Entity
import CqlMapper.Proofs.Outcome

/-!
What building a schema establishes: its properties are those declared, in order, no two of them
share a name or a column, and its primary key is that of the declaration.
-/

namespace CqlMapper

theorem nodup_map_concat {α β : Type} {view : α → β} {items : List α} {item : α}
    (nodup : (items.map view).Nodup) (fresh : view item ∉ items.map view) :
    ((items ++ [item]).map view).Nodup := by
  rw [List.map_append, List.map_singleton, ← List.concat_eq_append]
  exact nodup.concat fresh

structure Declaration.Makes (declaration : Declaration) (property : Property) : Prop where
  name : property.name = declaration.name
  column : property.column = declaration.columnName
  role : property.role = declaration.role
  codec : ∃ mapper owner,
    Codec.forType mapper owner declaration.type declaration.hints = .ok property.codec

structure Built (declarations : List Declaration) (properties : List Property) : Prop where
  each : List.Forall₂ Declaration.Makes declarations properties
  names : (properties.map (·.name)).Nodup
  columns : (properties.map (·.column)).Nodup

namespace EntityDeclaration

variable {entity : EntityDeclaration} {schema : EntitySchema}

theorem extend_ok {built next : List Property} {declaration : Declaration}
    (extended : entity.extend built declaration = .ok next) :
    ∃ property, next = built ++ [property] ∧ declaration.Makes property ∧
      declaration.name ∉ built.map (·.name) ∧ declaration.columnName ∉ built.map (·.column) := by
  unfold extend at extended
  split at extended
  · cases extended
  · rename_i newName
    split at extended
    · cases extended
    · rename_i newColumn
      split at extended
      · cases extended
      · obtain ⟨codec, chosen, made⟩ := Outcome.bind_eq_ok.mp extended
        cases made
        refine ⟨_, rfl, ⟨rfl, rfl, rfl, _, _, chosen⟩, ?_, ?_⟩
        · simpa using newName
        · simpa using newColumn

theorem Built.extend {declared : List Declaration} {built next : List Property}
    {declaration : Declaration} (before : Built declared built)
    (extended : entity.extend built declaration = .ok next) :
    Built (declared ++ [declaration]) next := by
  obtain ⟨property, rfl, makes, newName, newColumn⟩ := extend_ok extended
  refine ⟨List.rel_append before.each (.cons makes .nil), ?_, ?_⟩
  · rw [← makes.name] at newName
    exact nodup_map_concat before.names newName
  · rw [← makes.column] at newColumn
    exact nodup_map_concat before.columns newColumn

theorem Built.extendAll {declared declarations : List Declaration} {built final : List Property}
    (before : Built declared built)
    (extended : declarations.foldlM entity.extend built = .ok final) :
    Built (declared ++ declarations) final := by
  induction declarations generalizing declared built with
  | nil =>
      cases extended
      rw [List.append_nil]
      exact before
  | cons declaration declarations ih =>
      obtain ⟨next, first, rest⟩ := Outcome.bind_eq_ok.mp extended
      have whole := ih (Built.extend before first) rest
      rwa [List.append_assoc] at whole

theorem built_of_build (built : entity.build = .ok schema) :
    Built entity.declarations schema.properties ∧
      ∃ property ∈ schema.properties, property.role = .partitionKey := by
  unfold build at built
  obtain ⟨properties, extended, rest⟩ := Outcome.bind_eq_ok.mp built
  have nothing : Built [] [] := ⟨.nil, List.nodup_nil, List.nodup_nil⟩
  have whole : Built entity.declarations properties := Built.extendAll nothing extended
  split at rest
  · rename_i partitioned
    cases rest
    exact ⟨whole, by simpa using partitioned⟩
  · cases rest

end EntityDeclaration

namespace Declaration

def isPartition (declaration : Declaration) : Bool :=
  match declaration.key with
  | some .partition => true
  | _ => false

def isClustering (declaration : Declaration) : Bool :=
  match declaration.key with
  | some (.clustering _) => true
  | _ => false

end Declaration

/-- The columns of the declared primary key: partition components before clustering components. -/
def EntityDeclaration.keyColumns (entity : EntityDeclaration) : List String :=
  (entity.declarations.filter Declaration.isPartition ++
    entity.declarations.filter Declaration.isClustering).map Declaration.columnName

namespace Property

def isPartition (property : Property) : Bool :=
  property.role == .partitionKey

def isClustering (property : Property) : Bool :=
  property.isKey && !property.isPartition

end Property

namespace Declaration.Makes

variable {declaration : Declaration} {property : Property}

theorem isPartition (makes : declaration.Makes property) :
    property.isPartition = declaration.isPartition := by
  unfold Property.isPartition Declaration.isPartition
  rw [makes.role, Declaration.role]
  cases declaration.key with
  | none =>
      by_cases counter : declaration.type = .counter
      · simp only [counter, ↓reduceIte]
        rfl
      · simp only [counter, ↓reduceIte]
        rfl
  | some part => cases part <;> rfl

theorem isClustering (makes : declaration.Makes property) :
    property.isClustering = declaration.isClustering := by
  unfold Property.isClustering Property.isKey Property.isPartition Declaration.isClustering
  rw [makes.role, Declaration.role]
  cases declaration.key with
  | none =>
      by_cases counter : declaration.type = .counter
      · simp only [counter, ↓reduceIte]
        rfl
      · simp only [counter, ↓reduceIte]
        rfl
  | some part => cases part <;> rfl

end Declaration.Makes

theorem Built.columns_filter {declarations : List Declaration} {properties : List Property}
    {declared : Declaration → Bool} {kept : Property → Bool}
    (each : List.Forall₂ Declaration.Makes declarations properties)
    (same : ∀ {declaration property}, declaration.Makes property →
      kept property = declared declaration) :
    (properties.filter kept).map (·.column) =
      (declarations.filter declared).map Declaration.columnName := by
  induction each with
  | nil => rfl
  | @cons declaration property declarations properties makes _ ih =>
      rw [List.filter_cons, List.filter_cons, same makes]
      split
      · rw [List.map_cons, List.map_cons, ih, makes.column]
      · exact ih

namespace EntitySchema

variable {entity : EntityDeclaration} {schema : EntitySchema}

theorem clusteringKeys_eq (schema : EntitySchema) :
    schema.clusteringKeys.map (·.1) = schema.properties.filter Property.isClustering := by
  unfold clusteringKeys
  induction schema.properties with
  | nil => rfl
  | cons property properties ih =>
      rw [List.filterMap_cons, List.filter_cons]
      cases role : property.role <;>
        simp [Property.isClustering, Property.isKey, Property.isPartition, PropertyRole.isKey,
          role, ih]

theorem primaryKey_eq (schema : EntitySchema) :
    schema.primaryKey = schema.properties.filter Property.isPartition ++
      schema.properties.filter Property.isClustering := by
  rw [primaryKey, clusteringKeys_eq]
  rfl

theorem primaryKey_perm (schema : EntitySchema) :
    schema.primaryKey.Perm (schema.properties.filter Property.isKey) := by
  have halves := List.filter_append_perm Property.isPartition
    (schema.properties.filter Property.isKey)
  rw [List.filter_filter, List.filter_filter] at halves
  rw [primaryKey_eq]
  have partitions : (fun property : Property => property.isPartition && property.isKey) =
      Property.isPartition := by
    funext property
    cases role : property.role <;>
      simp [Property.isPartition, Property.isKey, PropertyRole.isKey, role]
  have clusterings : (fun property : Property => (!property.isPartition) && property.isKey) =
      Property.isClustering := by
    funext property
    rw [Property.isClustering, Bool.and_comm]
  rwa [partitions, clusterings] at halves

theorem mem_primaryKey {property : Property} :
    property ∈ schema.primaryKey ↔ property ∈ schema.properties ∧ property.isKey = true :=
  schema.primaryKey_perm.mem_iff.trans List.mem_filter

theorem isPlain_iff {property : Property} :
    property.isPlain = true ↔ property.isKey = false ∧ property.isCounter = false := by
  unfold Property.isPlain Property.isKey Property.isCounter
  cases property.role <;> simp [PropertyRole.isKey]

theorem isKey_of_isCounter {property : Property} (counts : property.isCounter = true) :
    property.isKey = false := by
  unfold Property.isCounter at counts
  rw [Property.isKey, eq_of_beq counts]
  rfl

theorem primaryKey_columns (built : entity.build = .ok schema) :
    schema.primaryKey.map (·.column) = entity.keyColumns := by
  have each := (EntityDeclaration.built_of_build built).1.each
  rw [primaryKey_eq, List.map_append, EntityDeclaration.keyColumns, List.map_append,
    Built.columns_filter each fun makes => makes.isPartition,
    Built.columns_filter each fun makes => makes.isClustering]

theorem keyColumns_nodup (built : entity.build = .ok schema) : entity.keyColumns.Nodup := by
  have columns := (EntityDeclaration.built_of_build built).1.columns
  rw [← primaryKey_columns built, primaryKey_eq, List.map_append]
  refine List.nodup_append.mpr ⟨columns.sublist (List.filter_sublist.map _),
    columns.sublist (List.filter_sublist.map _), ?_⟩
  intro column partitionMember other clusteringMember same
  obtain ⟨partition, inPartition, rfl⟩ := List.mem_map.mp partitionMember
  obtain ⟨clustering, inClustering, rfl⟩ := List.mem_map.mp clusteringMember
  obtain ⟨member, isPartition⟩ := List.mem_filter.mp inPartition
  obtain ⟨otherMember, isClustering⟩ := List.mem_filter.mp inClustering
  have equal : partition = clustering := List.inj_on_of_nodup_map columns member otherMember same
  rw [← equal, Property.isClustering, isPartition] at isClustering
  simp at isClustering

theorem keyColumns_ne_nil (built : entity.build = .ok schema) : entity.keyColumns ≠ [] := by
  obtain ⟨_, property, member, role⟩ := EntityDeclaration.built_of_build built
  have isKey : property.isKey = true := by
    rw [Property.isKey, role]
    rfl
  rw [← primaryKey_columns built]
  exact List.ne_nil_of_mem (List.mem_map_of_mem (mem_primaryKey.mpr ⟨member, isKey⟩))

end EntitySchema

end CqlMapper
