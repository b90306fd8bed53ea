import Mathlib.Data.List.Perm.Basic
import CqlMapper.Proofs.Schema.Building

/-!
Which declarations make a schema: names and columns have to be distinct, a partition key has to be
there, and each type has to be one that can be stored where it is declared.
-/

namespace CqlMapper

namespace FieldType

def elements : FieldType → List FieldType
  | .list element | .set element => [element]
  | .map key value => [key, value]
  | _ => []

def parts : FieldType → List FieldType
  | .list element => .list element :: element.parts
  | .set element => .set element :: element.parts
  | .map key value => .map key value :: (key.parts ++ value.parts)
  | type => [type]

structure Elementary (type : FieldType) : Prop where
  single : type.isCollection = false
  uncounted : type ≠ .counter

def HasConstants (type : FieldType) : Prop :=
  ∀ name constants, .enum name constants ∈ type.parts → constants ≠ []

theorem hasConstants_list (element : FieldType) :
    (list element).HasConstants ↔ element.HasConstants := by
  simp [HasConstants, parts]

theorem hasConstants_set (element : FieldType) :
    (set element).HasConstants ↔ element.HasConstants := by
  simp [HasConstants, parts]

theorem hasConstants_map (key value : FieldType) :
    (map key value).HasConstants ↔ key.HasConstants ∧ value.HasConstants := by
  simp only [HasConstants, parts, List.mem_cons, List.mem_append, reduceCtorEq, false_or]
  constructor
  · intro constants
    exact ⟨fun name given found => constants name given (Or.inl found),
      fun name given found => constants name given (Or.inr found)⟩
  · rintro ⟨ofKey, ofValue⟩ name given (found | found)
    · exact ofKey name given found
    · exact ofValue name given found

end FieldType

structure Declaration.WellFormed (declaration : Declaration) : Prop where
  key : declaration.key.isSome = true → declaration.type.Elementary
  elements : ∀ element ∈ declaration.type.elements, element.Elementary
  constants : declaration.type.HasConstants

structure EntityDeclaration.WellFormed (entity : EntityDeclaration) : Prop where
  names : (entity.declarations.map (·.name)).Nodup
  columns : (entity.declarations.map (·.columnName)).Nodup
  partition : ∃ declaration ∈ entity.declarations, declaration.key = some .partition
  each : ∀ declaration ∈ entity.declarations, declaration.WellFormed

namespace Codec

variable {mapper : ObjectMapper} {owner : String} {type : FieldType}
  {encoding : Option EnumEncoding} {timeUuid : Bool}

theorem elementFor_succeeds (single : type.isCollection = false) :
    (∃ codec, elementFor mapper owner type encoding timeUuid = .ok codec) ↔
      type.HasConstants := by
  cases type with
  | list | set | map => cases single
  | enum name constants =>
      cases constants with
      | nil => simp [elementFor, FieldType.HasConstants, FieldType.parts]
      | cons first rest =>
          by_cases ordinal : encoding = some .ordinal <;>
            simp [elementFor, FieldType.HasConstants, FieldType.parts, ordinal]
  | _ => simp [elementFor, FieldType.HasConstants, FieldType.parts]

theorem memberFor_succeeds :
    (∃ codec, memberFor mapper owner type encoding timeUuid = .ok codec) ↔
      type.Elementary ∧ type.HasConstants := by
  unfold memberFor
  by_cases collection : type.isCollection = true
  · rw [if_pos collection]
    simp only [reduceCtorEq, exists_false, false_iff]
    rintro ⟨elementary, _⟩
    simp [elementary.single] at collection
  · by_cases counter : type = .counter
    · rw [if_neg collection, if_pos counter]
      simp only [reduceCtorEq, exists_false, false_iff]
      rintro ⟨elementary, _⟩
      exact elementary.uncounted counter
    · have single : type.isCollection = false := by simpa using collection
      rw [if_neg collection, if_neg counter, elementFor_succeeds single]
      constructor
      · intro constants
        exact ⟨⟨single, counter⟩, constants⟩
      · exact And.right

theorem shapeFor_single {hints : CodecHints} (single : type.isCollection = false) :
    shapeFor mapper owner type hints =
      (elementFor mapper owner type hints.enumEncoding hints.timeUuid).map .simple := by
  cases type with
  | list | set | map => cases single
  | _ => rfl

theorem forType_succeeds {hints : CodecHints} :
    (∃ codec, forType mapper owner type hints = .ok codec) ↔
      (∀ element ∈ type.elements, element.Elementary) ∧ type.HasConstants := by
  rw [forType, Outcome.map_succeeds]
  cases type with
  | list element =>
      rw [shapeFor, Outcome.map_succeeds, memberFor_succeeds, FieldType.hasConstants_list]
      simp [FieldType.elements]
  | set element =>
      rw [shapeFor, Outcome.map_succeeds, memberFor_succeeds, FieldType.hasConstants_set]
      simp [FieldType.elements]
  | map key value =>
      have both : (∃ shape, shapeFor mapper owner (.map key value) hints = .ok shape) ↔
          (∃ codec, memberFor mapper owner key hints.keyEnumEncoding hints.timeUuid = .ok codec) ∧
            ∃ codec,
              memberFor mapper owner value hints.enumEncoding hints.timeUuid = .ok codec := by
        simp only [shapeFor, Outcome.bind_eq_ok, Outcome.pure_eq_ok]
        constructor
        · rintro ⟨_, keyCodec, forKey, valueCodec, forValue, _⟩
          exact ⟨⟨keyCodec, forKey⟩, valueCodec, forValue⟩
        · rintro ⟨⟨keyCodec, forKey⟩, valueCodec, forValue⟩
          exact ⟨_, keyCodec, forKey, valueCodec, forValue, rfl⟩
      rw [both, memberFor_succeeds, memberFor_succeeds, FieldType.hasConstants_map]
      simp only [FieldType.elements, List.forall_mem_cons, List.not_mem_nil, false_implies,
        implies_true, and_true]
      constructor
      · rintro ⟨⟨plainKey, ofKey⟩, plainValue, ofValue⟩
        exact ⟨⟨plainKey, plainValue⟩, ofKey, ofValue⟩
      · rintro ⟨⟨plainKey, plainValue⟩, ofKey, ofValue⟩
        exact ⟨⟨plainKey, ofKey⟩, plainValue, ofValue⟩
  | _ =>
      rw [shapeFor_single rfl, Outcome.map_succeeds, elementFor_succeeds rfl]
      simp [FieldType.elements]

end Codec

namespace EntityDeclaration

variable {entity : EntityDeclaration}

theorem fitsKey_iff (declaration : Declaration) :
    fitsKey declaration = true ↔
      (declaration.key.isSome = true → declaration.type.Elementary) := by
  unfold fitsKey
  cases declaration.key with
  | none => simp
  | some part =>
      constructor
      · intro fits _
        simp only [Option.isNone_some, Bool.false_or, Bool.not_eq_true', Bool.or_eq_false_iff,
          beq_eq_false_iff_ne] at fits
        exact ⟨fits.1, fits.2⟩
      · intro elementary
        obtain ⟨single, uncounted⟩ := elementary rfl
        simp [single, uncounted]

theorem extend_succeeds {built : List Property} {declaration : Declaration} :
    (∃ next, entity.extend built declaration = .ok next) ↔
      declaration.name ∉ built.map (·.name) ∧ declaration.columnName ∉ built.map (·.column) ∧
        declaration.WellFormed := by
  constructor
  · rintro ⟨next, extended⟩
    obtain ⟨_, _, _, newName, newColumn⟩ := extend_ok extended
    refine ⟨newName, newColumn, ?_⟩
    unfold extend at extended
    split at extended
    · cases extended
    · split at extended
      · cases extended
      · split at extended
        · cases extended
        · rename_i fits
          obtain ⟨codec, chosen, _⟩ := Outcome.bind_eq_ok.mp extended
          obtain ⟨elements, constants⟩ := Codec.forType_succeeds.mp ⟨codec, chosen⟩
          exact ⟨(fitsKey_iff declaration).mp (by simpa using fits), elements, constants⟩
  · rintro ⟨newName, newColumn, wellFormed⟩
    have unnamed : built.any (·.name == declaration.name) = false := by simpa using newName
    have free : built.any (·.column == declaration.columnName) = false := by simpa using newColumn
    have fits := (fitsKey_iff declaration).mpr wellFormed.key
    obtain ⟨codec, chosen⟩ : ∃ codec, Codec.forType entity.mapper
        (entity.name ++ "." ++ declaration.name) declaration.type declaration.hints = .ok codec :=
      Codec.forType_succeeds.mpr ⟨wellFormed.elements, wellFormed.constants⟩
    refine ⟨built ++ [⟨declaration.name, declaration.columnName, declaration.role, codec,
      declaration.writeLevel⟩], ?_⟩
    simp only [extend, unnamed, free, fits, chosen, Bool.not_true, Bool.false_eq_true, if_false]
    rfl

theorem extendAll_succeeds {declarations : List Declaration} {built : List Property}
    (names : (built.map (·.name)).Nodup) (columns : (built.map (·.column)).Nodup) :
    (∃ final, declarations.foldlM entity.extend built = .ok final) ↔
      (built.map (·.name) ++ declarations.map (·.name)).Nodup ∧
        (built.map (·.column) ++ declarations.map (·.columnName)).Nodup ∧
          ∀ declaration ∈ declarations, declaration.WellFormed := by
  induction declarations generalizing built with
  | nil => simp [names, columns, pure, Except.pure]
  | cons declaration rest ih =>
      -- What stands in front grows by the property made, whose name and column are those declared.
      have onward {property : Property} (makes : declaration.Makes property)
          (newName : declaration.name ∉ built.map (·.name))
          (newColumn : declaration.columnName ∉ built.map (·.column)) :
          (∃ final, rest.foldlM entity.extend (built ++ [property]) = .ok final) ↔
            (built.map (·.name) ++ (declaration :: rest).map (·.name)).Nodup ∧
              (built.map (·.column) ++ (declaration :: rest).map (·.columnName)).Nodup ∧
                ∀ other ∈ rest, other.WellFormed := by
        rw [← makes.name] at newName
        rw [← makes.column] at newColumn
        rw [ih (nodup_map_concat names newName) (nodup_map_concat columns newColumn)]
        simp [makes.name, makes.column]
      rw [List.foldlM_cons, List.forall_mem_cons]
      constructor
      · rintro ⟨final, whole⟩
        obtain ⟨next, extended, others⟩ := Outcome.bind_eq_ok.mp whole
        obtain ⟨_, _, wellFormed⟩ := extend_succeeds.mp ⟨next, extended⟩
        obtain ⟨property, rfl, makes, newName, newColumn⟩ := extend_ok extended
        obtain ⟨nodup, apart, each⟩ := (onward makes newName newColumn).mp ⟨final, others⟩
        exact ⟨nodup, apart, wellFormed, each⟩
      · rintro ⟨nodup, apart, wellFormed, each⟩
        have newName : declaration.name ∉ built.map (·.name) := fun taken =>
          (List.nodup_append.mp nodup).2.2 _ taken _ List.mem_cons_self rfl
        have newColumn : declaration.columnName ∉ built.map (·.column) := fun taken =>
          (List.nodup_append.mp apart).2.2 _ taken _ List.mem_cons_self rfl
        obtain ⟨next, extended⟩ := extend_succeeds.mpr ⟨newName, newColumn, wellFormed⟩
        obtain ⟨property, rfl, makes, _⟩ := extend_ok extended
        obtain ⟨final, others⟩ := (onward makes newName newColumn).mpr ⟨nodup, apart, each⟩
        exact ⟨final, Outcome.bind_eq_ok.mpr ⟨_, extended, others⟩⟩

theorem isPartition_iff (declaration : Declaration) :
    declaration.isPartition = true ↔ declaration.key = some .partition := by
  unfold Declaration.isPartition
  split <;> simp_all

theorem exists_partition_iff {declarations : List Declaration} {properties : List Property}
    (each : List.Forall₂ Declaration.Makes declarations properties) :
    properties.any Property.isPartition = true ↔
      ∃ declaration ∈ declarations, declaration.key = some .partition := by
  induction each with
  | nil => simp
  | cons makes _ ih =>
      rw [List.any_cons, Bool.or_eq_true, ih, makes.isPartition, isPartition_iff]
      simp

theorem build_succeeds : (∃ schema, entity.build = .ok schema) ↔ entity.WellFormed := by
  have all : (∃ final, entity.declarations.foldlM entity.extend [] = .ok final) ↔ _ :=
    extendAll_succeeds List.nodup_nil List.nodup_nil
  constructor
  · rintro ⟨schema, built⟩
    obtain ⟨whole, _⟩ := built_of_build built
    obtain ⟨properties, extended, rest⟩ := Outcome.bind_eq_ok.mp built
    obtain ⟨names, columns, each⟩ := all.mp ⟨properties, extended⟩
    split at rest
    · rename_i partitioned
      cases rest
      exact ⟨names, columns, (exists_partition_iff whole.each).mp partitioned, each⟩
    · cases rest
  · intro wellFormed
    obtain ⟨properties, extended⟩ :=
      all.mpr ⟨wellFormed.names, wellFormed.columns, wellFormed.each⟩
    have nothing : Built [] [] := ⟨.nil, List.nodup_nil, List.nodup_nil⟩
    have made : Built entity.declarations properties := Built.extendAll nothing extended
    have partitioned : properties.any (fun property => property.role == .partitionKey) = true :=
      (exists_partition_iff made.each).mpr wellFormed.partition
    exact ⟨_, Outcome.bind_eq_ok.mpr ⟨properties, extended, if_pos partitioned⟩⟩

end EntityDeclaration

end CqlMapper
