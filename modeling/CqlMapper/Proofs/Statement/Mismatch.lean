import CqlMapper.Proofs.Record.Collections
import CqlMapper.Proofs.Statement.Typing

/-!
Operations on collections of another kind than their property was declared with. No statement is
generated for them, and a record that reports one cannot be inserted either, since its property
holds a collection that the declared type does not admit.
-/

namespace CqlMapper

def FieldType.collectionKind? : FieldType → Option CollectionKind
  | .list _ => some .list
  | .set _ => some .set
  | .map _ _ => some .map
  | _ => none

def EntityDeclaration.Mismatches (entity : EntityDeclaration) (change : PropertyChange) : Prop :=
  ∃ kind, change.change.collectionKind? = some kind ∧ ∃ declaration ∈ entity.declarations,
    declaration.name = change.property ∧ declaration.type.collectionKind? ≠ some kind

theorem Property.Performs.collectionKind? {property : Property} {change : Change}
    {assignment : Assignment} (performs : property.Performs change assignment)
    {kind : CollectionKind} (works : change.collectionKind? = some kind) :
    property.type.collectionKind? = some kind := by
  cases performs with
  | assign | clear => cases works
  | addToSet shape | removeFromSet shape =>
      cases works
      obtain ⟨element, type⟩ := FieldType.isSet_iff.mp shape
      rw [type]
      rfl
  | append shape | prepend shape | setAt shape | removeAt shape =>
      cases works
      obtain ⟨element, type⟩ := FieldType.isList_iff.mp shape
      rw [type]
      rfl
  | putToMap shape | removeFromMap shape =>
      cases works
      obtain ⟨key, value, type⟩ := FieldType.isMap_iff.mp shape
      rw [type]
      rfl

theorem ElementCodec.not_collection {codec : ElementCodec} {value : FieldValue}
    {encoded : CqlValue} (encodes : codec.encode value = .ok encoded) :
    value.collectionKind? = none := by
  rcases encode_eq_ok encodes with ⟨rfl, _⟩ | ⟨_, made⟩
  · rfl
  · cases codec with
    | native kind =>
        rw [encodePresent_native] at made
        cases kind <;> cases value <;> first | rfl | cases made
    | _ => cases value <;> first | rfl | cases made

def CodecShape.collectionKind? : CodecShape → Option CollectionKind
  | .simple _ => none
  | .list _ => some .list
  | .set _ => some .set
  | .map _ _ => some .map

namespace Codec

theorem collectionKind?_shape {codec : Codec} {value : FieldValue} {encoded : CqlValue}
    (encodes : codec.encode value = .ok encoded) {kind : CollectionKind}
    (held : value.collectionKind? = some kind) : codec.shape.collectionKind? = some kind := by
  rcases encode_eq_ok encodes with ⟨rfl, _⟩ | ⟨_, made⟩
  · cases held
  · obtain ⟨source, shape⟩ := codec
    cases shape with
    | simple element =>
        rw [ElementCodec.not_collection made] at held
        cases held
    | _ => cases value <;> first | exact held | cases made

theorem collectionKind?_shapeFor {mapper : ObjectMapper} {owner : String} {type : FieldType}
    {hints : CodecHints} {shape : CodecShape}
    (chosen : shapeFor mapper owner type hints = .ok shape) :
    shape.collectionKind? = type.collectionKind? := by
  cases type with
  | map key value =>
      obtain ⟨keyCodec, _, rest⟩ := Outcome.bind_eq_ok.mp chosen
      obtain ⟨valueCodec, _, made⟩ := Outcome.bind_eq_ok.mp rest
      rw [← Outcome.pure_eq_ok.mp made]
      rfl
  | _ =>
      simp only [shapeFor, Outcome.map_eq_ok] at chosen
      obtain ⟨codec, _, rfl⟩ := chosen
      rfl

end Codec

namespace EntitySchema

variable {entity : EntityDeclaration} {schema : EntitySchema} {options : WriteOptions}

/-- A collection is written only where one of its kind was declared. -/
theorem collectionKind?_of_encode (built : entity.build = .ok schema) {property : Property}
    (member : property ∈ schema.properties) {value : FieldValue} {encoded : CqlValue}
    (encodes : property.encode value = .ok encoded) {kind : CollectionKind}
    (held : value.collectionKind? = some kind) : property.type.collectionKind? = some kind := by
  obtain ⟨declaration, _, makes⟩ := exists_makes built member
  obtain ⟨mapper, owner, chosen⟩ := makes.chosen
  rw [← Codec.collectionKind?_shapeFor chosen]
  exact Codec.collectionKind?_shape encodes held

/-- The declaration of a name is that of its property. -/
theorem type_of_declaration (built : entity.build = .ok schema) {declaration : Declaration}
    (declared : declaration ∈ entity.declarations) {property : Property}
    (found : schema.property? declaration.name = some property) :
    property.type = declaration.type := by
  have whole := (EntityDeclaration.built_of_build built).1
  obtain ⟨own, among, makes⟩ := Outcome.exists_left whole.each.flip declared
  obtain ⟨member, name⟩ := mem_of_property? found
  have same : own = property := by
    apply List.inj_on_of_nodup_map whole.names among member
    rw [makes.name, name]
  rw [← same, makes.type]

theorem not_mismatched (built : entity.build = .ok schema) {change : PropertyChange}
    (matched : ∀ kind, change.change.collectionKind? = some kind → ∃ property,
      schema.property? change.property = some property ∧
        property.type.collectionKind? = some kind) : ¬entity.Mismatches change := by
  rintro ⟨kind, works, declaration, declared, named, other⟩
  obtain ⟨property, found, type⟩ := matched kind works
  rw [← named] at found
  rw [type_of_declaration built declared found] at type
  exact other type

theorem changeStatements_matched (built : entity.build = .ok schema) {fields : Fields}
    {changes : List PropertyChange} {statements : List GeneratedStatement}
    (made : schema.changeStatements fields changes options = .ok statements) :
    ∀ change ∈ changes, ¬entity.Mismatches change := by
  obtain ⟨key, planned, combined, _, plans, _, _⟩ := changeStatements_split made
  intro change member
  apply not_mismatched built
  intro kind works
  obtain ⟨plan, _, planning⟩ := Outcome.exists_left (Outcome.mapM_eq_ok.mp plans).flip member
  cases plan_planned planning with
  | counter found counts counted =>
      obtain ⟨delta, amount, assigned, _⟩ := counterStatement_ok counted
      rw [assigned] at works
      cases works
  | shared found notKey plain whole assigned =>
      exact ⟨_, found, (assignmentOf_performs assigned).collectionKind? works⟩
  | collection found notKey plain part assigned updated =>
      exact ⟨_, found, (assignmentOf_performs assigned).collectionKind? works⟩

theorem insertStatement_encodes {strategy : InsertStrategy} {fields : Fields} {key : List CqlValue}
    {statement : GeneratedStatement}
    (made : schema.insertStatement strategy fields key options = .ok statement)
    {property : Property} (plain : property ∈ schema.plains)
    (present : ((fields property.name).getD .null).isNull = false) :
    ∃ encoded, property.encode ((fields property.name).getD .null) = .ok encoded := by
  obtain ⟨columns, listed, _⟩ := Outcome.bind_eq_ok.mp made
  unfold insertedColumns at listed
  have among : property ∈ schema.plains.filter fun property =>
      schema.insertStrategy.getD strategy = .allFields ||
        !((fields property.name).getD .null).isNull :=
    List.mem_filter.mpr ⟨plain, by simp [present]⟩
  obtain ⟨column, _, encodes⟩ := Outcome.exists_left (Outcome.mapM_eq_ok.mp listed).flip among
  obtain ⟨encoded, written, _⟩ := Outcome.bind_eq_ok.mp encodes
  exact ⟨encoded, WriteError.ofMapping_eq_ok.mp written⟩

theorem insertedCounters_assign {key : List CqlValue} {changes : List PropertyChange}
    {statements : List GeneratedStatement}
    (made : schema.insertedCounters key changes = .ok statements) :
    ∀ change ∈ changes, ∃ property, schema.property? change.property = some property ∧
      (property.isCounter = true → ∃ delta, change.change = .assign delta) := by
  obtain ⟨planned, plans, _⟩ := Outcome.bind_eq_ok.mp made
  intro change member
  obtain ⟨plan, _, planning⟩ := Outcome.exists_left (Outcome.mapM_eq_ok.mp plans).flip member
  obtain ⟨property, named, rest⟩ := Outcome.bind_eq_ok.mp planning
  refine ⟨property, property?_of_ok named, ?_⟩
  intro counter
  rw [if_pos counter] at rest
  obtain ⟨statement, counted, _⟩ := Outcome.bind_eq_ok.mp rest
  obtain ⟨delta, amount, assigned, _⟩ := counterStatement_ok counted
  exact ⟨delta, assigned⟩

theorem mem_plains {property : Property} (member : property ∈ schema.properties)
    (notKey : property.isKey = false) (notCounter : property.isCounter = false) :
    property ∈ schema.plains :=
  List.mem_filter.mpr ⟨member, isPlain_iff.mpr ⟨notKey, notCounter⟩⟩

/-- A record is inserted only if what its properties hold was declared so. -/
theorem insertStatements_matched (built : entity.build = .ok schema) {strategy : InsertStrategy}
    {record : Record} (reached : record.Reached) {statements : List GeneratedStatement}
    (made : schema.insertStatements strategy record.subject options = .ok statements) :
    ∀ change ∈ record.dirtyChanges, ¬entity.Mismatches change := by
  obtain ⟨key, inserted, counters, keyed, inserts, counted, _⟩ := insertStatements_split made
  intro change reported
  apply not_mismatched built
  intro kind works
  have held := reached.collectionKind?_current reported works
  have present : (record.current change.property).isNull = false := by
    cases current : record.current change.property with
    | null =>
        rw [current] at held
        cases held
    | _ => rfl
  obtain ⟨property, found, assigns⟩ := insertedCounters_assign counted change reported
  obtain ⟨member, name⟩ := mem_of_property? found
  refine ⟨property, found, ?_⟩
  rw [← name] at held present
  suffices encodes : ∃ encoded, property.encode (record.current property.name) = .ok encoded by
    obtain ⟨encoded, encodes⟩ := encodes
    exact collectionKind?_of_encode built member encodes held
  cases isKey : property.isKey with
  | true =>
      have component := mem_primaryKey.mpr ⟨member, isKey⟩
      obtain ⟨encoded, _, keyEncodes⟩ :=
        Outcome.exists_left (Outcome.mapM_eq_ok.mp keyed).flip component
      exact ⟨encoded, (encodeKey_ok keyEncodes).2.1⟩
  | false =>
      cases counter : property.isCounter with
      | true =>
          obtain ⟨delta, assigned⟩ := assigns counter
          rw [assigned] at works
          cases works
      | false =>
          cases inserts with
          | nothing clustered =>
              rw [not_clustered member isKey counter] at clustered
              cases clustered
          | row mixed inserts =>
              have plain := mem_plains member isKey counter
              exact insertStatement_encodes inserts plain present

end EntitySchema

/-- All values that a generated statement binds fit their placeholders. No statement is generated
for operations on collections of another kind than was declared, nor for a record with such. -/
theorem bound_values_fit {entity : EntityDeclaration} {schema : EntitySchema}
    (built : entity.build = .ok schema) (options : WriteOptions) :
    (∀ (request : Request) (statements : List GeneratedStatement),
      request.generate schema options = .ok statements → ∀ statement ∈ statements,
        List.Forall₂ Fits (statement.write.required schema) statement.write.values) ∧
    (∀ (fields : Fields) (changes : List PropertyChange),
      (∃ change ∈ changes, entity.Mismatches change) →
        ∃ error, schema.changeStatements fields changes options = .error error) ∧
    ∀ (strategy : InsertStrategy) (record : Record), record.Reached →
      (∃ change ∈ record.dirtyChanges, entity.Mismatches change) →
        ∃ error, schema.insertStatements strategy record.subject options = .error error := by
  refine ⟨?_, ?_, ?_⟩
  · intro request statements generated statement member
    have binds := Request.binds_of_generate built generated statement member
    have arguments : statement.write.values = statement.write.arguments :=
      (WriteStatement.spells_pieces binds.complete).2.trans
        (WriteStatement.values_clauses binds.complete)
    rw [arguments]
    exact binds.fits built
  · rintro fields changes ⟨change, member, mismatches⟩
    cases made : schema.changeStatements fields changes options with
    | error error => exact ⟨error, rfl⟩
    | ok statements =>
        exact absurd mismatches (EntitySchema.changeStatements_matched built made change member)
  · rintro strategy record reached ⟨change, reported, mismatches⟩
    cases made : schema.insertStatements strategy record.subject options with
    | error error => exact ⟨error, rfl⟩
    | ok statements =>
        exact absurd mismatches
          (EntitySchema.insertStatements_matched built reached made change reported)

def misnamed : Record :=
  (Record.new "Player").operate "name" (.addToSet [.text "Ann"])

theorem bound_values_fit_player :
    (playerSchema.changeStatements (Fields.empty.set "id" (.int 7)) newcomer.dirtyChanges
        .standard = .ok newcomerStatements ∧
      ∀ statement ∈ newcomerStatements,
        List.Forall₂ Fits (statement.write.required playerSchema) statement.write.values) ∧
    (∃ error, playerSchema.changeStatements (Fields.empty.set "id" (.int 7))
      [⟨"scores", .putToMap []⟩] .standard = .error error) ∧
    ∃ error, playerSchema.insertStatements .allFields misnamed.subject .standard =
      .error error := by
  have built : player.build = .ok playerSchema := rfl
  have generated : playerSchema.changeStatements (Fields.empty.set "id" (.int 7))
      newcomer.dirtyChanges .standard = .ok newcomerStatements := rfl
  have scores : player.Mismatches ⟨"scores", .putToMap []⟩ :=
    ⟨.map, rfl, .property "scores" (.list .int), by simp [player, EntityDeclaration.simple], rfl,
      by decide⟩
  have name : player.Mismatches ⟨"name", .addToSet [.text "Ann"]⟩ :=
    ⟨.set, rfl, .property "name" .text, by simp [player, EntityDeclaration.simple], rfl,
      by decide⟩
  have reached : misnamed.Reached :=
    (Record.Reached.new "Player").apply (.setAdd "name" (.text "Ann")) rfl
  obtain ⟨fits, changes, insertion⟩ := bound_values_fit built .standard
  refine ⟨⟨generated, ?_⟩, ?_, ?_⟩
  · exact fits (.change (Fields.empty.set "id" (.int 7)) newcomer.dirtyChanges) _ generated
  · exact changes _ _ ⟨_, List.mem_singleton.mpr rfl, scores⟩
  · exact insertion .allFields misnamed reached ⟨_, List.mem_singleton.mpr rfl, name⟩

end CqlMapper
