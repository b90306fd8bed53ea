import CqlMapper.Proofs.Record.Facet

/-!
Operations that fail. An operation makes room for its collection before it looks at what is there,
and still a record is left as it was whenever the operation is refused.
-/

namespace CqlMapper

def CollectionKind.name : CollectionKind → String
  | .list => "list"
  | .set => "set"
  | .map => "map"

namespace Record

inductive Misshapen (record : Record) (property : String) (kind : CollectionKind) :
    MappingError → Prop
  | intro {value : FieldValue} (held : record.values property = some value)
      (present : value ≠ .null) (different : value.collectionKind? ≠ some kind) :
      Misshapen record property kind (.wrongShape property value.kindName kind.name)

inductive OutOfReach (record : Record) (property : String) (index : Nat) : MappingError → Prop
  | absent (absent : record.values property = none) :
      OutOfReach record property index (.outOfBounds property index)
  | null (held : record.values property = some .null) :
      OutOfReach record property index (.outOfBounds property index)
  | short {items : List FieldValue} (held : record.values property = some (.list items))
      (short : items.length ≤ index) :
      OutOfReach record property index (.outOfBounds property index)

def Refuses (record : Record) (mutation : Mutation) (problem : MappingError) : Prop :=
  match mutation with
  | .listAppend property _ | .listPrepend property _ => record.Misshapen property .list problem
  | .setAdd property _ | .setRemove property _ => record.Misshapen property .set problem
  | .mapPut property _ _ | .mapRemove property _ => record.Misshapen property .map problem
  | .listSet property index _ | .listRemoveAt property index =>
    record.Misshapen property .list problem ∨ record.OutOfReach property index problem
  | .set _ _ | .increment _ _ | .clear _ | .markClean => False

def performAll (record : Record) (mutations : List Mutation) : Record :=
  mutations.foldl (fun record mutation => (record.perform mutation).2) record

variable {record : Record} {property : String} {problem : MappingError}

theorem current_of_held {value : FieldValue} (held : record.values property = some value) :
    record.current property = value := by
  simp [current, held]

theorem held_of_current (present : record.current property ≠ .null) :
    record.values property = some (record.current property) := by
  unfold current at present ⊢
  cases held : record.values property with
  | none => exact absurd (by rw [held]; rfl) present
  | some value => rfl

theorem misshapen_iff {kind : CollectionKind} : record.Misshapen property kind problem ↔
    record.current property ≠ .null ∧ (record.current property).collectionKind? ≠ some kind ∧
      problem = .wrongShape property (record.current property).kindName kind.name := by
  constructor
  · rintro ⟨held, present, different⟩
    rw [current_of_held held]
    exact ⟨present, different, rfl⟩
  · rintro ⟨present, different, rfl⟩
    exact .intro (held_of_current present) present different

theorem listAt_error :
    record.listAt property = .error problem ↔ record.Misshapen property .list problem := by
  rw [misshapen_iff, listAt]
  cases record.current property <;>
    simp [wrongShape, FieldValue.collectionKind?, CollectionKind.name, eq_comm]

theorem setAt_error :
    record.setAt property = .error problem ↔ record.Misshapen property .set problem := by
  rw [misshapen_iff, setAt]
  cases record.current property <;>
    simp [wrongShape, FieldValue.collectionKind?, CollectionKind.name, eq_comm]

theorem mapAt_error :
    record.mapAt property = .error problem ↔ record.Misshapen property .map problem := by
  rw [misshapen_iff, mapAt]
  cases record.current property <;>
    simp [wrongShape, FieldValue.collectionKind?, CollectionKind.name, eq_comm]

theorem indexedListAt_error {index : Nat} :
    record.indexedListAt property index = .error problem ↔
      record.Misshapen property .list problem ∨ record.OutOfReach property index problem := by
  have reach : record.OutOfReach property index problem ↔
      (∃ items, record.listAt property = .ok items ∧ items.length ≤ index) ∧
        problem = .outOfBounds property index := by
    constructor
    · rintro (absent | held | ⟨held, short⟩)
      · exact ⟨⟨[], by simp [listAt, current, absent], Nat.zero_le _⟩, rfl⟩
      · exact ⟨⟨[], by simp [listAt, current, held], Nat.zero_le _⟩, rfl⟩
      · exact ⟨⟨_, by simp [listAt, current, held], short⟩, rfl⟩
    · rintro ⟨⟨items, listed, short⟩, rfl⟩
      cases held : record.values property with
      | none => exact .absent held
      | some value =>
          rw [listAt, current_of_held held] at listed
          cases value with
          | null => exact .null held
          | list others =>
              cases listed
              exact .short held short
          | _ => cases listed
  rw [reach, ← listAt_error, indexedListAt]
  cases listed : record.listAt property with
  | error found => simp [bind, Except.bind]
  | ok items =>
      by_cases within : index < items.length
      · simp [bind, Except.bind, within, Nat.not_le.mpr within]
      · simp [bind, Except.bind, within, Nat.not_lt.mp within, eq_comm]

/-- An operation fails exactly for the reasons that it has to be refused for. -/
theorem apply_error {mutation : Mutation} :
    record.apply mutation = .error problem ↔ record.Refuses mutation problem := by
  cases mutation with
  | listAppend _ _ | listPrepend _ _ => exact Outcome.map_eq_error.trans listAt_error
  | setAdd _ _ | setRemove _ _ => exact Outcome.map_eq_error.trans setAt_error
  | mapPut _ _ _ | mapRemove _ _ => exact Outcome.map_eq_error.trans mapAt_error
  | listSet _ _ _ | listRemoveAt _ _ => exact Outcome.map_eq_error.trans indexedListAt_error
  | set _ _ | increment _ _ | clear _ | markClean => simp [apply, Refuses]

/-- A look at a property in place: it finds the same, the record is left alone when it fails, and
otherwise has changed at most where it is about to be written. -/
structure Looks {α : Type} (record : Record) (property : String) (shape : Except MappingError α)
    (found : Except MappingError α × Record) : Prop where
  result : found.1 = shape
  kept : ∀ problem, shape = .error problem → found.2 = record
  covered : ∀ value, found.2.putValue property value = record.putValue property value

theorem putValue_putValue (first second : FieldValue) :
    (record.putValue property first).putValue property second =
      record.putValue property second := by
  simp only [putValue, Record.mk.injEq, and_true, true_and]
  funext name
  by_cases same : name = property <;> simp [Fields.set, same]

theorem looks_listIn : record.Looks property (record.listAt property) (record.listIn property) := by
  unfold listIn listAt slot
  cases record.current property with
  | null => exact ⟨rfl, fun _ failed => (nomatch failed), putValue_putValue _⟩
  | _ => exact ⟨rfl, fun _ _ => rfl, fun _ => rfl⟩

theorem looks_setIn : record.Looks property (record.setAt property) (record.setIn property) := by
  unfold setIn setAt slot
  cases record.current property with
  | null => exact ⟨rfl, fun _ failed => (nomatch failed), putValue_putValue _⟩
  | _ => exact ⟨rfl, fun _ _ => rfl, fun _ => rfl⟩

theorem looks_mapIn : record.Looks property (record.mapAt property) (record.mapIn property) := by
  unfold mapIn mapAt slot
  cases record.current property with
  | null => exact ⟨rfl, fun _ failed => (nomatch failed), putValue_putValue _⟩
  | _ => exact ⟨rfl, fun _ _ => rfl, fun _ => rfl⟩

theorem looks_indexedListIn (index : Nat) : record.Looks property
    (record.indexedListAt property index) (record.indexedListIn property index) := by
  have same : record.indexedListIn property index =
      (record.indexedListAt property index, record) := by
    rw [indexedListIn, indexedListAt, listAt, current]
    cases record.values property with
    | none => rfl
    | some value => cases value <;> rfl
  rw [same]
  exact ⟨rfl, fun _ _ => rfl, fun _ => rfl⟩

def settle (record : Record) : Except MappingError Record → Except MappingError Unit × Record
  | .ok next => (.ok (), next)
  | .error problem => (.error problem, record)

theorem Looks.revise {α : Type} {shape : Except MappingError α}
    {found : Except MappingError α × Record} (looks : record.Looks property shape found)
    (made : α → FieldValue) (change : Change) :
    Record.revise found property made change = record.settle (shape.map fun contents =>
      (record.putValue property (made contents)).note property change) := by
  obtain ⟨result, left⟩ := found
  obtain ⟨rfl, kept, covered⟩ := looks
  cases result with
  | ok contents => simp only [Record.revise, settle, Except.map, covered]
  | error problem =>
      obtain rfl := kept problem rfl
      rfl

/-- In place or not, an operation comes to the same. -/
theorem perform_eq (record : Record) (mutation : Mutation) :
    record.perform mutation = record.settle (record.apply mutation) := by
  cases mutation with
  | listAppend _ _ | listPrepend _ _ => exact looks_listIn.revise _ _
  | setAdd _ _ | setRemove _ _ => exact looks_setIn.revise _ _
  | mapPut _ _ _ | mapRemove _ _ => exact looks_mapIn.revise _ _
  | listSet _ index _ | listRemoveAt _ index => exact (looks_indexedListIn index).revise _ _
  | set _ _ | increment _ _ | clear _ | markClean => rfl

theorem perform_error {left : Record} {mutation : Mutation} :
    record.perform mutation = (.error problem, left) ↔
      record.Refuses mutation problem ∧ left = record := by
  rw [perform_eq, ← apply_error]
  cases record.apply mutation with
  | ok next => simp [settle]
  | error found => simp [settle, eq_comm]

/-- An operation is refused for its reasons alone, and then it is as if it had never been asked
for: the record is the same, and so is what it reports after any further operations. -/
theorem perform_atomic (record : Record) (mutation : Mutation) (problem : MappingError) :
    (∀ left, record.perform mutation = (.error problem, left) ↔
        record.Refuses mutation problem ∧ left = record) ∧
      (record.Refuses mutation problem → ∀ later, record.performAll (mutation :: later) =
        record.performAll later) := by
  refine ⟨fun left => perform_error, fun refused later => ?_⟩
  have failed := perform_error.mpr ⟨refused, rfl⟩
  simp only [performAll, List.foldl_cons, failed]

end Record

end CqlMapper
