import CqlMapper.Record
import CqlMapper.Proofs.Outcome
import CqlMapper.Proofs.Change.Merging

/-!
What a record holds about one property. An operation on a property acts on this alone, and on
nothing that the record holds about other properties.
-/

namespace CqlMapper

structure Facet where
  current : FieldValue
  assigned : Bool
  cleared : Bool
  operations : List Change
  amounts : List Int64

namespace Facet

def set (facet : Facet) (value : FieldValue) : Facet :=
  { facet with current := value, assigned := true, cleared := false, operations := [] }

def clear (facet : Facet) : Facet :=
  { facet with current := .null, assigned := false, cleared := true, operations := [.clear] }

def note (facet : Facet) (change : Change) : Facet :=
  if facet.assigned then facet
  else if facet.cleared then facet.set facet.current
  else { facet with operations := facet.operations ++ [change] }

def operate (facet : Facet) (change : Change) : Facet :=
  { facet with current := change.applyTo facet.current }.note change

theorem operate_assigned {facet : Facet} (assigned : facet.assigned = true) (change : Change) :
    facet.operate change = { facet with current := change.applyTo facet.current } := by
  simp [operate, note, assigned]

theorem operate_cleared {facet : Facet} (assigned : facet.assigned = false)
    (cleared : facet.cleared = true) (change : Change) :
    facet.operate change = facet.set (change.applyTo facet.current) := by
  simp [operate, note, set, assigned, cleared]

theorem operate_noted {facet : Facet} (assigned : facet.assigned = false)
    (cleared : facet.cleared = false) (change : Change) :
    facet.operate change =
      { facet with
        current := change.applyTo facet.current
        operations := facet.operations ++ [change] } := by
  simp [operate, note, assigned, cleared]

def increment (facet : Facet) (delta : Int64) : Facet :=
  { facet with
    amounts := match facet.amounts with
      | [] => [delta]
      | amount :: rest => (amount + delta) :: rest }

def markClean (facet : Facet) : Facet :=
  ⟨facet.current, false, false, [], []⟩

end Facet

def Mutation.operation? : Mutation → Option (CollectionKind × Change)
  | .listAppend _ values => some (.list, .append values)
  | .listPrepend _ values => some (.list, .prepend values)
  | .listSet _ index value => some (.list, .setAt index value)
  | .listRemoveAt _ index => some (.list, .removeAt index)
  | .setAdd _ value => some (.set, .addToSet [value])
  | .setRemove _ value => some (.set, .removeFromSet [value])
  | .mapPut _ key value => some (.map, .putToMap [(key, value)])
  | .mapRemove _ key => some (.map, .removeFromMap [key])
  | _ => none

namespace FieldValue

def collectionKind? : FieldValue → Option CollectionKind
  | .list _ => some .list
  | .set _ => some .set
  | .map _ => some .map
  | _ => none

def isOf (kind : CollectionKind) (value : FieldValue) : Bool :=
  value.isNull || value.collectionKind? == some kind

end FieldValue

namespace Facet

/-- What a successful operation on a property does there. Cleaning is about every property. -/
inductive Step (facet : Facet) : Mutation → Facet → Prop
  | set {property : String} {value : FieldValue} :
      Step facet (.set property value) (facet.set value)
  | increment {property : String} {delta : Int64} :
      Step facet (.increment property delta) (facet.increment delta)
  | clear {property : String} : Step facet (.clear property) facet.clear
  | markClean : Step facet .markClean facet.markClean
  | operate {mutation : Mutation} {kind : CollectionKind} {change : Change}
      (operation : mutation.operation? = some (kind, change))
      (shape : facet.current.isOf kind = true) : Step facet mutation (facet.operate change)

inductive Moves (mutation : Mutation) (property : String) (facet : Facet) : Facet → Prop
  | here {next : Facet} (about : ∀ target, mutation.property? = some target → target = property)
      (step : Step facet mutation next) : Moves mutation property facet next
  | elsewhere {other : String} (about : mutation.property? = some other)
      (different : other ≠ property) : Moves mutation property facet facet

theorem Moves.target {mutation : Mutation} {property target : String} {facet next changed : Facet}
    (about : mutation.property? = some target)
    (effect : next = if target = property then changed else facet)
    (step : target = property → Step facet mutation changed) :
    Moves mutation property facet next := by
  by_cases same : target = property
  · rw [effect, if_pos same]
    refine .here (fun other otherwise => ?_) (step same)
    rw [about] at otherwise
    exact (Option.some.inj otherwise).symm.trans same
  · rw [effect, if_neg same]
    exact .elsewhere about same

end Facet

namespace Record

open PropertyChange

def operate (record : Record) (property : String) (change : Change) : Record :=
  (record.putValue property (change.applyTo (record.current property))).note property change

def facet (record : Record) (property : String) : Facet where
  current := record.current property
  assigned := record.assigned.contains property
  cleared := record.cleared.contains property
  operations := changesOf property record.operations
  amounts := (record.increments.filter fun entry => entry.1 == property).map (·.2)

theorem mem_added (property other : String) (names : List String) :
    other ∈ (if property ∈ names then names else names ++ [property]) ↔
      property = other ∨ other ∈ names := by
  by_cases member : property ∈ names
  · rw [if_pos member]
    constructor
    · exact Or.inr
    · rintro (rfl | there)
      · exact member
      · exact there
  · rw [if_neg member, List.mem_append, List.mem_singleton, eq_comm]
    exact or_comm

theorem changesOf_dropped (property other : String) (changes : List PropertyChange) :
    changesOf other (changes.filter fun change => change.property != property) =
      if property = other then [] else changesOf other changes := by
  induction changes with
  | nil => simp
  | cons change changes ih =>
      rw [List.filter_cons]
      by_cases first : change.property = property
      · by_cases same : property = other
        · subst other
          simpa [first] using ih
        · simp [first, ih, same]
      · by_cases same : property = other
        · subst other
          simp [first, ih]
        · simp [first, ih, same]

theorem amounts_addIncrement (property other : String) (delta : Int64)
    (increments : List (String × Int64)) :
    ((addIncrement property delta increments).filter fun entry => entry.1 == other).map (·.2) =
      if property = other then
        match (increments.filter fun entry => entry.1 == other).map (·.2) with
        | [] => [delta]
        | amount :: rest => (amount + delta) :: rest
      else (increments.filter fun entry => entry.1 == other).map (·.2) := by
  induction increments with
  | nil => by_cases same : property = other <;> simp [addIncrement, same]
  | cons entry increments ih =>
      by_cases first : entry.1 = property
      · by_cases same : property = other <;> simp [addIncrement, first, same]
      · by_cases same : property = other
        · subst other
          simpa [addIncrement, first] using ih
        · by_cases found : entry.1 = other
          · subst other
            simpa [addIncrement, first, same] using ih
          · simpa [addIncrement, first, same, found] using ih

variable (record : Record) (property other : String)

theorem facet_set (value : FieldValue) : (record.set property value).facet other =
    if property = other then (record.facet other).set value else record.facet other := by
  by_cases same : property = other
  · subst other
    simp [facet, Facet.set, current, Fields.set, set, mem_added, changesOf_dropped]
  · simp [facet, current, Fields.set, set, mem_added, changesOf_dropped, same, Ne.symm same]

theorem facet_clear : (record.clear property).facet other =
    if property = other then (record.facet other).clear else record.facet other := by
  by_cases same : property = other
  · subst other
    simp [facet, Facet.clear, current, Fields.set, clear, mem_added, changesOf_dropped]
  · simp [facet, current, Fields.set, clear, mem_added, changesOf_dropped, same, Ne.symm same]

theorem facet_note (change : Change) : (record.note property change).facet other =
    if property = other then (record.facet other).note change else record.facet other := by
  by_cases assigned : property ∈ record.assigned
  · by_cases same : property = other
    · subst other
      simp [note, Facet.note, facet, assigned]
    · simp [note, assigned, same]
  · by_cases cleared : property ∈ record.cleared
    · rw [note, if_neg assigned, if_pos cleared, facet_set]
      by_cases same : property = other
      · subst other
        simp [Facet.note, facet, assigned, cleared]
      · simp [same]
    · by_cases same : property = other
      · subst other
        simp [note, Facet.note, facet, current, assigned, cleared]
      · simp [note, facet, current, assigned, cleared, same]

theorem facet_operate (change : Change) : (record.operate property change).facet other =
    if property = other then (record.facet other).operate change else record.facet other := by
  rw [operate, facet_note]
  by_cases same : property = other
  · subst other
    simp [Facet.operate, facet, current, Fields.set, putValue]
  · simp [facet, current, Fields.set, putValue, Ne.symm same, same]

theorem facet_increment (delta : Int64) : (record.increment property delta).facet other =
    if property = other then (record.facet other).increment delta else record.facet other := by
  by_cases same : property = other
  · subst other
    simp [facet, Facet.increment, increment, current, amounts_addIncrement]
  · simp [facet, increment, current, amounts_addIncrement, same]

theorem facet_markClean : record.markClean.facet property = (record.facet property).markClean := by
  simp [facet, markClean, Facet.markClean, current]

theorem listAt_ok {record : Record} {property : String} {items : List FieldValue}
    (found : record.listAt property = .ok items) :
    (record.current property).isOf .list = true ∧
      ∀ operation, (record.current property).onList operation = .list (operation items) := by
  unfold listAt at found
  cases held : record.current property <;> rw [held] at found <;> cases found <;>
    exact ⟨rfl, fun _ => rfl⟩

theorem setAt_ok {record : Record} {property : String} {items : List FieldValue}
    (found : record.setAt property = .ok items) :
    (record.current property).isOf .set = true ∧
      ∀ operation, (record.current property).onSet operation = .set (operation items) := by
  unfold setAt at found
  cases held : record.current property <;> rw [held] at found <;> cases found <;>
    exact ⟨rfl, fun _ => rfl⟩

theorem mapAt_ok {record : Record} {property : String} {entries : List (FieldValue × FieldValue)}
    (found : record.mapAt property = .ok entries) :
    (record.current property).isOf .map = true ∧
      ∀ operation, (record.current property).onMap operation = .map (operation entries) := by
  unfold mapAt at found
  cases held : record.current property <;> rw [held] at found <;> cases found <;>
    exact ⟨rfl, fun _ => rfl⟩

theorem indexedListAt_ok {record : Record} {property : String} {index : Nat}
    {items : List FieldValue} (found : record.indexedListAt property index = .ok items) :
    record.listAt property = .ok items := by
  unfold indexedListAt at found
  obtain ⟨held, listed, bounded⟩ := Outcome.bind_eq_ok.mp found
  split at bounded
  · exact listed.trans bounded
  · cases bounded

theorem operation_ok {record next : Record} {mutation : Mutation} {property : String}
    {kind : CollectionKind} {change : Change} (about : mutation.property? = some property)
    (operation : mutation.operation? = some (kind, change))
    (ok : record.apply mutation = .ok next) :
    (record.current property).isOf kind = true ∧ next = record.operate property change := by
  cases mutation with
  | listAppend _ _ | listPrepend _ _ =>
      cases about
      cases operation
      obtain ⟨items, found, rfl⟩ := Outcome.map_eq_ok.mp ok
      obtain ⟨shape, effect⟩ := listAt_ok found
      exact ⟨shape, by rw [operate, Change.applyTo, effect]⟩
  | listSet _ _ _ | listRemoveAt _ _ =>
      cases about
      cases operation
      obtain ⟨items, found, rfl⟩ := Outcome.map_eq_ok.mp ok
      obtain ⟨shape, effect⟩ := listAt_ok (indexedListAt_ok found)
      exact ⟨shape, by rw [operate, Change.applyTo, effect]⟩
  | setAdd _ _ | setRemove _ _ =>
      cases about
      cases operation
      obtain ⟨items, found, rfl⟩ := Outcome.map_eq_ok.mp ok
      obtain ⟨shape, effect⟩ := setAt_ok found
      exact ⟨shape, by rw [operate, Change.applyTo, effect]; rfl⟩
  | mapPut _ _ _ | mapRemove _ _ =>
      cases about
      cases operation
      obtain ⟨entries, found, rfl⟩ := Outcome.map_eq_ok.mp ok
      obtain ⟨shape, effect⟩ := mapAt_ok found
      exact ⟨shape, by rw [operate, Change.applyTo, effect]; rfl⟩
  | _ => cases operation

theorem property_of_operation {mutation : Mutation} {kind : CollectionKind} {change : Change}
    (operation : mutation.operation? = some (kind, change)) :
    ∃ property, mutation.property? = some property := by
  cases mutation with
  | increment _ _ | markClean => cases operation
  | _ => exact ⟨_, rfl⟩

/-- A successful operation is a step of the facets that it is about, and of no other. -/
theorem facet_apply {record next : Record} {mutation : Mutation} (property : String)
    (ok : record.apply mutation = .ok next) :
    Facet.Moves mutation property (record.facet property) (next.facet property) := by
  cases operation : mutation.operation? with
  | some noted =>
      obtain ⟨kind, change⟩ := noted
      obtain ⟨target, about⟩ := property_of_operation operation
      obtain ⟨shape, rfl⟩ := operation_ok about operation ok
      exact .target about (facet_operate record target property change) fun same =>
        .operate operation (same ▸ shape)
  | none =>
      cases mutation with
      | set target value =>
          cases ok
          exact .target rfl (facet_set record target property value) fun _ => .set
      | increment target delta =>
          cases ok
          exact .target rfl (facet_increment record target property delta) fun _ => .increment
      | clear target =>
          cases ok
          exact .target rfl (facet_clear record target property) fun _ => .clear
      | markClean =>
          cases ok
          rw [facet_markClean]
          exact .here (fun target about => by cases about) .markClean
      | _ => cases operation

end Record

end CqlMapper
