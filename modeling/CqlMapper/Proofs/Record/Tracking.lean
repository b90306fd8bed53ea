import CqlMapper.Proofs.Change.WellFormed
import CqlMapper.Proofs.Record.Facet

/-!
What a record reports after any run of operations is its difference from the clean state. Facet by
facet, either the value was replaced, or it was dropped, or the operations noted since lead from
the clean value to the current one.
-/

namespace CqlMapper

open FieldValue PropertyChange

namespace FieldValue

variable {kind : CollectionKind} {value : FieldValue}

theorem isOf_iff :
    value.isOf kind = true ↔ value = .null ∨ value.collectionKind? = some kind := by
  cases value <;> simp [isOf, isNull, collectionKind?]

theorem WellFormed.suits (formed : value.WellFormed) (shape : value.isOf kind = true) :
    value.Suits kind := by
  rcases isOf_iff.mp shape with rfl | there
  · exact suits_null kind
  · cases value with
    | list items =>
        cases there
        exact ⟨items, rfl⟩
    | set items =>
        cases there
        exact ⟨items, rfl, formed.items_of_set.1⟩
    | map entries =>
        cases there
        exact ⟨entries, rfl, (wellFormed_map_iff.mp formed).keys⟩
    | _ => cases there

theorem collectionKind?_onList (shape : value.isOf .list = true)
    (operation : List FieldValue → List FieldValue) :
    (value.onList operation).collectionKind? = some .list := by
  cases value <;> first | rfl | cases shape

theorem collectionKind?_onSet (shape : value.isOf .set = true)
    (operation : List FieldValue → List FieldValue) :
    (value.onSet operation).collectionKind? = some .set := by
  cases value <;> first | rfl | cases shape

theorem collectionKind?_onMap (shape : value.isOf .map = true)
    (operation : List (FieldValue × FieldValue) → List (FieldValue × FieldValue)) :
    (value.onMap operation).collectionKind? = some .map := by
  cases value <;> first | rfl | cases shape

end FieldValue

def Mutation.WellFormed : Mutation → Prop
  | .set _ value | .listSet _ _ value | .setAdd _ value | .setRemove _ value
  | .mapRemove _ value => value.WellFormed
  | .listAppend _ values | .listPrepend _ values => AllFormed values
  | .mapPut _ key value => key.WellFormed ∧ value.WellFormed
  | .increment _ _ | .listRemoveAt _ _ | .clear _ | .markClean => True

namespace Change

theorem WellFormed.named {change : Change} (carried : change.WellFormed) :
    AllFormed change.named := by
  cases change with
  | addToSet _ | removeFromSet _ | removeFromMap _ => exact carried
  | putToMap entries => exact allFormed_map.mpr fun entry member => (carried entry member).1
  | _ => exact fun _ member => absurd member List.not_mem_nil

theorem collectionKind?_applyTo {kind : CollectionKind} {change : Change} {value : FieldValue}
    (suits : change.suits kind = true) (kept : change.isClear = false)
    (shape : value.isOf kind = true) : (change.applyTo value).collectionKind? = some kind := by
  cases change with
  | assign _ => cases suits
  | clear => cases kept
  | append _ | prepend _ | setAt _ _ | removeAt _ =>
      have same : kind = .list := by simpa [Change.suits] using suits
      subst kind
      exact collectionKind?_onList shape _
  | addToSet _ | removeFromSet _ =>
      have same : kind = .set := by simpa [Change.suits] using suits
      subst kind
      exact collectionKind?_onSet shape _
  | putToMap _ | removeFromMap _ =>
      have same : kind = .map := by simpa [Change.suits] using suits
      subst kind
      exact collectionKind?_onMap shape _

end Change

theorem Mutation.WellFormed.operation {mutation : Mutation} {kind : CollectionKind}
    {change : Change} (formed : mutation.WellFormed)
    (operation : mutation.operation? = some (kind, change)) :
    change.WellFormed ∧ change.suits kind = true ∧ change.isClear = false := by
  have single {value : FieldValue} (valueFormed : value.WellFormed) : AllFormed [value] :=
    allFormed_cons.mpr ⟨valueFormed, fun _ member => absurd member List.not_mem_nil⟩
  cases mutation with
  | listAppend _ _ | listPrepend _ _ | listSet _ _ _ =>
      cases operation
      exact ⟨formed, rfl, rfl⟩
  | listRemoveAt _ _ =>
      cases operation
      exact ⟨trivial, rfl, rfl⟩
  | setAdd _ _ | setRemove _ _ | mapRemove _ _ =>
      cases operation
      exact ⟨single formed, rfl, rfl⟩
  | mapPut _ key value =>
      cases operation
      refine ⟨fun entry member => ?_, rfl, rfl⟩
      rw [List.mem_singleton.mp member]
      exact formed
  | _ => cases operation

namespace Facet

inductive Tracks (clean : FieldValue) (facet : Facet) : Prop
  | replaced (assigned : facet.assigned = true) (cleared : facet.cleared = false)
      (operations : facet.operations = [])
  | dropped (assigned : facet.assigned = false) (cleared : facet.cleared = true)
      (operations : facet.operations = [.clear]) (current : facet.current = .null)
  | untouched (assigned : facet.assigned = false) (cleared : facet.cleared = false)
      (operations : facet.operations = []) (current : facet.current = clean)
  | operated (kind : CollectionKind) (assigned : facet.assigned = false)
      (cleared : facet.cleared = false)
      (operations : ∀ change ∈ facet.operations,
        change.WellFormed ∧ change.suits kind = true)
      (start : clean.isOf kind = true)
      (reached : Change.applyAll facet.operations clean = facet.current)
      (shape : facet.current.collectionKind? = some kind)

structure Follows (clean : FieldValue) (facet : Facet) : Prop where
  cleanFormed : clean.WellFormed
  currentFormed : facet.current.WellFormed
  amounts : facet.amounts = []
  tracks : Tracks clean facet

namespace Follows

variable {clean : FieldValue} {facet : Facet}

theorem set {value : FieldValue} (follows : Follows clean facet) (formed : value.WellFormed) :
    Follows clean (facet.set value) :=
  ⟨follows.cleanFormed, formed, follows.amounts, .replaced rfl rfl rfl⟩

theorem clear (follows : Follows clean facet) : Follows clean facet.clear :=
  ⟨follows.cleanFormed, .scalar rfl, follows.amounts, .dropped rfl rfl rfl rfl⟩

theorem markClean (follows : Follows clean facet) : Follows facet.current facet.markClean :=
  ⟨follows.currentFormed, follows.currentFormed, rfl, .untouched rfl rfl rfl rfl⟩

theorem noted {kind : CollectionKind} {change : Change} (follows : Follows clean facet)
    (carried : change.WellFormed) (suits : change.suits kind = true)
    (kept : change.isClear = false) (shape : facet.current.isOf kind = true)
    (assigned : facet.assigned = false) (cleared : facet.cleared = false)
    (operations : ∀ change ∈ facet.operations, change.WellFormed ∧ change.suits kind = true)
    (start : clean.isOf kind = true)
    (reached : Change.applyAll facet.operations clean = facet.current) :
    Follows clean (facet.operate change) := by
  rw [operate_noted assigned cleared]
  refine ⟨follows.cleanFormed, carried.applyTo follows.currentFormed, follows.amounts,
    .operated kind assigned cleared ?_ start ?_ (Change.collectionKind?_applyTo suits kept shape)⟩
  · intro other member
    rcases List.mem_append.mp member with old | new
    · exact operations other old
    · rw [List.mem_singleton.mp new]
      exact ⟨carried, suits⟩
  · rw [Change.applyAll_append, reached]
    rfl

theorem operate {kind : CollectionKind} {change : Change} (follows : Follows clean facet)
    (carried : change.WellFormed) (suits : change.suits kind = true)
    (kept : change.isClear = false) (shape : facet.current.isOf kind = true) :
    Follows clean (facet.operate change) := by
  have formed := carried.applyTo follows.currentFormed
  cases follows.tracks with
  | replaced assigned cleared operations =>
      rw [operate_assigned assigned]
      exact ⟨follows.cleanFormed, formed, follows.amounts, .replaced assigned cleared operations⟩
  | dropped assigned cleared operations current =>
      rw [operate_cleared assigned cleared]
      exact follows.set formed
  | untouched assigned cleared operations current =>
      refine follows.noted carried suits kept shape assigned cleared ?_ (current ▸ shape) ?_
      · simp [operations]
      · rw [operations, current]
        rfl
  | operated earlier assigned cleared operations start reached earlierShape =>
      -- Operations of two kinds never meet: the first of them left a collection of its own kind.
      have same : earlier = kind := by
        rcases isOf_iff.mp shape with absent | there
        · rw [absent] at earlierShape
          cases earlierShape
        · exact Option.some.inj (earlierShape.symm.trans there)
      subst earlier
      exact follows.noted carried suits kept shape assigned cleared operations start reached

end Follows

structure Counts (total : Int) (facet : Facet) : Prop where
  assigned : facet.assigned = false
  operations : facet.operations = []
  amounts : facet.amounts = [] ∧ total = 0 ∨ facet.amounts = [Int64.ofInt total]

theorem Counts.increment {total : Int} {facet : Facet} (counts : Counts total facet)
    (delta : Int64) : Counts (total + delta.toInt) (facet.increment delta) := by
  refine ⟨counts.assigned, counts.operations, Or.inr ?_⟩
  rcases counts.amounts with ⟨amounts, zero⟩ | amounts
  · simp [Facet.increment, amounts, zero]
  · simp [Facet.increment, amounts, Int64.ofInt_add]

theorem Counts.markClean (facet : Facet) : Counts 0 facet.markClean :=
  ⟨rfl, rfl, Or.inl ⟨rfl, rfl⟩⟩

end Facet

namespace Record

theorem changesOf_assigned (property : String) (names : List String) (made : String → Change) :
    changesOf property (names.map fun name => ⟨name, made name⟩) =
      List.replicate (names.count property) (made property) := by
  induction names with
  | nil => rfl
  | cons name names ih =>
      rw [List.map_cons, changesOf_cons, ih, List.count_cons]
      by_cases same : name = property
      · simp [same, List.replicate_succ]
      · simp [same]

theorem changesOf_increments (property : String) (increments : List (String × Int64)) :
    changesOf property ((increments.filter fun entry => entry.2 != 0).map fun entry =>
        ⟨entry.1, .assign (.counter entry.2)⟩) =
      ((((increments.filter fun entry => entry.1 == property).map (·.2)).filter
        (· != 0)).map fun amount => .assign (.counter amount)) := by
  induction increments with
  | nil => rfl
  | cons entry increments ih =>
      by_cases zero : entry.2 = 0
      · by_cases same : entry.1 = property <;> simpa [zero, same] using ih
      · by_cases same : entry.1 = property <;> simpa [zero, same, changesOf_cons] using ih

theorem changesOf_dirtyChanges (record : Record) (property : String) :
    changesOf property record.dirtyChanges =
      List.replicate ((record.assigned.filter record.differs).count property)
        (.assign (record.current property)) ++
      Change.mergeAll (record.facet property).operations ++
      (((record.facet property).amounts.filter (· != 0)).map
        fun amount => .assign (.counter amount)) := by
  rw [dirtyChanges, changesOf_append, changesOf_append, changesOf_assigned, changesOf_merge,
    changesOf_increments]
  rfl

theorem count_assigned_eq_zero {record : Record} {property : String}
    (assigned : (record.facet property).assigned = false) :
    (record.assigned.filter record.differs).count property = 0 := by
  have absent : property ∉ record.assigned := by simpa [facet] using assigned
  exact List.count_eq_zero.mpr fun member => absent (List.mem_filter.mp member).1

theorem applyAll_replicate (count : Nat) (new value : FieldValue) :
    Change.applyAll (List.replicate (count + 1) (.assign new)) value = new := by
  induction count generalizing value with
  | zero => rfl
  | succ count ih =>
      rw [List.replicate_succ, Change.applyAll_cons]
      exact ih _

theorem agrees_of_replaced {record : Record} {property : String}
    (assigned : (record.facet property).assigned = true)
    (formed : (record.current property).WellFormed) :
    (Change.applyAll (List.replicate ((record.assigned.filter record.differs).count property)
      (.assign (record.current property))) (record.snapshot.value property)).agrees
        (record.current property) = true := by
  have member : property ∈ record.assigned := by simpa [facet] using assigned
  by_cases differs : record.differs property = true
  · have reported := List.count_pos_iff.mpr (List.mem_filter.mpr ⟨member, differs⟩)
    obtain ⟨count, positive⟩ := Nat.exists_eq_add_of_lt reported
    rw [positive, Nat.zero_add, applyAll_replicate]
    exact formed.agrees
  · have unreported : (record.assigned.filter record.differs).count property = 0 :=
      List.count_eq_zero.mpr fun reported => differs (List.mem_filter.mp reported).2
    rw [unreported]
    cases held : record.snapshot property with
    | none => simp [Record.differs, held] at differs
    | some clean =>
        have same : (clean == record.current property) = true := by
          simpa [Record.differs, held] using differs
        have value : record.snapshot.value property = clean := by simp [Fields.value, held]
        rw [value]
        exact agrees_of_beq same

theorem agrees_of_follows {record : Record} {property : String}
    (follows : Facet.Follows (record.snapshot.value property) (record.facet property)) :
    (Change.applyAll (changesOf property record.dirtyChanges)
      (record.snapshot.value property)).agrees (record.current property) = true := by
  rw [changesOf_dirtyChanges, follows.amounts, List.filter_nil, List.map_nil, List.append_nil]
  cases follows.tracks with
  | replaced assigned cleared operations =>
      rw [operations]
      change (Change.applyAll (_ ++ []) _).agrees _ = true
      rw [List.append_nil]
      exact agrees_of_replaced assigned follows.currentFormed
  | dropped assigned cleared operations current =>
      rw [count_assigned_eq_zero assigned, operations]
      change FieldValue.null.agrees (record.facet property).current = true
      rw [current]
      rfl
  | untouched assigned cleared operations current =>
      rw [count_assigned_eq_zero assigned, operations, ← current]
      exact follows.currentFormed.agrees
  | operated kind assigned cleared operations start reached shape =>
      rw [count_assigned_eq_zero assigned, List.replicate_zero, List.nil_append]
      have merged := Change.applyAll_mergeAll
        (fun change member => ⟨(operations change member).2, (operations change member).1.named⟩)
        (follows.cleanFormed.suits start)
      have formed := Change.applyAll_wellFormed
        (Change.mergeAll_wellFormed fun change member => (operations change member).1)
        follows.cleanFormed
      rw [reached] at merged
      exact agrees_of_sameContents formed follows.currentFormed merged

inductive Created : Record → Prop
  | new (entity : String) : Created (.new entity)
  | loaded (entity : String) (values : List (String × FieldValue))
      (formed : ∀ entry ∈ values, entry.2.WellFormed) : Created (.loaded entity values)

def attempt (record : Record) (mutation : Mutation) : Record :=
  match record.apply mutation with
  | .ok next => next
  | .error _ => record

theorem attempt_ok {record next : Record} {mutation : Mutation}
    (ok : record.apply mutation = .ok next) : record.attempt mutation = next := by
  simp [attempt, ok]

theorem attempt_error {record : Record} {mutation : Mutation} {problem : MappingError}
    (error : record.apply mutation = .error problem) : record.attempt mutation = record := by
  simp [attempt, error]

theorem snapshot_operate (record : Record) (property : String) (change : Change) :
    (record.operate property change).snapshot = record.snapshot := by
  unfold operate note
  split
  · rfl
  · split <;> rfl

theorem snapshot_apply {record next : Record} {mutation : Mutation}
    (ok : record.apply mutation = .ok next) (kept : mutation ≠ .markClean) :
    next.snapshot = record.snapshot := by
  cases operation : mutation.operation? with
  | some noted =>
      obtain ⟨property, about⟩ := property_of_operation operation
      obtain ⟨_, rfl⟩ := operation_ok about operation ok
      exact snapshot_operate record property noted.2
  | none =>
      cases mutation with
      | set _ _ | increment _ _ | clear _ =>
          cases ok
          rfl
      | markClean => exact absurd rfl kept
      | _ => cases operation

end Record

theorem Fields.forall_setAll {fields : Fields} {condition : FieldValue → Prop}
    (values : List (String × FieldValue)) (each : ∀ entry ∈ values, condition entry.2)
    (held : ∀ property, condition (fields.value property)) :
    ∀ property, condition ((fields.setAll values).value property) := by
  induction values generalizing fields with
  | nil => exact held
  | cons entry values ih =>
      apply ih fun other member => each other (List.mem_cons_of_mem _ member)
      intro property
      by_cases same : property = entry.1
      · rw [same, value_set_same]
        exact each entry List.mem_cons_self
      · rw [value_set_other fields entry.2 same]
        exact held property

/-- A record in use, with its values when it was last clean and the totals added to counters
since. -/
structure Observation where
  record : Record
  clean : Fields
  totals : String → Int

namespace Observation

def start (record : Record) : Observation :=
  ⟨record, record.values, fun _ => 0⟩

def cleanAfter (observation : Observation) : Mutation → Fields
  | .markClean => observation.record.values
  | _ => observation.clean

def totalsAfter (observation : Observation) : Mutation → String → Int
  | .markClean => fun _ => 0
  | .increment property delta => fun name =>
    if name = property then observation.totals name + delta.toInt else observation.totals name
  | _ => observation.totals

def step (observation : Observation) (mutation : Mutation) : Observation :=
  ⟨observation.record.attempt mutation, observation.cleanAfter mutation,
    observation.totalsAfter mutation⟩

def run (observation : Observation) (mutations : List Mutation) : Observation :=
  mutations.foldl step observation

variable {observation : Observation} {mutation : Mutation} {property : String}

theorem step_ok {next : Record} (ok : observation.record.apply mutation = .ok next) :
    observation.step mutation =
      ⟨next, observation.cleanAfter mutation, observation.totalsAfter mutation⟩ := by
  rw [step, Record.attempt_ok ok]

theorem step_error {problem : MappingError}
    (error : observation.record.apply mutation = .error problem) :
    observation.step mutation = observation := by
  rw [step, Record.attempt_error error]
  cases mutation with
  | set _ _ | increment _ _ | clear _ | markClean => cases error
  | _ => rfl

theorem cleanAfter_eq (kept : mutation ≠ .markClean) :
    observation.cleanAfter mutation = observation.clean := by
  cases mutation with
  | markClean => exact absurd rfl kept
  | _ => rfl

theorem snapshot_step (same : observation.record.snapshot = observation.clean) :
    (observation.step mutation).record.snapshot = (observation.step mutation).clean := by
  cases result : observation.record.apply mutation with
  | error problem =>
      rw [step_error result]
      exact same
  | ok next =>
      rw [step_ok result]
      by_cases cleaned : mutation = .markClean
      · subst mutation
        cases result
        rfl
      · change next.snapshot = observation.cleanAfter mutation
        rw [Record.snapshot_apply result cleaned, cleanAfter_eq cleaned]
        exact same

theorem follows_step
    (follows : Facet.Follows (observation.clean.value property) (observation.record.facet property))
    (formed : mutation.WellFormed) (plain : ∀ delta, mutation ≠ .increment property delta) :
    Facet.Follows ((observation.step mutation).clean.value property)
      ((observation.step mutation).record.facet property) := by
  cases result : observation.record.apply mutation with
  | error problem =>
      rw [step_error result]
      exact follows
  | ok next =>
      rw [step_ok result]
      change Facet.Follows ((observation.cleanAfter mutation).value property) (next.facet property)
      have moves := Record.facet_apply property result
      generalize next.facet property = facet at moves
      cases moves with
      | elsewhere about different =>
          rw [cleanAfter_eq (by rintro rfl; cases about)]
          exact follows
      | here about made =>
          cases made with
          | set => exact follows.set formed
          | increment =>
              -- Counters are not followed by their values: they report totals instead.
              have same := about _ rfl
              subst same
              exact absurd rfl (plain _)
          | clear => exact follows.clear
          | markClean => exact follows.markClean
          | operate operation shape =>
              obtain ⟨carried, suits, kept⟩ := formed.operation operation
              rw [cleanAfter_eq (by rintro rfl; cases operation)]
              exact follows.operate carried suits kept shape

theorem counts_step
    (counts : Facet.Counts (observation.totals property) (observation.record.facet property))
    (only : mutation.property? = some property → ∃ delta, mutation = .increment property delta) :
    Facet.Counts ((observation.step mutation).totals property)
      ((observation.step mutation).record.facet property) := by
  cases result : observation.record.apply mutation with
  | error problem =>
      rw [step_error result]
      exact counts
  | ok next =>
      rw [step_ok result]
      change Facet.Counts (observation.totalsAfter mutation property) (next.facet property)
      have moves := Record.facet_apply property result
      generalize next.facet property = facet at moves
      cases moves with
      | elsewhere about different =>
          cases mutation with
          | markClean => cases about
          | increment other delta =>
              have apart : property ≠ other := by
                rintro rfl
                exact different (Option.some.inj about).symm
              simpa [totalsAfter, apart] using counts
          | _ => exact counts
      | here about made =>
          cases made with
          | set | clear =>
              obtain ⟨delta, otherwise⟩ := only (congrArg some (about _ rfl))
              cases otherwise
          | increment =>
              have same := about _ rfl
              subst same
              simpa [totalsAfter] using counts.increment _
          | markClean => exact Facet.Counts.markClean _
          | operate operation shape =>
              obtain ⟨target, named⟩ := Record.property_of_operation operation
              obtain ⟨delta, rfl⟩ := only (about target named ▸ named)
              cases operation

theorem run_keeps (Invariant : Observation → Prop) (mutations : List Mutation)
    (kept : ∀ observation : Observation, ∀ mutation ∈ mutations,
      Invariant observation → Invariant (observation.step mutation))
    (holds : Invariant observation) : Invariant (observation.run mutations) := by
  induction mutations generalizing observation with
  | nil => exact holds
  | cons mutation mutations ih =>
      exact ih (fun later other member => kept later other (List.mem_cons_of_mem _ member))
        (kept observation mutation List.mem_cons_self holds)

theorem snapshot_start {record : Record} (created : record.Created) :
    (start record).record.snapshot = (start record).clean := by
  cases created <;> rfl

theorem follows_start {record : Record} (created : record.Created) :
    Facet.Follows ((start record).clean.value property) ((start record).record.facet property) := by
  cases created with
  | new entity => exact ⟨.scalar rfl, .scalar rfl, rfl, .untouched rfl rfl rfl rfl⟩
  | loaded entity values formed =>
      have all : ∀ property, ((Fields.empty.setAll values).value property).WellFormed :=
        Fields.forall_setAll values formed fun _ => .scalar rfl
      exact ⟨all property, all property, rfl, .untouched rfl rfl rfl rfl⟩

theorem counts_start {record : Record} (created : record.Created) :
    Facet.Counts ((start record).totals property) ((start record).record.facet property) := by
  cases created <;> exact ⟨rfl, rfl, Or.inl ⟨rfl, rfl⟩⟩

end Observation

/-- A counter reports its total once, unless the total is zero. -/
theorem Record.changesOf_of_counts {record : Record} {property : String} {total : Int}
    (counts : Facet.Counts total (record.facet property))
    (lower : Int64.minValue.toInt ≤ total) (upper : total ≤ Int64.maxValue.toInt) :
    ∃ delta : Int64, delta.toInt = total ∧ changesOf property record.dirtyChanges =
      if total = 0 then [] else [.assign (.counter delta)] := by
  have fits : (Int64.ofInt total).toInt = total := by
    apply Int64.toInt_ofInt_of_le
    · exact lower
    · have last : Int64.maxValue.toInt = 9223372036854775807 := rfl
      omega
  have zero_iff : Int64.ofInt total = 0 ↔ total = 0 := by
    constructor
    · intro zero
      rw [← fits, zero]
      rfl
    · rintro rfl
      rfl
  refine ⟨Int64.ofInt total, fits, ?_⟩
  rw [changesOf_dirtyChanges, count_assigned_eq_zero counts.assigned, counts.operations]
  change List.map _ (List.filter _ _) = _
  rcases counts.amounts with ⟨none, zero⟩ | noted
  · simp [none, zero]
  · by_cases zero : total = 0
    · simp [noted, zero]
    · simp [noted, zero_iff, zero]

def Incremented (mutations : List Mutation) (property : String) : Prop :=
  ∃ delta, .increment property delta ∈ mutations

/-- Counters are only ever incremented. -/
def CountersApart (mutations : List Mutation) : Prop :=
  ∀ property, Incremented mutations property → ∀ mutation ∈ mutations,
    mutation.property? = some property → ∃ delta, mutation = .increment property delta

/-- What a record reports after any run leads, replayed on its clean values, to its values of now.
Counters report the totals added to them. -/
theorem dirtyChanges_replay (record : Record) (created : record.Created)
    (mutations : List Mutation) (formed : ∀ mutation ∈ mutations, mutation.WellFormed)
    (apart : CountersApart mutations) :
    let final := (Observation.start record).run mutations
    (∀ property, ¬Incremented mutations property →
      ((replay final.record.dirtyChanges final.clean).value property).agrees
        (final.record.current property) = true) ∧
    ∀ property, Incremented mutations property →
      Int64.minValue.toInt ≤ final.totals property →
      final.totals property ≤ Int64.maxValue.toInt →
      ∃ delta : Int64, delta.toInt = final.totals property ∧
        changesOf property final.record.dirtyChanges =
          if final.totals property = 0 then [] else [.assign (.counter delta)] := by
  intro final
  refine ⟨?_, ?_⟩
  · intro property plain
    have snapshot : final.record.snapshot = final.clean :=
      Observation.run_keeps (fun observation => observation.record.snapshot = observation.clean)
        mutations (fun _ _ _ same => Observation.snapshot_step same)
        (Observation.snapshot_start created)
    have follows : Facet.Follows (final.clean.value property) (final.record.facet property) :=
      Observation.run_keeps
        (fun observation =>
          Facet.Follows (observation.clean.value property) (observation.record.facet property))
        mutations
        (fun _ mutation member follows => Observation.follows_step follows (formed mutation member)
          fun delta same => plain ⟨delta, same ▸ member⟩)
        (Observation.follows_start created)
    rw [value_replay, ← snapshot]
    rw [← snapshot] at follows
    exact Record.agrees_of_follows follows
  · intro property incremented lower upper
    have counts : Facet.Counts (final.totals property) (final.record.facet property) :=
      Observation.run_keeps
        (fun observation =>
          Facet.Counts (observation.totals property) (observation.record.facet property))
        mutations
        (fun _ mutation member counts => Observation.counts_step counts
          (apart property incremented mutation member))
        (Observation.counts_start created)
    exact Record.changesOf_of_counts counts lower upper

def mixedRun : List Mutation :=
  [.setAdd "tags" (.text "old"), .increment "visits" 2, .markClean, .clear "tags",
    .setAdd "tags" (.text "new"), .listAppend "tags" [.text "lost"], .increment "visits" 3,
    .increment "visits" (-1)]

theorem dirtyChanges_replay_mixedRun :
    let final := (Observation.start (.new "page")).run mixedRun
    ((replay final.record.dirtyChanges final.clean).value "tags").agrees
        (final.record.current "tags") = true ∧
      ∃ delta : Int64, delta.toInt = final.totals "visits" ∧
        changesOf "visits" final.record.dirtyChanges =
          if final.totals "visits" = 0 then [] else [.assign (.counter delta)] := by
  have text (value : String) : (FieldValue.text value).WellFormed := .scalar rfl
  have whole := dirtyChanges_replay (.new "page") (.new "page") mixedRun
    (by simp [mixedRun, Mutation.WellFormed, AllFormed, text])
    (by
      rintro property ⟨delta, member⟩ mutation other about
      simp only [mixedRun, List.mem_cons, List.not_mem_nil, or_false] at member other
      rcases other with rfl | rfl | rfl | rfl | rfl | rfl | rfl | rfl <;> cases about <;>
        simp at member ⊢)
  exact ⟨whole.1 "tags" (by simp [Incremented, mixedRun]),
    whole.2 "visits" ⟨2, by simp [mixedRun]⟩ (by decide) (by decide)⟩

end CqlMapper
