import Mathlib.Data.List.Nodup
import CqlMapper.Proofs.Change.WellFormed
import CqlMapper.Proofs.Record.Facet

/-!
The whole values that a record reports. Operations noted are merged into operations only, so that
whole values come from assigned properties, each of which is named once, and from counters.
-/

namespace CqlMapper

namespace MergedChanges

/-- No whole value has been taken for an operation on a list. -/
def Piecemeal (merged : MergedChanges) : Prop :=
  ∀ change ∈ merged.listChanges, change.isAssign = false

variable {merged : MergedChanges}

theorem Piecemeal.step {change : Change} (piecemeal : merged.Piecemeal)
    (part : change.isAssign = false) : (step merged change).Piecemeal := by
  have noted : { merged with listChanges := merged.listChanges ++ [change] }.Piecemeal :=
    List.forall_mem_append.mpr ⟨piecemeal, List.forall_mem_singleton.mpr part⟩
  cases change with
  | addToSet values =>
      exact List.foldlRecOn (motive := Piecemeal) values add piecemeal fun _ kept _ _ => kept
  | removeFromSet values =>
      exact List.foldlRecOn (motive := Piecemeal) values remove piecemeal fun _ kept _ _ => kept
  | putToMap entries =>
      exact List.foldlRecOn (motive := Piecemeal) entries putEntry piecemeal
        fun _ kept _ _ => kept
  | removeFromMap keys =>
      exact List.foldlRecOn (motive := Piecemeal) keys dropKey piecemeal fun _ kept _ _ => kept
  | _ => exact noted

theorem Piecemeal.changes (piecemeal : merged.Piecemeal) :
    ∀ change ∈ merged.changes, change.isAssign = false :=
  forall_mem_changes piecemeal (fun _ => rfl) (fun _ => rfl) (fun _ => rfl) fun _ => rfl

end MergedChanges

theorem Change.mergeAll_parts {changes : List Change}
    (parts : ∀ change ∈ changes, change.isAssign = false) :
    ∀ change ∈ mergeAll changes, change.isAssign = false := by
  have nothing : MergedChanges.empty.Piecemeal := List.forall_mem_nil _
  exact forall_mem_mergeAll parts rfl nothing MergedChanges.Piecemeal.step
    MergedChanges.Piecemeal.changes

theorem PropertyChange.merge_parts {changes : List PropertyChange}
    (parts : ∀ change ∈ changes, change.change.isAssign = false) :
    ∀ change ∈ merge changes, change.change.isAssign = false := by
  intro change member
  obtain ⟨property, _, own⟩ := List.mem_flatMap.mp member
  obtain ⟨merged, belongs, rfl⟩ := List.mem_map.mp own
  refine Change.mergeAll_parts ?_ merged belongs
  intro other noted
  obtain ⟨source, among, rfl⟩ := List.mem_map.mp noted
  exact parts source (List.mem_filter.mp among).1

namespace Record

inductive Reached : Record → Prop
  | new (entity : String) : Reached (.new entity)
  | loaded (entity : String) (values : List (String × FieldValue)) : Reached (.loaded entity values)
  | apply {record next : Record} (reached : Reached record) (mutation : Mutation)
      (ok : record.apply mutation = .ok next) : Reached next

structure Tidy (record : Record) : Prop where
  assigned : record.assigned.Nodup
  operations : ∀ change ∈ record.operations, change.change.isAssign = false

variable {record next : Record}

theorem Tidy.set (tidy : record.Tidy) (property : String) (value : FieldValue) :
    (record.set property value).Tidy := by
  refine ⟨?_, fun change member => tidy.operations change (List.mem_filter.mp member).1⟩
  change (if property ∈ record.assigned then record.assigned
    else record.assigned ++ [property]).Nodup
  by_cases known : property ∈ record.assigned
  · rw [if_pos known]
    exact tidy.assigned
  · rw [if_neg known, ← List.concat_eq_append]
    exact tidy.assigned.concat known

theorem Tidy.clear (tidy : record.Tidy) (property : String) : (record.clear property).Tidy := by
  refine ⟨tidy.assigned.filter _, ?_⟩
  refine List.forall_mem_append.mpr ⟨?_, List.forall_mem_singleton.mpr rfl⟩
  intro change member
  exact tidy.operations change (List.mem_filter.mp member).1

theorem Tidy.note (tidy : record.Tidy) (property : String) {change : Change}
    (part : change.isAssign = false) : (record.note property change).Tidy := by
  unfold Record.note
  split
  · exact tidy
  · split
    · exact tidy.set property _
    · exact ⟨tidy.assigned,
        List.forall_mem_append.mpr ⟨tidy.operations, List.forall_mem_singleton.mpr part⟩⟩

theorem part_of_operation {mutation : Mutation} {kind : CollectionKind} {change : Change}
    (operation : mutation.operation? = some (kind, change)) : change.isAssign = false := by
  cases mutation <;> cases operation <;> rfl

theorem Tidy.apply {mutation : Mutation} (tidy : record.Tidy)
    (ok : record.apply mutation = .ok next) : next.Tidy := by
  cases operation : mutation.operation? with
  | some noted =>
      obtain ⟨kind, change⟩ := noted
      obtain ⟨property, about⟩ := property_of_operation operation
      obtain ⟨_, rfl⟩ := operation_ok about operation ok
      have written : (record.putValue property (change.applyTo (record.current property))).Tidy :=
        ⟨tidy.assigned, tidy.operations⟩
      exact written.note property (part_of_operation operation)
  | none =>
      cases mutation with
      | set property value =>
          cases ok
          exact tidy.set property value
      | increment property delta =>
          cases ok
          exact ⟨tidy.assigned, tidy.operations⟩
      | clear property =>
          cases ok
          exact tidy.clear property
      | markClean =>
          cases ok
          exact ⟨List.nodup_nil, List.forall_mem_nil _⟩
      | _ => cases operation

theorem Reached.tidy (reached : record.Reached) : record.Tidy := by
  induction reached with
  | new entity => exact ⟨List.nodup_nil, List.forall_mem_nil _⟩
  | loaded entity values => exact ⟨List.nodup_nil, List.forall_mem_nil _⟩
  | apply reached mutation ok ih => exact ih.apply ok

/-- The whole values that a record reports, unless they are amounts of counters, come from assigned
properties. -/
theorem Tidy.filter_wholes (tidy : record.Tidy) {chosen : PropertyChange → Bool}
    (wholes : ∀ change, chosen change = true → change.change.isAssign = true)
    (plain : ∀ change ∈ record.dirtyChanges.filter chosen, ∀ amount,
      change.change ≠ .assign (.counter amount)) :
    record.dirtyChanges.filter chosen =
      ((record.assigned.filter record.differs).map fun property =>
        (⟨property, .assign (record.current property)⟩ : PropertyChange)).filter chosen := by
  have operations : (PropertyChange.merge record.operations).filter chosen = [] := by
    refine List.filter_eq_nil_iff.mpr ?_
    intro change member kept
    have part := PropertyChange.merge_parts tidy.operations change member
    rw [wholes change kept] at part
    cases part
  have amounts : ((record.increments.filter fun entry => entry.2 != 0).map fun entry =>
      (⟨entry.1, .assign (.counter entry.2)⟩ : PropertyChange)).filter chosen = [] := by
    refine List.filter_eq_nil_iff.mpr ?_
    intro change member kept
    have reported : change ∈ record.dirtyChanges := List.mem_append_right _ member
    obtain ⟨entry, _, rfl⟩ := List.mem_map.mp member
    exact plain _ (List.mem_filter.mpr ⟨reported, kept⟩) entry.2 rfl
  rw [dirtyChanges, List.filter_append, List.filter_append, operations, amounts, List.append_nil,
    List.append_nil]

theorem Tidy.wholes_nodup (tidy : record.Tidy) {chosen : PropertyChange → Bool}
    (wholes : ∀ change, chosen change = true → change.change.isAssign = true)
    (plain : ∀ change ∈ record.dirtyChanges.filter chosen, ∀ amount,
      change.change ≠ .assign (.counter amount)) :
    ((record.dirtyChanges.filter chosen).map (·.property)).Nodup := by
  rw [tidy.filter_wholes wholes plain]
  have named : ((record.assigned.filter record.differs).map fun property =>
      (⟨property, .assign (record.current property)⟩ : PropertyChange)).map (·.property) =
        record.assigned.filter record.differs := by
    rw [List.map_map]
    exact List.map_id _
  have distinct : (((record.assigned.filter record.differs).map fun property =>
      (⟨property, .assign (record.current property)⟩ : PropertyChange)).map
        (·.property)).Nodup := by
    rw [named]
    exact tidy.assigned.filter _
  exact distinct.sublist (List.filter_sublist.map _)

end Record

end CqlMapper
