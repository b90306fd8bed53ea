import CqlMapper.Proofs.Record.Assigned
import CqlMapper.Proofs.Record.Tracking

/-!
The collections that pending operations are about. An operation that a record reports works on the
kind of collection that its property holds.
-/

namespace CqlMapper

namespace Change

def collectionKind? : Change → Option CollectionKind
  | .append _ | .prepend _ | .setAt _ _ | .removeAt _ => some .list
  | .addToSet _ | .removeFromSet _ => some .set
  | .putToMap _ | .removeFromMap _ => some .map
  | .assign _ | .clear => none

def Within (kinds : CollectionKind → Prop) (change : Change) : Prop :=
  ∀ kind, change.collectionKind? = some kind → kinds kind

variable {kinds : CollectionKind → Prop} {change : Change} {kind : CollectionKind}

theorem within_of_none (whole : change.collectionKind? = none) : change.Within kinds := by
  intro kind works
  rw [whole] at works
  cases works

theorem suits_of_collectionKind? (works : change.collectionKind? = some kind) :
    change.suits kind = true ∧ change.isClear = false := by
  cases change <;> cases works <;> exact ⟨rfl, rfl⟩

end Change

namespace MergedChanges

structure Within (kinds : CollectionKind → Prop) (merged : MergedChanges) : Prop where
  listChanges : ∀ change ∈ merged.listChanges, change.Within kinds
  sets : merged.added = [] ∧ merged.removed = [] ∨ kinds .set
  maps : merged.put = [] ∧ merged.dropped = [] ∨ kinds .map

variable {kinds : CollectionKind → Prop} {merged : MergedChanges}

theorem Within.step {change : Change} (within : merged.Within kinds)
    (works : change.Within kinds) : (step merged change).Within kinds := by
  have noted : { merged with listChanges := merged.listChanges ++ [change] }.Within kinds :=
    { within with
      listChanges := List.forall_mem_append.mpr
        ⟨within.listChanges, List.forall_mem_singleton.mpr works⟩ }
  cases change with
  | addToSet values =>
      have sets := works .set rfl
      exact List.foldlRecOn (motive := Within kinds) values add within fun _ kept _ _ =>
        ⟨kept.listChanges, Or.inr sets, kept.maps⟩
  | removeFromSet values =>
      have sets := works .set rfl
      exact List.foldlRecOn (motive := Within kinds) values remove within fun _ kept _ _ =>
        ⟨kept.listChanges, Or.inr sets, kept.maps⟩
  | putToMap entries =>
      have maps := works .map rfl
      exact List.foldlRecOn (motive := Within kinds) entries putEntry within fun _ kept _ _ =>
        ⟨kept.listChanges, kept.sets, Or.inr maps⟩
  | removeFromMap keys =>
      have maps := works .map rfl
      exact List.foldlRecOn (motive := Within kinds) keys dropKey within fun _ kept _ _ =>
        ⟨kept.listChanges, kept.sets, Or.inr maps⟩
  | _ => exact noted

theorem Within.changes (within : merged.Within kinds) :
    ∀ change ∈ merged.changes, change.Within kinds := by
  have ofKind {changed : Change} {kind : CollectionKind} (works : changed.collectionKind? = kind)
      (held : kinds kind) : changed.Within kinds := by
    intro other same
    cases works.symm.trans same
    exact held
  refine forall_mem_changes within.listChanges (fun something => ?_) (fun something => ?_)
    (fun something => ?_) fun something => ?_
  · exact ofKind rfl (within.sets.resolve_left fun none => something none.1)
  · exact ofKind rfl (within.sets.resolve_left fun none => something none.2)
  · exact ofKind rfl (within.maps.resolve_left fun none => something none.1)
  · exact ofKind rfl (within.maps.resolve_left fun none => something none.2)

end MergedChanges

/-- Merging brings in no kind of collection that was not worked on. -/
theorem Change.mergeAll_within {kinds : CollectionKind → Prop} {changes : List Change}
    (works : ∀ change ∈ changes, change.Within kinds) :
    ∀ change ∈ mergeAll changes, change.Within kinds := by
  have nothing : MergedChanges.empty.Within kinds :=
    ⟨List.forall_mem_nil _, Or.inl ⟨rfl, rfl⟩, Or.inl ⟨rfl, rfl⟩⟩
  exact forall_mem_mergeAll works (within_of_none rfl) nothing MergedChanges.Within.step
    MergedChanges.Within.changes

namespace Facet

/-- Operations are pending on the collection that is held, and on no property assigned as a
whole. -/
structure Housed (facet : Facet) : Prop where
  assigned : facet.assigned = true → facet.operations = []
  operations : ∀ change ∈ facet.operations,
    change.Within fun kind => facet.current.collectionKind? = some kind

theorem housed_of_nil {facet : Facet} (nothing : facet.operations = []) : facet.Housed := by
  refine ⟨fun _ => nothing, ?_⟩
  rw [nothing]
  exact List.forall_mem_nil _

theorem Housed.operate {facet : Facet} (housed : facet.Housed) {kind : CollectionKind}
    {change : Change} (works : change.collectionKind? = some kind)
    (shape : facet.current.isOf kind = true) : (facet.operate change).Housed := by
  cases assigned : facet.assigned with
  | true =>
      rw [operate_assigned assigned]
      exact housed_of_nil (housed.assigned assigned)
  | false =>
      cases cleared : facet.cleared with
      | true =>
          rw [operate_cleared assigned cleared]
          exact housed_of_nil rfl
      | false =>
          obtain ⟨suits, kept⟩ := Change.suits_of_collectionKind? works
          have held := Change.collectionKind?_applyTo suits kept shape
          rw [operate_noted assigned cleared]
          refine ⟨fun known => absurd (assigned.symm.trans known) Bool.false_ne_true, ?_⟩
          refine List.forall_mem_append.mpr ⟨?_, List.forall_mem_singleton.mpr ?_⟩
          · intro earlier member other worked
            -- Operations of two kinds never meet, since the first left a collection of its own.
            have before := housed.operations earlier member other worked
            rcases FieldValue.isOf_iff.mp shape with absent | there
            · rw [absent] at before
              cases before
            · cases before.symm.trans there
              exact held
          · intro other same
            cases works.symm.trans same
            exact held

theorem collectionKind?_of_operation {mutation : Mutation} {kind : CollectionKind}
    {change : Change} (operation : mutation.operation? = some (kind, change)) :
    change.collectionKind? = some kind := by
  cases mutation <;> cases operation <;> rfl

theorem Housed.step {facet next : Facet} {mutation : Mutation} (housed : facet.Housed)
    (step : facet.Step mutation next) : next.Housed := by
  cases step with
  | set => exact housed_of_nil rfl
  | increment => exact ⟨housed.assigned, housed.operations⟩
  | clear =>
      refine ⟨fun assigned => absurd assigned Bool.false_ne_true, ?_⟩
      exact List.forall_mem_singleton.mpr (Change.within_of_none rfl)
  | markClean => exact housed_of_nil rfl
  | operate operation shape => exact housed.operate (collectionKind?_of_operation operation) shape

theorem Housed.moves {facet next : Facet} {mutation : Mutation} {property : String}
    (housed : facet.Housed) (moves : Moves mutation property facet next) : next.Housed := by
  cases moves with
  | here about step => exact housed.step step
  | elsewhere about different => exact housed

end Facet

namespace Record

variable {record : Record}

theorem Reached.housed (reached : record.Reached) (property : String) :
    (record.facet property).Housed := by
  induction reached with
  | new entity | loaded entity values => exact Facet.housed_of_nil rfl
  | apply reached mutation ok ih => exact ih.moves (facet_apply property ok)

/-- A property on whose collection an operation is reported holds such a collection. -/
theorem Reached.collectionKind?_current (reached : record.Reached) {change : PropertyChange}
    (reported : change ∈ record.dirtyChanges) {kind : CollectionKind}
    (works : change.change.collectionKind? = some kind) :
    (record.current change.property).collectionKind? = some kind := by
  have whole {value : FieldValue} (same : change.change = .assign value) : False := by
    rw [same] at works
    cases works
  rcases List.mem_append.mp reported with front | increment
  · rcases List.mem_append.mp front with assigned | operation
    · obtain ⟨property, _, rfl⟩ := List.mem_map.mp assigned
      exact (whole rfl).elim
    · obtain ⟨property, _, own⟩ := List.mem_flatMap.mp operation
      obtain ⟨merged, belongs, rfl⟩ := List.mem_map.mp own
      have housed := reached.housed property
      exact Change.mergeAll_within housed.operations merged belongs kind works
  · obtain ⟨entry, _, rfl⟩ := List.mem_map.mp increment
    exact (whole rfl).elim

end Record

end CqlMapper
