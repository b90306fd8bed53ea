import CqlMapper.Proofs.Session.Transcript

/-!
What deferred callbacks do to a world. A callback changes the record of its own entity only, and
after a post event that record is clean.
-/

namespace CqlMapper

namespace Record

theorem entity_setAll (record : Record) (assignments : List (String × FieldValue)) :
    (record.setAll assignments).entity = record.entity := by
  unfold setAll
  induction assignments generalizing record with
  | nil => rfl
  | cons assignment rest ih => exact ih (record.set assignment.1 assignment.2)

theorem dirtyChanges_markClean (record : Record) : record.markClean.dirtyChanges = [] :=
  rfl

end Record

theorem EntitySchema.entity_intercept (schema : EntitySchema) (event : Event) (record : Record) :
    (schema.intercept event record).entity = record.entity := by
  unfold intercept
  generalize schema.interceptorsFor event = interceptors
  induction interceptors generalizing record with
  | nil => rfl
  | cons interceptor rest ih =>
      rw [List.foldl_cons, ih]
      exact record.entity_setAll _

theorem EntitySchema.intercept_of_not {schema : EntitySchema} {event : Event}
    (idle : schema.interceptsOn event = false) (record : Record) :
    schema.intercept event record = record := by
  have none : schema.interceptorsFor event = [] := by
    simpa [interceptorsFor, interceptsOn] using idle
  rw [intercept, none]
  rfl

namespace Callback

def leaves (callback : Callback) (record : Record) : Record :=
  let seen := callback.schema.intercept callback.event record
  if callback.event.isPost then seen.markClean else seen

def touch (callback : Callback) (cell : EntityCell) : EntityCell :=
  if cell.poisoned then cell else { cell with record := callback.leaves cell.record }

def fire (world : World) (callback : Callback) : World :=
  (callback.run world).2

def calls (callback : Callback) (entity : Except WriteError String) :
    List (String × String × Event) :=
  match entity with
  | .ok name => (callback.schema.interceptorsFor callback.event).map fun interceptor =>
      (interceptor.label, name, callback.event)
  | .error _ => []

theorem entity_leaves (callback : Callback) (record : Record) :
    (callback.leaves record).entity = record.entity := by
  unfold leaves
  split <;> exact callback.schema.entity_intercept callback.event record

end Callback

namespace World

variable {world : World}

def entityName (world : World) (entity : EntityRef) : Except WriteError String :=
  (world.lock entity).map (·.entity)

theorem lock_ok {entity : EntityRef} {record : Record} :
    world.lock entity = .ok record ↔
      ∃ cell, world.cells[entity]? = some cell ∧ cell.poisoned = false ∧ cell.record = record := by
  unfold lock cell?
  cases world.cells[entity]? with
  | none => simp
  | some cell => cases poisoned : cell.poisoned <;> simp [poisoned]

theorem Settles.lock {exchanges : List Exchange} {final : World}
    (settles : world.Settles exchanges final) (entity : EntityRef) :
    final.lock entity = world.lock entity := by
  unfold World.lock cell?
  rw [settles.cells]

theorem cells_fire (world : World) (callback : Callback) :
    (callback.fire world).cells = world.cells.modify callback.entity callback.touch := by
  apply List.ext_getElem?
  intro index
  rw [List.getElem?_modify]
  unfold Callback.fire Callback.run
  cases locked : world.lock callback.entity with
  | error error =>
      by_cases same : callback.entity = index
      · subst index
        unfold lock cell? at locked
        cases found : world.cells[callback.entity]? with
        | none => simp
        | some cell =>
            cases poisoned : cell.poisoned with
            | false => simp [found, poisoned] at locked
            | true => simp [Callback.touch, poisoned]
      · simp [same]
  | ok record =>
      obtain ⟨cell, found, clear, rfl⟩ := lock_ok.mp locked
      simp only [note, putRecord, List.getElem?_modify]
      by_cases same : callback.entity = index
      · subst index
        simp [found, Callback.touch, clear, Callback.leaves]
      · simp [same]

theorem lock_fire (callback : Callback) {record : Record}
    (locked : world.lock callback.entity = .ok record) :
    (callback.fire world).lock callback.entity = .ok (callback.leaves record) := by
  obtain ⟨cell, found, clear, rfl⟩ := lock_ok.mp locked
  refine lock_ok.mpr ⟨callback.touch cell, ?_, ?_, ?_⟩
  · rw [cells_fire, List.getElem?_modify, found]
    simp
  · simp [Callback.touch, clear]
  · simp [Callback.touch, clear]

theorem lock_fire_of_ne {callback : Callback} {entity : EntityRef}
    (other : callback.entity ≠ entity) :
    (callback.fire world).lock entity = world.lock entity := by
  unfold lock cell?
  rw [cells_fire, List.getElem?_modify]
  simp [other]

theorem lock_putRecord {entity : EntityRef} {record : Record}
    (locked : world.lock entity = .ok record) (other : Record) :
    (world.putRecord entity other).lock entity = .ok other := by
  obtain ⟨cell, found, clear, rfl⟩ := lock_ok.mp locked
  exact lock_ok.mpr ⟨{ cell with record := other }, by simp [putRecord, found], clear, rfl⟩

theorem entityName_fire (world : World) (callback : Callback) (entity : EntityRef) :
    (callback.fire world).entityName entity = world.entityName entity := by
  unfold entityName lock cell?
  rw [cells_fire, List.getElem?_modify]
  by_cases same : callback.entity = entity
  · subst entity
    cases world.cells[callback.entity]? with
    | none => simp
    | some cell =>
        cases poisoned : cell.poisoned <;>
          simp [Callback.touch, poisoned, Except.map, callback.entity_leaves]
  · simp [same]

theorem interceptions_fire (world : World) (callback : Callback) :
    (callback.fire world).interceptions =
      world.interceptions ++ callback.calls (world.entityName callback.entity) := by
  unfold Callback.fire Callback.run entityName
  cases world.lock callback.entity with
  | error error => simp [Callback.calls, Except.map]
  | ok record =>
      simp [interceptions, note, putRecord, List.filterMap_append, Callback.calls, Except.map,
        EntitySchema.interceptNotices, List.filterMap_map]

def Unlocked (world : World) (entity : EntityRef) : Prop :=
  ∃ record, world.lock entity = .ok record

theorem unlocked_iff {entity : EntityRef} :
    world.Unlocked entity ↔ ∃ name, world.entityName entity = .ok name := by
  unfold Unlocked entityName
  cases world.lock entity <;> simp [Except.map]

end World

namespace Callback

variable {world : World}

theorem run_ok (callback : Callback) (unlocked : world.Unlocked callback.entity) :
    callback.run world = (.ok (), callback.fire world) := by
  obtain ⟨record, locked⟩ := unlocked
  unfold fire run
  rw [locked]

theorem runAll_ok {callbacks : List Callback}
    (unlocked : ∀ callback ∈ callbacks, world.Unlocked callback.entity) :
    runAll callbacks world = (.ok (), callbacks.foldl fire world) := by
  induction callbacks generalizing world with
  | nil => rfl
  | cons callback rest ih =>
      obtain ⟨first, others⟩ := List.forall_mem_cons.mp unlocked
      rw [runAll, run_ok callback first, List.foldl_cons]
      refine ih fun next member => ?_
      rw [World.unlocked_iff, World.entityName_fire, ← World.unlocked_iff]
      exact others next member

theorem runAll_eq_ok {callbacks : List Callback} {final : World}
    (ran : runAll callbacks world = (.ok (), final)) : final = callbacks.foldl fire world := by
  induction callbacks generalizing world with
  | nil =>
      cases ran
      rfl
  | cons callback rest ih =>
      unfold runAll at ran
      split at ran
      · rename_i after first
        have fired : callback.fire world = after := by rw [fire, first]
        rw [List.foldl_cons, fired]
        exact ih ran
      · cases ran

def leavesOf (entity : EntityRef) (callbacks : List Callback) (record : Record) : Record :=
  callbacks.foldl (fun record callback =>
    if callback.entity = entity then callback.leaves record else record) record

theorem lock_fold {entity : EntityRef} {record : Record} (locked : world.lock entity = .ok record)
    (callbacks : List Callback) :
    (callbacks.foldl fire world).lock entity = .ok (leavesOf entity callbacks record) := by
  unfold leavesOf
  induction callbacks generalizing world record with
  | nil => exact locked
  | cons callback rest ih =>
      rw [List.foldl_cons, List.foldl_cons]
      refine ih ?_
      by_cases own : callback.entity = entity
      · subst entity
        rw [if_pos rfl]
        exact World.lock_fire callback locked
      · rw [if_neg own, World.lock_fire_of_ne own]
        exact locked

theorem leavesOf_untouched {entity : EntityRef} {callbacks : List Callback}
    (others : ∀ callback ∈ callbacks, callback.entity ≠ entity) (record : Record) :
    leavesOf entity callbacks record = record := by
  unfold leavesOf
  induction callbacks with
  | nil => rfl
  | cons callback rest ih =>
      obtain ⟨first, later⟩ := List.forall_mem_cons.mp others
      rw [List.foldl_cons, if_neg first]
      exact ih later

/-- Once a post event has been seen to, the record stays clean through all further ones. -/
theorem leavesOf_clean {entity : EntityRef} {callbacks : List Callback} {record : Record}
    (post : ∀ callback ∈ callbacks, callback.event.isPost = true)
    (seen : record.dirtyChanges = [] ∨ ∃ callback ∈ callbacks, callback.entity = entity) :
    (leavesOf entity callbacks record).dirtyChanges = [] := by
  unfold leavesOf
  induction callbacks generalizing record with
  | nil =>
      rcases seen with clean | ⟨callback, member, _⟩
      · exact clean
      · cases member
  | cons callback rest ih =>
      obtain ⟨first, later⟩ := List.forall_mem_cons.mp post
      rw [List.foldl_cons]
      refine ih later ?_
      by_cases own : callback.entity = entity
      · rw [if_pos own, leaves, if_pos first]
        exact Or.inl (Record.dirtyChanges_markClean _)
      · rw [if_neg own]
        rcases seen with clean | ⟨other, member, named⟩
        · exact Or.inl clean
        · rcases List.mem_cons.mp member with rfl | further
          · exact absurd named own
          · exact Or.inr ⟨other, further, named⟩

theorem interceptions_fold (callbacks : List Callback) (world : World) :
    (callbacks.foldl fire world).interceptions = world.interceptions ++
      callbacks.flatMap fun callback => callback.calls (world.entityName callback.entity) := by
  induction callbacks generalizing world with
  | nil => simp
  | cons callback rest ih =>
      rw [List.foldl_cons, ih, World.interceptions_fire, List.flatMap_cons, List.append_assoc]
      simp only [World.entityName_fire]

theorem backend_run (callback : Callback) (world : World) :
    (callback.run world).2.backend = world.backend := by
  unfold run
  split <;> rfl

theorem heard_run (callback : Callback) (world : World) :
    (callback.run world).2.heard = world.heard := by
  unfold run
  split
  · rfl
  · simp [World.heard, World.note, World.putRecord, List.filterMap_append,
      EntitySchema.interceptNotices, List.filterMap_map]

/-- What no callback changes is the same after all of them, also when one fails. -/
theorem view_runAll {α : Type} {view : World → α}
    (kept : ∀ (callback : Callback) (world : World), view (callback.run world).2 = view world)
    (callbacks : List Callback) (world : World) :
    view (runAll callbacks world).2 = view world := by
  induction callbacks generalizing world with
  | nil => rfl
  | cons callback rest ih =>
      have first := kept callback world
      unfold runAll
      split
      · rename_i after ran
        rw [ran] at first
        exact (ih after).trans first
      · rename_i error after ran
        rw [ran] at first
        exact first

end Callback

end CqlMapper
