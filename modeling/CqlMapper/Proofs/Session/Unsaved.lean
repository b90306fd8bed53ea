import CqlMapper.Proofs.Session.Flushing
import CqlMapper.Proofs.Session.Visits

/-!
Changes made to an entity after an operation on it has joined a batch. They are in no statement of
the batch, and stay pending only when no callback on the entity waits for the flush: a post event
leaves the record clean, also of changes that are not the interceptors' own.
-/

namespace CqlMapper

def Callback.assigned (callback : Callback) (record : Record) : List String :=
  let step (seen : Record × List String) (interceptor : Interceptor) : Record × List String :=
    let made := interceptor.react seen.1.values
    (seen.1.setAll made, seen.2 ++ made.map (·.1))
  ((callback.schema.interceptorsFor callback.event).foldl step (record, [])).2

def overwritten (entity : EntityRef) : List Callback → Record → List String
  | [], _ => []
  | callback :: rest, record =>
    if callback.entity = entity then
      callback.assigned record ++ overwritten entity rest (callback.leaves record)
    else overwritten entity rest record

theorem Batch.perform_write {batch queued : Batch} {kind : WriteKind} {entity : EntityRef}
    {options : WriteOptions} {world resting : World}
    (performed : batch.perform (.write kind entity options) world = (.ok (), queued, resting)) :
    ∃ record schema statements, batch.manager.Admits kind entity options world record schema ∧
      batch.context.Adds queued.context statements
        (FlushContext.deferredOn entity schema kind.postEvent) ∧
      ∃ saved, resting.lock entity = .ok saved ∧ saved.dirtyChanges = [] := by
  unfold perform guarded at performed
  dsimp only at performed
  split at performed
  · cases performed
  · have prepares := batch.manager.prepare_prepares kind entity options batch.context world
    generalize batch.manager.prepare kind entity options batch.context world = prepared
      at performed prepares
    obtain ⟨result, context, final⟩ := prepared
    cases performed
    cases prepares with
    | queued admits stamps generated adds clock clean store =>
        exact ⟨_, _, _, admits, adds, _, clean, Record.dirtyChanges_markClean _⟩

def StillPending (entity : EntityRef) (callbacks : List Callback) (held left : Record) : Prop :=
  ∀ change ∈ held.dirtyChanges,
    change ∈ left.dirtyChanges ∨ change.property ∈ overwritten entity callbacks held

theorem stillPending_iff {entity : EntityRef} {callbacks : List Callback} {held : Record}
    (post : ∀ callback ∈ callbacks, callback.event.isPost = true) :
    StillPending entity callbacks held (Callback.leavesOf entity callbacks held) ↔
      (∀ callback ∈ callbacks, callback.entity ≠ entity) ∨
        ∀ change ∈ held.dirtyChanges, change.property ∈ overwritten entity callbacks held := by
  by_cases others : ∀ callback ∈ callbacks, callback.entity ≠ entity
  · rw [Callback.leavesOf_untouched others]
    exact ⟨fun _ => Or.inl others, fun _ change member => Or.inl member⟩
  · have own : ∃ callback ∈ callbacks, callback.entity = entity := by
      simpa using others
    have clean : (Callback.leavesOf entity callbacks held).dirtyChanges = [] :=
      Callback.leavesOf_clean post (Or.inr own)
    simp only [StillPending, clean, List.not_mem_nil, false_or, others]

structure LeavesPending (work : FlushContext) (entity : EntityRef) (later : World) (held : Record)
    (final : World) : Prop where
  /-- What is sent was settled before, whatever is pending now. -/
  sent : final.executed =
    later.executed ++ (work.dispatches later.tracing).map (·.submission)
  pending : ∃ left, final.lock entity = .ok left ∧
    (StillPending entity work.callbacks held left ↔
      (∀ callback ∈ work.callbacks, callback.entity ≠ entity) ∨
        ∀ change ∈ held.dirtyChanges, change.property ∈ overwritten entity work.callbacks held)

theorem run_leavesPending {work : FlushContext}
    (post : ∀ callback ∈ work.callbacks, callback.event.isPost = true) {entity : EntityRef}
    {later final : World} {held : Record} (holds : later.lock entity = .ok held)
    (applied : work.run later = (.ok .applied, final)) :
    LeavesPending work entity later held final := by
  obtain ⟨exchanges, settled, carried, settles, executed, rfl⟩ :=
    FlushContext.run_eq_applied applied
  have locked := (settles.lock entity).trans holds
  refine ⟨?_, _, Callback.lock_fold locked work.callbacks, stillPending_iff post⟩
  rw [executed, settles.executed, ← carried.complete, List.map_map]
  rfl

/-- Changes made to an entity after an operation on it has joined a batch stay pending through an
applied flush just when no callback on the entity waits for it, or when interceptors overwrite them
all. One waits whenever the entity has interceptors for the post event of the operation. -/
theorem unsaved_kept_iff {batch queued : Batch} (reached : batch.Reached) {kind : WriteKind}
    {entity : EntityRef} {options : WriteOptions} {world resting later final : World}
    {after : List (Action × World)} {more : List PendingStatement} {further : List Callback}
    {held : Record}
    (performed : batch.perform (.write kind entity options) world = (.ok (), queued, resting))
    (kept : queued.context.Adds (queued.follow after).context more further)
    (holds : later.lock entity = .ok held)
    (applied : (queued.follow after).context.run later = (.ok .applied, final)) :
    (∃ saved, resting.lock entity = .ok saved ∧ saved.dirtyChanges = []) ∧
    (∃ record schema, batch.manager.Admits kind entity options world record schema ∧
      (schema.interceptsOn kind.postEvent = true →
        ∃ callback ∈ (queued.follow after).context.callbacks, callback.entity = entity)) ∧
    LeavesPending (queued.follow after).context entity later held final := by
  obtain ⟨record, schema, statements, admits, adds, saved⟩ := Batch.perform_write performed
  have orderly : queued.context.Orderly := adds.orderly reached.orderly
    (FlushContext.isPost_deferredOn entity kind.isPost_postEvent)
  refine ⟨saved, ⟨record, schema, admits, ?_⟩, ?_⟩
  · intro intercepted
    refine ⟨⟨entity, schema, kind.postEvent⟩, ?_, rfl⟩
    rw [kept.deferred, adds.deferred, FlushContext.deferredOn, if_pos intercepted]
    simp
  · exact run_leavesPending (Batch.orderly_follow orderly after).post holds applied

def userSchema : EntitySchema :=
  ⟨"User", "users",
    [⟨"id", "id", .partitionKey, ⟨.int, .simple (.native .int)⟩, none⟩,
      ⟨"name", "name", .plain, ⟨.text, .simple (.native .text)⟩, none⟩,
      ⟨"status", "status", .plain, ⟨.text, .simple (.native .text)⟩, none⟩,
      ⟨"logins", "logins", .counter, ⟨.counter, .simple .counter⟩, none⟩],
    none, none, none, none, [⟨"audit", [.postPersist], fun _ => [("status", .text "saved")]⟩]⟩

def userBatch : Batch :=
  Batch.start ⟨[("User", userSchema)], Config.standard⟩ false false none none

def ann : Record :=
  (Record.new "User").setAll [("id", .int 1), ("name", .text "Ann")]

def userWorld : World :=
  ⟨[⟨ann, false⟩], Backend.empty, ⟨fun _ => 0, 0⟩, false, []⟩

def afterInsertion : Except WriteError Unit × Batch × World :=
  userBatch.perform (.write .insert 0 .standard) userWorld

def renamedAnn : Record :=
  (ann.markClean.set "name" (.text "Anna")).increment "logins" 2

def renamedWorld : World :=
  afterInsertion.2.2.putRecord 0 renamedAnn

theorem unsaved_kept_iff_renamed :
    userBatch.Reached ∧ afterInsertion.1 = .ok () ∧ renamedWorld.lock 0 = .ok renamedAnn ∧
      (afterInsertion.2.1.context.run renamedWorld).1 = .ok .applied ∧
      LeavesPending afterInsertion.2.1.context 0 renamedWorld renamedAnn
        (afterInsertion.2.1.context.run renamedWorld).2 := by
  have reached : userBatch.Reached := ⟨_, _, _, _, _, [], rfl⟩
  have turned := unsaved_kept_iff reached
    (show userBatch.perform (.write .insert 0 .standard) userWorld =
      (.ok (), afterInsertion.2.1, afterInsertion.2.2) from rfl)
    (show afterInsertion.2.1.context.Adds (afterInsertion.2.1.follow []).context [] [] from .refl _)
    (show renamedWorld.lock 0 = .ok renamedAnn from rfl)
    (show afterInsertion.2.1.context.run renamedWorld =
      (.ok .applied, (afterInsertion.2.1.context.run renamedWorld).2) from rfl)
  exact ⟨reached, rfl, rfl, rfl, turned.2.2⟩

/-- Neither the new name nor the increment is in a statement of the batch, and its callback, which
sets the status, leaves nothing pending. -/
theorem unsaved_lost :
    afterInsertion.1 = .ok () ∧
      renamedAnn.dirtyChanges =
        [⟨"name", .assign (.text "Anna")⟩, ⟨"logins", .assign (.counter 2)⟩] ∧
      (afterInsertion.2.1.flush renamedWorld).1 = .ok .applied ∧
      overwritten 0 afterInsertion.2.1.context.callbacks renamedAnn = ["status"] ∧
      ((afterInsertion.2.1.flush renamedWorld).2.2.lock 0).map (·.dirtyChanges) = .ok [] := by
  refine ⟨rfl, rfl, rfl, rfl, rfl⟩

end CqlMapper
